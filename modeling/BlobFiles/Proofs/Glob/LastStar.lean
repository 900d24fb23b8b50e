import BlobFiles.Proofs.Glob.Blocks
import BlobFiles.Proofs.Glob.Token

/-! # Going back to the last star is enough

A segment pattern, cut into tokens, matches the texts that its tokens fit. The matcher runs without
choices up to the next star, and when it is stuck it gives one more character to the last star it
has passed and forgets those before. Nothing is lost by that: all tokens but the stars take one
character whatever it is, so any match reaches the next star no earlier than the run does, and the
last star can take what the earlier ones would have taken more.
-/
namespace BlobFiles.Glob

def Matches (pattern text : List Char) : Prop :=
  ∃ tokens, Tokens pattern tokens ∧ Fits Token.Takes tokens text

theorem matches_of_firstToken {pattern rest text : List Char} {token : Token}
    (h : FirstToken pattern token rest) :
    Matches pattern text ↔
      ∃ block back, text = block ++ back ∧ token.Takes block ∧ Matches rest back := by
  constructor
  · rintro ⟨tokens, hTokens, hFits⟩
    cases hTokens with
    | nil => cases h
    | cons hFirst hRest =>
      obtain ⟨rfl, rfl⟩ := h.unique hFirst
      obtain ⟨block, back, hText, hTakes, hBack⟩ := fits_cons_iff.mp hFits
      exact ⟨block, back, hText, hTakes, _, hRest, hBack⟩
  · rintro ⟨block, back, hText, hTakes, tokens, hRest, hBack⟩
    exact ⟨token :: tokens, .cons h hRest, fits_cons_iff.mpr ⟨block, back, hText, hTakes, hBack⟩⟩

theorem matches_star_iff {pattern text : List Char} :
    Matches ('*' :: pattern) text ↔ ∃ back, back <:+ text ∧ Matches pattern back := by
  rw [matches_of_firstToken .star]
  constructor
  · rintro ⟨block, back, rfl, -, hBack⟩
    exact ⟨back, List.suffix_append block back, hBack⟩
  · rintro ⟨back, ⟨block, hText⟩, hBack⟩
    exact ⟨block, back, hText.symm, trivial, hBack⟩

/-- Every token but a star takes one character. -/
theorem Token.exists_of_takes {token : Token} (hStar : token ≠ .star) {block : List Char}
    (h : token.Takes block) : ∃ c, block = [c] := by
  cases token with
  | star => exact absurd rfl hStar
  | any => exact h
  | plain c => exact ⟨c, h⟩
  | oneOf negated members =>
    obtain ⟨c, hBlock, -⟩ := h
    exact ⟨c, hBlock⟩

theorem matches_of_firstToken_ne_star {pattern rest text : List Char} {token : Token}
    (h : FirstToken pattern token rest) (hStar : token ≠ .star) :
    Matches pattern text ↔
      ∃ c back, text = c :: back ∧ token.Takes [c] ∧ Matches rest back := by
  rw [matches_of_firstToken h]
  constructor
  · rintro ⟨block, back, rfl, hTakes, hBack⟩
    obtain ⟨c, rfl⟩ := Token.exists_of_takes hStar hTakes
    exact ⟨c, back, rfl, hTakes, hBack⟩
  · rintro ⟨c, back, rfl, hTakes, hBack⟩
    exact ⟨[c], back, rfl, hTakes, hBack⟩

theorem FirstToken.ne_star {pattern rest : List Char} {token : Token}
    (h : FirstToken pattern token rest) (hPattern : ∀ rest, pattern ≠ '*' :: rest) :
    token ≠ .star := by
  rintro rfl
  cases h
  exact hPattern _ rfl

theorem matches_nil_left_iff {text : List Char} : Matches [] text ↔ text = [] := by
  constructor
  · rintro ⟨tokens, hTokens, hFits⟩
    cases hTokens with
    | nil => exact fits_nil_iff.mp hFits
    | cons hFirst _ => exact absurd rfl hFirst.ne_nil
  · rintro rfl
    exact ⟨[], .nil, fits_nil_iff.mpr rfl⟩

theorem matches_nil_iff {pattern : List Char} :
    Matches pattern [] ↔ pattern.all (· = '*') = true := by
  induction pattern with
  | nil => simp [matches_nil_left_iff]
  | cons d pattern ih =>
    rw [List.all_cons, Bool.and_eq_true, decide_eq_true_eq, ← ih]
    by_cases hStar : d = '*'
    · rw [hStar, matches_star_iff]
      simp only [List.suffix_nil, exists_eq_left, true_and]
    · obtain ⟨token, rest, hFirst⟩ := exists_firstToken d pattern
      have hNe := hFirst.ne_star fun rest hCons => hStar (List.cons.inj hCons).1
      rw [matches_of_firstToken_ne_star hFirst hNe]
      constructor
      · rintro ⟨c, back, hText, -⟩
        cases hText
      · rintro ⟨hEq, -⟩
        exact absurd hEq hStar

/-! ## A run up to the next star -/

/-- The matcher has stepped over tokens that take one character each, from a pattern and a text to
what is left of both. -/
inductive StepsOver : List Char → List Char → List Char → List Char → Prop
  | refl {pattern text : List Char} : StepsOver pattern text pattern text
  | step {pattern rest pattern' text text' : List Char} {token : Token} {c : Char}
      (hFirst : FirstToken pattern token rest) (hStar : token ≠ .star) (hTakes : token.Takes [c])
      (hRest : StepsOver rest text pattern' text') : StepsOver pattern (c :: text) pattern' text'

/-- Where the matcher stops, and with what. -/
inductive Stops : List Char → List Char → Progress → Prop
  | ended {pattern : List Char} : Stops pattern [] (.ended (pattern.all (· = '*')))
  | star {pattern text : List Char} : Stops ('*' :: pattern) text (.star text pattern)
  | stuck {pattern text : List Char} (h : ¬ Matches pattern text) : Stops pattern text .stuck

theorem matches_cons_iff {pattern text : List Char} {c : Char}
    (hPattern : ∀ rest, pattern ≠ '*' :: rest) :
    Matches pattern (c :: text) ↔ ∃ rest, takeOne c pattern = some rest ∧ Matches rest text := by
  cases pattern with
  | nil => simp [matches_nil_left_iff, takeOne]
  | cons d pattern =>
    obtain ⟨token, rest, hFirst⟩ := exists_firstToken d pattern
    have hStar := hFirst.ne_star hPattern
    simp only [matches_of_firstToken_ne_star hFirst hStar, takeOne_eq_some_iff hFirst hStar]
    constructor
    · rintro ⟨c', back, hText, hTakes, hBack⟩
      cases hText
      exact ⟨rest, ⟨rfl, hTakes⟩, hBack⟩
    · rintro ⟨_, ⟨rfl, hTakes⟩, hBack⟩
      exact ⟨c, text, rfl, hTakes, hBack⟩

/-- The token that a run steps over. -/
theorem exists_of_takeOne {pattern rest : List Char} {c : Char}
    (hPattern : ∀ rest, pattern ≠ '*' :: rest) (h : takeOne c pattern = some rest) :
    ∃ token, FirstToken pattern token rest ∧ token ≠ .star ∧ token.Takes [c] := by
  cases pattern with
  | nil => cases h
  | cons d pattern =>
    obtain ⟨token, rest', hFirst⟩ := exists_firstToken d pattern
    have hStar := hFirst.ne_star hPattern
    obtain ⟨rfl, hTakes⟩ := (takeOne_eq_some_iff hFirst hStar).mp h
    exact ⟨token, hFirst, hStar, hTakes⟩

theorem exists_stop (text pattern : List Char) : ∃ pattern' text',
    StepsOver pattern text pattern' text' ∧ Stops pattern' text' (advance text pattern) := by
  fun_induction advance text pattern with
  | case1 pattern => exact ⟨pattern, [], .refl, .ended⟩
  | case2 c text rest => exact ⟨_, _, .refl, .star⟩
  | case3 c text pattern rest hTake hPattern ih =>
    obtain ⟨token, hFirst, hStar, hTakes⟩ := exists_of_takeOne hPattern hTake
    obtain ⟨pattern', text', hRun, hStop⟩ := ih
    rw [hTake]
    exact ⟨pattern', text', .step hFirst hStar hTakes hRun, hStop⟩
  | case4 c text pattern hTake hPattern =>
    rw [hTake]
    refine ⟨pattern, c :: text, .refl, .stuck ?_⟩
    rw [matches_cons_iff hPattern, hTake]
    rintro ⟨_, hSome, _⟩
    cases hSome

namespace StepsOver

variable {pattern text pattern' text' : List Char}

theorem suffix (h : StepsOver pattern text pattern' text') : text' <:+ text := by
  induction h with
  | refl => exact List.suffix_rfl
  | step _ _ _ _ ih => exact ih.trans (List.suffix_cons _ _)

theorem matches_of_matches (h : StepsOver pattern text pattern' text')
    (hMatches : Matches pattern' text') : Matches pattern text := by
  induction h with
  | refl => exact hMatches
  | step hFirst hStar hTakes _ ih =>
    exact (matches_of_firstToken_ne_star hFirst hStar).mpr ⟨_, _, rfl, hTakes, ih hMatches⟩

/-- Whatever text the pattern matches, the same tokens use up as many characters of it. -/
theorem exists_suffix (h : StepsOver pattern text pattern' text') {other : List Char}
    (hMatches : Matches pattern other) :
    ∃ rest, rest <:+ other ∧ rest.length + text.length = other.length + text'.length ∧
      Matches pattern' rest := by
  induction h generalizing other with
  | refl => exact ⟨other, List.suffix_rfl, rfl, hMatches⟩
  | step hFirst hStar _ _ ih =>
    obtain ⟨c, back, rfl, -, hBack⟩ := (matches_of_firstToken_ne_star hFirst hStar).mp hMatches
    obtain ⟨rest, hSuffix, hLength, hRest⟩ := ih hBack
    refine ⟨rest, hSuffix.trans (List.suffix_cons c back), ?_, hRest⟩
    simp only [List.length_cons]
    omega

theorem matches_iff (h : StepsOver pattern text pattern' text') :
    Matches pattern text ↔ Matches pattern' text' := by
  refine ⟨fun hMatches => ?_, h.matches_of_matches⟩
  obtain ⟨rest, hSuffix, hLength, hRest⟩ := h.exists_suffix hMatches
  have hInside : rest <:+ text' := List.suffix_of_suffix_length_le hSuffix h.suffix (by omega)
  rwa [hInside.eq_of_length (by omega)] at hRest

end StepsOver

/-! ## The last star -/

theorem matchAfterStar_iff {text pattern : List Char} :
    matchAfterStar text pattern = true ↔ ∃ rest, rest <:+ text ∧ Matches pattern rest := by
  fun_induction matchAfterStar text pattern with
  | case1 text pattern matched hAdvance =>
    obtain ⟨pattern', text', hRun, hStop⟩ := exists_stop text pattern
    rw [hAdvance] at hStop
    cases hStop
    rw [← matches_nil_iff]
    constructor
    · intro hEnd
      exact ⟨text, List.suffix_rfl, hRun.matches_of_matches hEnd⟩
    · rintro ⟨rest, hSuffix, hRest⟩
      -- a shorter text cannot be enough where the whole text is used up
      obtain ⟨rest', -, hLength, hRest'⟩ := hRun.exists_suffix hRest
      have hShort := hSuffix.length_le
      have hNil : rest' = [] := List.eq_nil_of_length_eq_zero (by simp at hLength; omega)
      rwa [hNil] at hRest'
  | case2 text pattern text' pattern' hAdvance ih =>
    obtain ⟨_, _, hRun, hStop⟩ := exists_stop text pattern
    rw [hAdvance] at hStop
    cases hStop
    rw [ih]
    constructor
    · rintro ⟨rest, hSuffix, hRest⟩
      exact ⟨text, List.suffix_rfl,
        hRun.matches_of_matches (matches_star_iff.mpr ⟨rest, hSuffix, hRest⟩)⟩
    · rintro ⟨rest, hSuffix, hRest⟩
      obtain ⟨middle, hMiddle, hLength, hStar⟩ := hRun.exists_suffix hRest
      obtain ⟨last, hLast, hMatches⟩ := matches_star_iff.mp hStar
      have hShort := hSuffix.length_le
      have hLater := hLast.length_le
      exact ⟨last, List.suffix_of_suffix_length_le (hLast.trans (hMiddle.trans hSuffix))
        hRun.suffix (by omega), hMatches⟩
  | case3 pattern hAdvance => cases hAdvance
  | case4 pattern c text hAdvance ih =>
    obtain ⟨_, _, hRun, hStop⟩ := exists_stop (c :: text) pattern
    rw [hAdvance] at hStop
    rcases hStop with _ | _ | hStuck
    simp only [ih, List.suffix_cons_iff, or_and_right, exists_or, exists_eq_left,
      hRun.matches_iff, hStuck, false_or]

theorem matchSegment_iff {pattern text : List Char} :
    matchSegment pattern text = true ↔ Matches pattern text := by
  obtain ⟨pattern', text', hRun, hStop⟩ := exists_stop text pattern
  rw [hRun.matches_iff, matchSegment]
  generalize advance text pattern = progress at hStop
  cases hStop with
  | ended => exact matches_nil_iff.symm
  | star => rw [matches_star_iff, ← matchAfterStar_iff]
  | stuck hStuck => simp [hStuck]

/-- There is one way to cut a segment pattern into tokens, and the matcher accepts exactly the texts
that these fit. -/
theorem matchSegment_exact (pattern : List Char) :
    ∃ tokens, (∀ other, Tokens pattern other ↔ other = tokens) ∧
      ∀ text, matchSegment pattern text = true ↔ Fits Token.Takes tokens text := by
  obtain ⟨tokens, hTokens⟩ := exists_tokens pattern
  have hUnique : ∀ other, Tokens pattern other ↔ other = tokens := by
    intro other
    constructor
    · intro hOther
      exact hOther.unique hTokens
    · rintro rfl
      exact hTokens
  refine ⟨tokens, hUnique, fun text => ?_⟩
  rw [matchSegment_iff, Matches]
  simp only [hUnique, exists_eq_left]

end BlobFiles.Glob
