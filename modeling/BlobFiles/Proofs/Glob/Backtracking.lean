import BlobFiles.Proofs.Glob.LastStar

/-! # One end for every token

Where the token in front of a pattern ends is a matter of the pattern: a character of the text
decides whether the token takes it, and nothing else. So a matcher that goes back to its last star
finds the tokens behind it where it found them before, and every round of it moves on: over a token,
or at the star by one character of the text. `Search` is such a matcher, round by round, with the
last star as part of its state. A search never stands inside a token, it is over within as many
rounds as there are places in the text times places in the pattern, and its verdict is
`matchSegment`.
-/
namespace BlobFiles.Glob

/-! ## Where a token and a class end -/

theorem exists_end_of_takeOne (d : Char) (pattern : List Char) :
    ∃ token rest, FirstToken (d :: pattern) token rest ∧
      ∀ c, takeOne c (d :: pattern) = none ∨ takeOne c (d :: pattern) = some rest := by
  obtain ⟨token, rest, hFirst⟩ := exists_firstToken d pattern
  refine ⟨token, rest, hFirst, ?_⟩
  intro c
  by_cases hStar : token = .star
  · subst hStar
    cases hFirst
    by_cases hTakes : '*' = c
    · exact .inr (if_pos hTakes)
    · exact .inl (if_neg hTakes)
  · cases hTake : takeOne c (d :: pattern) with
    | none => exact .inl rfl
    | some rest' =>
      obtain ⟨rfl, -⟩ := (takeOne_eq_some_iff hFirst hStar).mp hTake
      exact .inr rfl

theorem exists_end_of_takeClass (cs : List Char) :
    (∀ c, takeClass c cs = none) ∨
      ∃ negated members rest, CharClass cs negated members rest ∧
        ∀ c, takeClass c cs = some (covers members c == !negated, rest) := by
  by_cases hClosed : ∃ negated members rest, CharClass cs negated members rest
  · obtain ⟨negated, members, rest, hClass⟩ := hClosed
    exact .inr ⟨negated, members, rest, hClass, takeClass_of_charClass hClass⟩
  · simp only [not_exists] at hClosed
    exact .inl fun c => takeClass_eq_none_iff.mpr hClosed

/-- The place in a pattern where one of its ends begins. -/
theorem exists_place_of_suffix {pattern rest : List Char} {start : Nat}
    (hSuffix : rest <:+ pattern.drop start) (hLess : rest.length < (pattern.drop start).length) :
    ∃ stop, start < stop ∧ stop ≤ pattern.length ∧ rest = pattern.drop stop := by
  rw [List.length_drop] at hLess
  refine ⟨pattern.length - rest.length, by omega, Nat.sub_le _ _, ?_⟩
  exact List.suffix_iff_eq_drop.mp (hSuffix.trans (List.drop_suffix start pattern))

/-! ## The search, round by round -/

structure Search where
  text : List Char
  pattern : List Char
  /-- The pattern behind the last star, and the text it was last tried on. -/
  star : Option (List Char × List Char) := none
  deriving DecidableEq, Repr

namespace Search

/-- One round: the next state, or the verdict. -/
def round (s : Search) : Search ⊕ Bool :=
  match s.text with
  | [] => .inr (s.pattern.all (· = '*'))
  | c :: text =>
    match s.pattern with
    | '*' :: rest => .inl ⟨c :: text, rest, some (rest, c :: text)⟩
    | pattern =>
      match takeOne c pattern with
      | some rest => .inl ⟨text, rest, s.star⟩
      | none =>
        match s.star with
        | some (behind, left) => .inl ⟨left.tail, behind, some (behind, left.tail)⟩
        | none => .inr false

def rounds : Nat → Search → Search ⊕ Bool
  | 0, s => .inl s
  | k + 1, s =>
    match s.round with
    | .inl s' => rounds k s'
    | .inr matched => .inr matched

/-- What one round can do. -/
inductive Does : Search → Search ⊕ Bool → Prop
  | finished {pattern : List Char} {star : Option (List Char × List Char)} :
      Does ⟨[], pattern, star⟩ (.inr (pattern.all (· = '*')))
  | star {c : Char} {text rest : List Char} {star : Option (List Char × List Char)} :
      Does ⟨c :: text, '*' :: rest, star⟩ (.inl ⟨c :: text, rest, some (rest, c :: text)⟩)
  | token {c : Char} {text pattern rest : List Char} {star : Option (List Char × List Char)}
      (hPattern : ∀ rest, pattern ≠ '*' :: rest) (hTake : takeOne c pattern = some rest) :
      Does ⟨c :: text, pattern, star⟩ (.inl ⟨text, rest, star⟩)
  | back {c : Char} {text pattern behind left : List Char}
      (hPattern : ∀ rest, pattern ≠ '*' :: rest) (hTake : takeOne c pattern = none) :
      Does ⟨c :: text, pattern, some (behind, left)⟩
        (.inl ⟨left.tail, behind, some (behind, left.tail)⟩)
  | stuck {c : Char} {text pattern : List Char}
      (hPattern : ∀ rest, pattern ≠ '*' :: rest) (hTake : takeOne c pattern = none) :
      Does ⟨c :: text, pattern, none⟩ (.inr false)

theorem does_round (s : Search) : s.Does s.round := by
  obtain ⟨text, pattern, star⟩ := s
  unfold round
  cases text with
  | nil => exact .finished
  | cons c text =>
    simp only
    split
    · exact .star
    · rename_i hPattern
      have hPattern' : ∀ rest, pattern ≠ '*' :: rest := fun rest hEq => hPattern rest hEq
      split
      · rename_i rest hTake
        exact .token hPattern' hTake
      · rename_i hTake
        cases star with
        | none => exact .stuck hPattern' hTake
        | some pair => exact .back hPattern' hTake

/-! ## Where a search stands -/

/-- The ends of a pattern in front of which a token ends, or the pattern begins. -/
inductive Between (pattern : List Char) : List Char → Prop
  | start : Between pattern pattern
  | token {before rest : List Char} {token : Token} (h : Between pattern before)
      (hFirst : FirstToken before token rest) : Between pattern rest

theorem Between.suffix {pattern rest : List Char} (h : Between pattern rest) :
    rest <:+ pattern := by
  induction h with
  | start => exact List.suffix_rfl
  | token _ hFirst ih => exact hFirst.suffix.trans ih

/-- A search of `text` stands between two tokens of `pattern`, and so does its last star, which is
not tried on less than the text that is left, nor on nothing. -/
structure Searches (pattern text : List Char) (s : Search) : Prop where
  between : Between pattern s.pattern
  suffix : s.text <:+ text
  star : ∀ behind left, s.star = some (behind, left) →
    Between pattern behind ∧ s.text <:+ left ∧ left <:+ text

theorem Searches.start (pattern text : List Char) :
    Searches pattern text ⟨text, pattern, none⟩ where
  between := .start
  suffix := List.suffix_rfl
  star behind left h := by cases h

theorem Searches.round {pattern text : List Char} {s s' : Search} (h : s.Searches pattern text)
    (hRound : s.round = .inl s') : s'.Searches pattern text := by
  obtain ⟨hBetween, hSuffix, hStar⟩ := h
  have hDoes := s.does_round
  rw [hRound] at hDoes
  cases hDoes with
  | star =>
    have hBehind := hBetween.token .star
    refine ⟨hBehind, hSuffix, ?_⟩
    rintro behind left ⟨⟩
    exact ⟨hBehind, List.suffix_rfl, hSuffix⟩
  | token hPattern hTake =>
    obtain ⟨token, hFirst, -, -⟩ := exists_of_takeOne hPattern hTake
    refine ⟨hBetween.token hFirst, (List.suffix_cons _ _).trans hSuffix, ?_⟩
    intro behind left hLast
    obtain ⟨hBehind, hLeft, hInside⟩ := hStar behind left hLast
    exact ⟨hBehind, (List.suffix_cons _ _).trans hLeft, hInside⟩
  | back hPattern hTake =>
    obtain ⟨hBehind, -, hInside⟩ := hStar _ _ rfl
    have hTail := (List.tail_suffix _).trans hInside
    refine ⟨hBehind, hTail, ?_⟩
    rintro behind left ⟨⟩
    exact ⟨hBehind, List.suffix_rfl, hTail⟩

theorem Searches.rounds {pattern text : List Char} (k : Nat) {s s' : Search}
    (h : s.Searches pattern text) (hRounds : s.rounds k = .inl s') : s'.Searches pattern text := by
  induction k generalizing s with
  | zero =>
    cases hRounds
    exact h
  | succ k ih =>
    unfold Search.rounds at hRounds
    split at hRounds
    · rename_i next hRound
      exact ih (h.round hRound) hRounds
    · cases hRounds

/-! ## Every round moves on -/

/-- The text that a step back would shorten, or the text that is left where there is no star. -/
def left (s : Search) : List Char :=
  match s.star with
  | some (_, left) => left
  | none => s.text

/-- The places that a search has still before it, first by the text and then by the pattern. -/
def places (width : Nat) (s : Search) : Nat := s.left.length * (width + 1) + s.pattern.length

theorem Searches.length_text_le {pattern text : List Char} {s : Search}
    (h : s.Searches pattern text) : s.text.length ≤ s.left.length := by
  unfold left
  split
  · rename_i behind left hLast
    exact (h.star behind left hLast).2.1.length_le
  · exact Nat.le_refl _

theorem Searches.places_lt {pattern text : List Char} {s s' : Search}
    (h : s.Searches pattern text) (hRound : s.round = .inl s') :
    s'.places pattern.length < s.places pattern.length := by
  have hLength := h.length_text_le
  have hDoes := s.does_round
  rw [hRound] at hDoes
  unfold places
  cases hDoes with
  | star => exact Nat.add_lt_add_of_le_of_lt (Nat.mul_le_mul_right _ hLength) (Nat.lt_succ_self _)
  | @token c _ _ rest star hPattern hTake =>
    have hRest := takeOne_length_lt hTake
    cases star with
    | none => exact Nat.add_lt_add_of_le_of_lt (Nat.mul_le_mul_right _ (Nat.le_succ _)) hRest
    | some pair => exact Nat.add_lt_add_left hRest _
  | @back c _ _ behind left hPattern hTake =>
    -- the star has one character less to try, whatever of the pattern has to be read again
    obtain ⟨hBehind, -, -⟩ := h.star behind left rfl
    have hWidth := hBehind.suffix.length_le
    change left.tail.length * (pattern.length + 1) + behind.length <
      left.length * (pattern.length + 1) + _
    change _ ≤ left.length at hLength
    cases left with
    | nil => cases hLength
    | cons d left =>
      rw [List.tail_cons, List.length_cons, Nat.succ_mul]
      omega

theorem exists_verdict {pattern text : List Char} (k : Nat) {s : Search}
    (h : s.Searches pattern text) (hPlaces : s.places pattern.length < k) :
    ∃ matched, s.rounds k = .inr matched := by
  induction k generalizing s with
  | zero => cases hPlaces
  | succ k ih =>
    unfold Search.rounds
    split
    · rename_i next hRound
      have hLess := h.places_lt hRound
      exact ih (h.round hRound) (by omega)
    · rename_i matched _
      exact ⟨matched, rfl⟩

/-! ## The verdict -/

/-- What the matcher makes of a search from where it stands. -/
def verdict (s : Search) : Bool :=
  match advance s.text s.pattern with
  | .ended matched => matched
  | .star text pattern => matchAfterStar text pattern
  | .stuck =>
    match s.star with
    | some (behind, _ :: left) => matchAfterStar left behind
    | _ => false

theorem verdict_start (pattern text : List Char) :
    verdict ⟨text, pattern, none⟩ = matchSegment pattern text := by
  unfold verdict matchSegment
  cases advance text pattern <;> rfl

/-- A star that has just been passed has its whole text to try. -/
theorem verdict_behind_star (pattern text : List Char) :
    verdict ⟨text, pattern, some (pattern, text)⟩ = matchAfterStar text pattern := by
  unfold verdict
  fun_cases matchAfterStar text pattern with
  | case1 _ matched hAdvance => rw [hAdvance]
  | case2 _ text' pattern' hAdvance => rw [hAdvance]
  | case3 hAdvance => rw [hAdvance]
  | case4 c text' hAdvance => rw [hAdvance]

theorem advance_of_takeOne {c : Char} {text pattern : List Char}
    (hPattern : ∀ rest, pattern ≠ '*' :: rest) :
    advance (c :: text) pattern =
      match takeOne c pattern with
      | some rest => advance text rest
      | none => .stuck := by
  conv_lhs => unfold advance
  split
  · exact absurd rfl (hPattern _)
  · rfl

theorem Searches.verdict_of_next {pattern text : List Char} {s s' : Search}
    (h : s.Searches pattern text) (hRound : s.round = .inl s') : s'.verdict = s.verdict := by
  have hLength := h.length_text_le
  have hDoes := s.does_round
  rw [hRound] at hDoes
  cases hDoes with
  | star => exact verdict_behind_star _ _
  | token hPattern hTake =>
    unfold verdict
    rw [advance_of_takeOne hPattern, hTake]
  | @back c _ _ behind left hPattern hTake =>
    rw [verdict_behind_star]
    unfold verdict
    rw [advance_of_takeOne hPattern, hTake]
    cases left with
    | nil => cases hLength
    | cons d left => rfl

theorem verdict_of_over {s : Search} {matched : Bool} (hRound : s.round = .inr matched) :
    s.verdict = matched := by
  have hDoes := s.does_round
  rw [hRound] at hDoes
  cases hDoes with
  | finished => rfl
  | stuck hPattern hTake =>
    unfold verdict
    rw [advance_of_takeOne hPattern, hTake]

theorem Searches.verdict_of_rounds {pattern text : List Char} (k : Nat) {s : Search}
    (h : s.Searches pattern text) {matched : Bool} (hRounds : s.rounds k = .inr matched) :
    s.verdict = matched := by
  induction k generalizing s with
  | zero => cases hRounds
  | succ k ih =>
    unfold Search.rounds at hRounds
    split at hRounds
    · rename_i next hRound
      rw [← h.verdict_of_next hRound]
      exact ih (h.round hRound) hRounds
    · rename_i result hRound
      cases hRounds
      exact verdict_of_over hRound

end Search

/-! ## The statement for a pattern -/

/-- For every place in a pattern there is one place where the token there ends, and one where a
class there closes or none at all, whatever the character. A search never stands inside a token, and
it is over after as many rounds as there are places in text and pattern. -/
theorem token_ends_once (pattern : List Char) :
    (∀ start < pattern.length, ∃ stop, start < stop ∧ stop ≤ pattern.length ∧
      ∀ c, takeOne c (pattern.drop start) = none ∨
        takeOne c (pattern.drop start) = some (pattern.drop stop)) ∧
    (∀ start, (∀ c, takeClass c (pattern.drop start) = none) ∨
      ∃ stop, start < stop ∧ stop ≤ pattern.length ∧
        ∀ c, ∃ accepted, takeClass c (pattern.drop start) = some (accepted, pattern.drop stop)) ∧
    ∀ text,
      (∀ k s, Search.rounds k ⟨text, pattern, none⟩ = .inl s →
        Search.Between pattern s.pattern ∧ ∀ behind left, s.star = some (behind, left) →
          Search.Between pattern behind ∧ s.text <:+ left) ∧
      Search.rounds ((text.length + 1) * (pattern.length + 1)) ⟨text, pattern, none⟩ =
        .inr (matchSegment pattern text) := by
  refine ⟨?_, ?_, ?_⟩
  · intro start hStart
    have hSome : 0 < (pattern.drop start).length := by
      rw [List.length_drop]
      omega
    obtain ⟨d, behind, hRest⟩ := List.exists_cons_of_length_pos hSome
    obtain ⟨token, rest, hFirst, hTake⟩ := exists_end_of_takeOne d behind
    rw [← hRest] at hFirst hTake
    obtain ⟨stop, hAfter, hInside, rfl⟩ := exists_place_of_suffix hFirst.suffix hFirst.length_lt
    exact ⟨stop, hAfter, hInside, hTake⟩
  · intro start
    rcases exists_end_of_takeClass (pattern.drop start) with
      hOpen | ⟨negated, members, rest, hClass, hTake⟩
    · exact .inl hOpen
    · have hLess := takeClass_length_lt (hTake '[')
      obtain ⟨stop, hAfter, hInside, rfl⟩ := exists_place_of_suffix hClass.suffix hLess
      exact .inr ⟨stop, hAfter, hInside, fun c => ⟨_, hTake c⟩⟩
  · intro text
    have hStart := Search.Searches.start pattern text
    refine ⟨?_, ?_⟩
    · intro k s hRounds
      obtain ⟨hBetween, -, hStar⟩ := hStart.rounds k hRounds
      exact ⟨hBetween, fun behind left hLast => ⟨(hStar _ _ hLast).1, (hStar _ _ hLast).2.1⟩⟩
    · have hPlaces : Search.places pattern.length ⟨text, pattern, none⟩ <
          (text.length + 1) * (pattern.length + 1) := by
        rw [Nat.succ_mul]
        exact Nat.lt_succ_self _
      obtain ⟨matched, hOver⟩ := Search.exists_verdict _ hStart hPlaces
      rw [hOver, ← hStart.verdict_of_rounds _ hOver, Search.verdict_start]

/-- A class that never closes, behind a star. -/
theorem token_ends_once_unclosed :
    let pattern := ['*', '[', 'a', '-']
    let text := ['x', '[', 'a', '-']
    let passed : Search := ⟨text, ['[', 'a', '-'], some (['[', 'a', '-'], text)⟩
    (1 < pattern.length ∧ ∃ stop, 1 < stop ∧ stop ≤ pattern.length ∧
      ∀ c, takeOne c ['[', 'a', '-'] = none ∨
        takeOne c ['[', 'a', '-'] = some (pattern.drop stop)) ∧
    Search.rounds 1 ⟨text, pattern, none⟩ = .inl passed ∧
      Search.Between pattern passed.pattern := by
  intro pattern text passed
  obtain ⟨hToken, -, hSearch⟩ := token_ends_once pattern
  have hRounds : Search.rounds 1 ⟨text, pattern, none⟩ = .inl passed := rfl
  exact ⟨⟨by decide, hToken 1 (by decide)⟩, hRounds, ((hSearch text).1 1 passed hRounds).1⟩

end BlobFiles.Glob
