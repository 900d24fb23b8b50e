import BlobFiles.Proofs.Glob.LastStar
import BlobFiles.Proofs.Glob.ListingStart
import BlobFiles.Storage.Memory

/-! # Patterns for one key

A key with a `\` in front of each of its special characters is a pattern for this key alone: every
token of it stands for one character, no segment of it is a `**`, and slashes stay where they are. A
key without special characters is its own pattern, and expanding it does not ask the service.
-/
namespace BlobFiles.Glob

def specials : List Char := ['*', '?', '[', '\\']

def escapeChar (c : Char) : List Char := if c ∈ specials then ['\\', c] else [c]

def escape (text : List Char) : List Char := text.flatMap escapeChar

/-- The pattern for a key. -/
def escaped (key : String) : String := .ofList (escape key.toList)

theorem isWildcard_iff {c : Char} : isWildcard c = true ↔ c ∈ specials := by
  simp [isWildcard, specials, or_assoc]

theorem isWildcard_eq_false_of_not_mem {c : Char} (h : c ∉ specials) : isWildcard c = false := by
  rw [Bool.eq_false_iff]
  intro hWild
  exact h (isWildcard_iff.mp hWild)

/-! ## One segment -/

theorem firstToken_escapeChar (c : Char) (rest : List Char) :
    FirstToken (escapeChar c ++ rest) (.plain c) rest := by
  unfold escapeChar
  split
  · exact .escaped
  · rename_i hPlain
    exact .plain (isWildcard_eq_false_of_not_mem hPlain)

theorem tokens_escape (text : List Char) : Tokens (escape text) (text.map .plain) := by
  induction text with
  | nil => exact .nil
  | cons c text ih => exact .cons (firstToken_escapeChar c (escape text)) ih

theorem fits_plain_iff {text other : List Char} :
    Fits Token.Takes (text.map .plain) other ↔ other = text := by
  induction text generalizing other with
  | nil => exact fits_nil_iff
  | cons c text ih =>
    rw [List.map_cons, fits_cons_iff]
    constructor
    · rintro ⟨block, rest, rfl, hBlock, hRest⟩
      rw [ih.mp hRest, show block = [c] from hBlock]
      rfl
    · rintro rfl
      exact ⟨[c], text, rfl, rfl, ih.mpr rfl⟩

theorem matchSegment_escape_iff {text other : List Char} :
    matchSegment (escape text) other = true ↔ other = text := by
  rw [matchSegment_iff, ← fits_plain_iff]
  constructor
  · rintro ⟨tokens, hTokens, hFits⟩
    rwa [hTokens.unique (tokens_escape text)] at hFits
  · intro hFits
    exact ⟨_, tokens_escape text, hFits⟩

theorem isAnyDepth_escape (text : List Char) : isAnyDepth (escape text) = false := by
  rw [isAnyDepth, decide_eq_false_iff_not]
  intro hStars
  have hTokens := tokens_escape text
  rw [hStars] at hTokens
  have hPlain : text.map Token.plain = [.star, .star] :=
    hTokens.unique (.cons .star (.cons .star .nil))
  cases text with
  | nil => cases hPlain
  | cons c text => cases (List.cons.inj hPlain).1

/-! ## A path -/

theorem slash_not_mem_escapeChar {c : Char} (h : c ≠ '/') : '/' ∉ escapeChar c := by
  unfold escapeChar
  split
  · simp [Ne.symm h]
  · simp [Ne.symm h]

theorem segments_cons {c : Char} (h : c ≠ '/') (text : List Char) :
    segments (c :: text) = (segments text).modifyHead (c :: ·) := by
  have hSlash : '/' ∉ [c] := by simp [Ne.symm h]
  exact segments_append hSlash text

theorem segments_escape (text : List Char) :
    segments (escape text) = (segments text).map escape := by
  induction text with
  | nil => rfl
  | cons c text ih =>
    have hCons : escape (c :: text) = escapeChar c ++ escape text := rfl
    by_cases hSlash : c = '/'
    · subst hSlash
      have hText : segments ('/' :: text) = [] :: segments text := segments_append_slash [] text
      have hEscape : segments ('/' :: escape text) = [] :: segments (escape text) :=
        segments_append_slash [] (escape text)
      rw [hText, List.map_cons, ← ih]
      exact hEscape
    · rw [hCons, segments_append (slash_not_mem_escapeChar hSlash), ih, segments_cons hSlash]
      cases segments text <;> rfl

theorem matchSegments_escape_iff {path other : List (List Char)} :
    matchSegments (path.map escape) other = true ↔ other = path := by
  induction path generalizing other with
  | nil => rw [List.map_nil, matchSegments, List.isEmpty_iff]
  | cons segment path ih =>
    have hOne := isAnyDepth_escape segment
    cases other with
    | nil => simp [matchSegments, hOne]
    | cons k other =>
      simp only [List.map_cons, matchSegments, hOne, Bool.false_eq_true, if_false,
        Bool.and_eq_true, matchSegment_escape_iff, ih, List.cons.injEq]

theorem matchKey_escaped_iff {key other : String} :
    matchKey (escaped key) other = true ↔ other = key := by
  rw [matchKey, escaped, String.toList_ofList, segments_escape, matchSegments_escape_iff]
  constructor
  · intro h
    exact String.toList_inj.mp (segments_injective h)
  · rintro rfl
    rfl

/-! ## The literal start -/

theorem any_isWildcard_escapeChar (c : Char) : (escapeChar c).any isWildcard = isWildcard c := by
  unfold escapeChar
  split
  · rename_i hSpecial
    rw [isWildcard_iff.mpr hSpecial]
    rfl
  · simp

theorem any_isWildcard_escape (text : List Char) :
    (escape text).any isWildcard = text.any isWildcard := by
  rw [escape, List.any_flatMap]
  simp only [any_isWildcard_escapeChar]

theorem takeWhile_escape (text : List Char) :
    (escape text).takeWhile (!isWildcard ·) = text.takeWhile (!isWildcard ·) := by
  induction text with
  | nil => rfl
  | cons c text ih =>
    have hCons : escape (c :: text) = escapeChar c ++ escape text := rfl
    rw [hCons, escapeChar]
    split
    · rename_i hSpecial
      have hEscape : isWildcard '\\' = true := rfl
      simp [hEscape, isWildcard_iff.mpr hSpecial]
    · rename_i hPlain
      simp [isWildcard_eq_false_of_not_mem hPlain, ih]

theorem literalStart_escape (text : List Char) :
    literalStart (escape text) = literalStart text := by
  rw [literalStart, any_isWildcard_escape, takeWhile_escape]
  rfl

theorem sharedPrefix?_escaped (key : String) : sharedPrefix? (escaped key) = sharedPrefix? key := by
  rw [sharedPrefix?, escaped, String.toList_ofList, literalStart_escape]
  rfl

theorem sharedPrefix?_eq_none_iff {pattern : String} :
    sharedPrefix? pattern = none ↔ ∀ c ∈ specials, c ∉ pattern.toList := by
  rw [sharedPrefix?, Option.map_eq_none_iff, literalStart_eq_none_iff]
  constructor
  · intro hPlain c hSpecial hMem
    have hWild := hPlain c hMem
    rw [isWildcard_iff.mpr hSpecial] at hWild
    cases hWild
  · intro hNone c hMem
    apply isWildcard_eq_false_of_not_mem
    intro hSpecial
    exact hNone c hSpecial hMem

theorem prefix_of_sharedPrefix? {pattern start : String}
    (h : sharedPrefix? pattern = some start) : start.toList <+: pattern.toList := by
  obtain ⟨literal, hLiteral, rfl⟩ := Option.map_eq_some_iff.mp h
  obtain ⟨-, w, tail, hSplit, -⟩ := of_literalStart hLiteral
  rw [String.toList_ofList, hSplit]
  exact List.prefix_append literal (w :: tail)

theorem escape_eq_self {text : List Char} (h : ∀ c ∈ specials, c ∉ text) : escape text = text := by
  induction text with
  | nil => rfl
  | cons c text ih =>
    have hPlain : c ∉ specials := fun hSpecial => h c hSpecial List.mem_cons_self
    have hRest := ih fun d hSpecial hMem => h d hSpecial (List.mem_cons_of_mem c hMem)
    have hCons : escape (c :: text) = escapeChar c ++ escape text := rfl
    rw [hCons, hRest, escapeChar, if_neg hPlain]
    rfl

theorem escaped_eq_self {key : String} (h : ∀ c ∈ specials, c ∉ key.toList) :
    escaped key = key := by
  rw [escaped, escape_eq_self h, String.ofList_toList]

theorem glob_of_literal {σ κ : Type} (storage : Storage σ κ) (settings : Settings) {text : String}
    {url : BlobUrl} (hParse : BlobUrl.parse text = .ok url)
    (hLiteral : ∀ c ∈ specials, c ∉ url.path.toList) (w : World σ κ) :
    FileSystem.glob storage (some settings) text w = (.ok [text], w) := by
  simp only [FileSystem.glob, hParse, sharedPrefix?_eq_none_iff.mpr hLiteral]

/-- The pattern for a key matches the key and nothing else, and a listing is narrowed to a beginning
of the key. A key that is its own pattern is named without a listing. -/
theorem escaped_matches_only_key {σ κ : Type} (storage : Storage σ κ) (key : String) :
    (∀ other : String, matchKey (escaped key) other = true ↔ other = key) ∧
    (sharedPrefix? (escaped key) = none ↔ ∀ c ∈ specials, c ∉ key.toList) ∧
    (∀ start, sharedPrefix? (escaped key) = some start → start.toList <+: key.toList) ∧
    ((∀ c ∈ specials, c ∉ key.toList) →
      escaped key = key ∧
      ∀ settings text url w, BlobUrl.parse text = .ok url → url.path = key →
        FileSystem.glob storage (some settings) text w = (.ok [text], w) ∧
        ∀ other : String, matchKey url.path other = true ↔ other = url.path) := by
  refine ⟨fun other => matchKey_escaped_iff, ?_, ?_, ?_⟩
  · rw [sharedPrefix?_escaped, sharedPrefix?_eq_none_iff]
  · intro start hStart
    rw [sharedPrefix?_escaped] at hStart
    exact prefix_of_sharedPrefix? hStart
  · intro hLiteral
    refine ⟨escaped_eq_self hLiteral, ?_⟩
    rintro settings text url w hParse rfl
    refine ⟨glob_of_literal storage settings hParse hLiteral w, fun other => ?_⟩
    rw [← matchKey_escaped_iff, escaped_eq_self hLiteral]

/-- A key without special characters, with its URL in the short form. -/
theorem escaped_matches_only_key_csv :
    (∀ c ∈ specials, c ∉ "data/a.csv".toList) ∧
    (∀ other, matchKey "data/a.csv" other = true ↔ other = "data/a.csv") ∧
    ∀ w : World Memory.Store Memory.Client,
      FileSystem.glob Memory.storage (some {}) "az://c/data/a.csv" w =
        (.ok ["az://c/data/a.csv"], w) := by
  have hLiteral : ∀ c ∈ specials, c ∉ "data/a.csv".toList := by simp [specials]
  have hParse : BlobUrl.parse "az://c/data/a.csv" =
      .ok ⟨false, "az://", "", "", "c", "data/a.csv"⟩ := by
    decide +kernel
  obtain ⟨-, -, -, hKey⟩ := escaped_matches_only_key Memory.storage "data/a.csv"
  obtain ⟨-, hGlob⟩ := hKey hLiteral
  refine ⟨hLiteral, ?_, ?_⟩
  · intro other
    exact (hGlob {} _ _ ⟨{}, {}⟩ hParse rfl).2 other
  · intro w
    exact (hGlob {} _ _ w hParse rfl).1

example : escaped "logs/**/[a]?" = "logs/\\*\\*/\\[a]\\?" := by decide

end BlobFiles.Glob
