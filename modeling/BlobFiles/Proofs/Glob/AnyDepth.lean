import BlobFiles.Proofs.Glob.Blocks
import BlobFiles.Proofs.Glob.Literal

/-! # Paths with `**`

A path pattern matches the keys that it fits block by block, where `**` takes any number of segments
and every other pattern segment takes one segment that it matches. The matcher looks at the segments
from the left and tries every rest behind a `**`; no order of trying is left in the statements here.
-/
namespace BlobFiles.Glob

def anyDepth : List Char := ['*', '*']

/-- Every pattern segment but `**` takes exactly one segment. -/
def TakesSegments (p : List Char) (block : List (List Char)) : Prop :=
  p ≠ anyDepth → ∃ k, block = [k] ∧ matchSegment p k = true

theorem isAnyDepth_iff {p : List Char} : isAnyDepth p = true ↔ p = anyDepth := decide_eq_true_iff

theorem takesSegments_of_isAnyDepth {p : List Char} (h : isAnyDepth p = true)
    (block : List (List Char)) : TakesSegments p block :=
  fun hOther => absurd (isAnyDepth_iff.mp h) hOther

theorem takesSegments_iff {p : List Char} (h : isAnyDepth p = false) {block : List (List Char)} :
    TakesSegments p block ↔ ∃ k, block = [k] ∧ matchSegment p k = true := by
  have hOther : p ≠ anyDepth := by
    intro hDepth
    rw [isAnyDepth_iff.mpr hDepth] at h
    cases h
  exact ⟨fun hTakes => hTakes hOther, fun hOne _ => hOne⟩

theorem matchSegments_anyDepth_iff {p : List Char} (h : isAnyDepth p = true)
    {pattern key : List (List Char)} :
    matchSegments (p :: pattern) key = true ↔
      ∃ rest, rest <:+ key ∧ matchSegments pattern rest := by
  cases key with
  | nil =>
    simp only [matchSegments, List.all_cons, h, Bool.true_and, List.suffix_nil, exists_eq_left,
      matchSegments_nil_right]
  | cons k key =>
    simp only [matchSegments, h, if_true, Bool.or_eq_true, List.isEmpty_iff, List.any_eq_true,
      mem_suffixes_iff]
    constructor
    · rintro (rfl | ⟨rest, ⟨front, hKey⟩, hRest⟩)
      · exact ⟨[], List.nil_suffix, rfl⟩
      · exact ⟨rest, ⟨front, hKey.symm⟩, hRest⟩
    · rintro ⟨rest, ⟨front, hKey⟩, hRest⟩
      exact .inr ⟨rest, ⟨front, hKey.symm⟩, hRest⟩

theorem matchSegments_cons_iff {p : List Char} {pattern key : List (List Char)} :
    matchSegments (p :: pattern) key = true ↔
      ∃ block rest, key = block ++ rest ∧ TakesSegments p block ∧
        matchSegments pattern rest = true := by
  cases hDepth : isAnyDepth p with
  | true =>
    rw [matchSegments_anyDepth_iff hDepth]
    constructor
    · rintro ⟨rest, ⟨block, hKey⟩, hRest⟩
      exact ⟨block, rest, hKey.symm, takesSegments_of_isAnyDepth hDepth block, hRest⟩
    · rintro ⟨block, rest, rfl, -, hRest⟩
      exact ⟨rest, List.suffix_append block rest, hRest⟩
  | false =>
    simp only [takesSegments_iff hDepth]
    cases key with
    | nil =>
      simp only [matchSegments, List.all_cons, hDepth, Bool.false_and, Bool.false_eq_true,
        false_iff]
      rintro ⟨block, rest, hKey, ⟨k, rfl, -⟩, -⟩
      cases hKey
    | cons k key =>
      simp only [matchSegments, hDepth, Bool.false_eq_true, if_false, Bool.and_eq_true]
      constructor
      · rintro ⟨hOne, hRest⟩
        exact ⟨[k], key, rfl, ⟨k, rfl, hOne⟩, hRest⟩
      · rintro ⟨block, rest, hKey, ⟨k', rfl, hOne⟩, hRest⟩
        obtain ⟨rfl, rfl⟩ := List.cons.inj hKey
        exact ⟨hOne, hRest⟩

theorem matchSegments_iff_fits {pattern key : List (List Char)} :
    matchSegments pattern key = true ↔ Fits TakesSegments pattern key := by
  induction pattern generalizing key with
  | nil => rw [fits_nil_iff, matchSegments, List.isEmpty_iff]
  | cons p pattern ih => simp only [matchSegments_cons_iff, fits_cons_iff, ih]

theorem matchSegments_append_iff_split {front back key : List (List Char)} :
    matchSegments (front ++ back) key = true ↔
      ∃ first rest, key = first ++ rest ∧ matchSegments front first = true ∧
        matchSegments back rest = true := by
  simp only [matchSegments_iff_fits, fits_append_iff]

theorem matchSegments_anyDepths (n : Nat) (key : List (List Char)) :
    matchSegments (List.replicate (n + 1) anyDepth) key = true := by
  have hDepth : isAnyDepth anyDepth = true := rfl
  induction n with
  | zero => exact (matchSegments_anyDepth_iff hDepth).mpr ⟨[], List.nil_suffix, rfl⟩
  | succ n ih => exact (matchSegments_anyDepth_iff hDepth).mpr ⟨key, List.suffix_rfl, ih⟩

/-- The matcher accepts exactly what fits block by block, so patterns can be put one behind the
other, and a row of `**` is worth one. -/
theorem matchSegments_exact :
    (∀ pattern key : List (List Char),
      matchSegments pattern key = true ↔ Fits TakesSegments pattern key) ∧
    (∀ front back key : List (List Char), matchSegments (front ++ back) key = true ↔
      ∃ first rest, key = first ++ rest ∧ matchSegments front first = true ∧
        matchSegments back rest = true) ∧
    ∀ (front back key : List (List Char)) (n : Nat),
      matchSegments (front ++ List.replicate (n + 1) anyDepth ++ back) key =
        matchSegments (front ++ [anyDepth] ++ back) key := by
  refine ⟨fun _ _ => matchSegments_iff_fits, fun _ _ _ => matchSegments_append_iff_split, ?_⟩
  intro front back key n
  have hOne : ∀ part, matchSegments [anyDepth] part = true := matchSegments_anyDepths 0
  rw [Bool.eq_iff_iff]
  simp only [matchSegments_append_iff_split, matchSegments_anyDepths, hOne]

example : matchSegments ["data".toList, anyDepth, "a.csv".toList]
    ["data".toList, "x".toList, "a.csv".toList] = true := by decide

end BlobFiles.Glob
