import BlobFiles.Glob.Segment

/-! # Wildcards in a path

A path is a list of segments between slashes. In a pattern the segment `**` takes any number of
whole segments, none included; every other one takes exactly one. `literalStart` is the part of a
pattern that a listing can be narrowed to.
-/
namespace BlobFiles.Glob

def segments (path : List Char) : List (List Char) := path.splitOn '/'

/-- All ends of a list, the longest first. -/
def suffixes {α : Type} : List α → List (List α)
  | [] => [[]]
  | a :: as => (a :: as) :: suffixes as

theorem mem_suffixes_iff {α : Type} {l s : List α} : s ∈ suffixes l ↔ ∃ p, l = p ++ s := by
  induction l with
  | nil => simp [suffixes, eq_comm]
  | cons a as ih =>
    simp only [suffixes, List.mem_cons, ih]
    constructor
    · rintro (rfl | ⟨p, rfl⟩)
      · exact ⟨[], rfl⟩
      · exact ⟨a :: p, rfl⟩
    · rintro ⟨p, h⟩
      cases p with
      | nil => exact .inl h.symm
      | cons b p => simp at h; exact .inr ⟨p, h.2⟩

def isAnyDepth (segment : List Char) : Bool := segment = ['*', '*']

def matchSegments : List (List Char) → List (List Char) → Bool
  | [], key => key.isEmpty
  | p :: pattern, [] => (p :: pattern).all isAnyDepth
  | p :: pattern, k :: key =>
    if isAnyDepth p then pattern.isEmpty || (suffixes (k :: key)).any (matchSegments pattern)
    else matchSegment p k && matchSegments pattern key

def matchKey (pattern key : String) : Bool :=
  matchSegments (segments pattern.toList) (segments key.toList)

def isWildcard (c : Char) : Bool := c = '*' || c = '?' || c = '[' || c = '\\'

/-- The characters in front of the first wildcard; `none` for a pattern without one. -/
def literalStart (pattern : List Char) : Option (List Char) :=
  if pattern.any isWildcard then some (pattern.takeWhile (!isWildcard ·)) else none

theorem literalStart_eq_none_iff {pattern : List Char} :
    literalStart pattern = none ↔ ∀ c ∈ pattern, isWildcard c = false := by
  simp [literalStart]

def sharedPrefix? (pattern : String) : Option String :=
  (literalStart pattern.toList).map .ofList

end BlobFiles.Glob
