import BlobFiles.FileSystem
import BlobFiles.Proofs.Glob.Literal

/-! # What a listing under the literal start misses

A pattern is listed under its literal start, so a key that matches without beginning with the start
is not found. There is one such key at most: what stands in front of a row of `/**` that the pattern
ends in. `**` takes no segment there, but the slash in front of it is part of the start.
-/
namespace BlobFiles.Glob

/-- The pattern is the key and `/**` behind it, once or more often. -/
def Hides (pattern key : List Char) : Prop :=
  Literal key ∧ ∃ n, pattern = key ++ (List.replicate (n + 1) "/**".toList).flatten

/-! ## The literal start -/

theorem of_literalStart {pattern start : List Char} (h : literalStart pattern = some start) :
    Literal start ∧ ∃ w tail, pattern = start ++ w :: tail ∧ isWildcard w = true := by
  unfold literalStart at h
  split at h
  · rename_i hAny
    cases h
    refine ⟨?_, ?_⟩
    · intro c hc
      simpa using List.all_eq_true.mp List.all_takeWhile c hc
    · have hSplit : pattern.takeWhile (!isWildcard ·) ++ pattern.dropWhile (!isWildcard ·) =
          pattern := List.takeWhile_append_dropWhile
      cases hRest : pattern.dropWhile (!isWildcard ·) with
      | nil =>
        rw [hRest, List.append_nil] at hSplit
        obtain ⟨c, hc, hWild⟩ := List.any_eq_true.mp hAny
        rw [← hSplit] at hc
        have hPlain := List.all_eq_true.mp List.all_takeWhile c hc
        rw [hWild] at hPlain
        cases hPlain
      | cons w tail =>
        refine ⟨w, tail, ?_, ?_⟩
        · rw [← hRest, hSplit]
        · have hHead := List.head?_dropWhile_not (!isWildcard ·) pattern
          rw [hRest] at hHead
          simpa using hHead
  · cases h

theorem literalStart_append {start : List Char} (h : Literal start) {w : Char}
    (hWild : isWildcard w = true) (tail : List Char) :
    literalStart (start ++ w :: tail) = some start := by
  have hAny : (start ++ w :: tail).any isWildcard = true :=
    List.any_eq_true.mpr ⟨w, List.mem_append_right _ List.mem_cons_self, hWild⟩
  rw [literalStart, hAny, if_pos rfl, List.takeWhile_append_of_pos, List.takeWhile_cons]
  · simp [hWild]
  · intro c hc
    simp [h c hc]

theorem exists_last_slash {text : List Char} (h : '/' ∈ text) :
    ∃ folder name, text = folder ++ '/' :: name ∧ '/' ∉ name := by
  obtain ⟨name, folder, hText, hName⟩ :=
    List.eq_append_cons_of_mem (List.mem_reverse.mpr h)
  refine ⟨folder.reverse, name.reverse, ?_, by simpa using hName⟩
  have hReversed := congrArg List.reverse hText
  simpa using hReversed

/-! ## The segment of the first wildcard -/

theorem segments_first_wildcard {name : List Char} (hName : '/' ∉ name) {w : Char}
    (hWild : isWildcard w = true) (tail : List Char) :
    ∃ rest more, segments (name ++ w :: tail) = (name ++ w :: rest) :: more := by
  have hSlash : '/' ∉ name ++ [w] := by
    rw [List.mem_append, not_or, List.mem_singleton]
    refine ⟨hName, ?_⟩
    rintro rfl
    cases hWild
  obtain ⟨first, more, hTail⟩ := List.exists_cons_of_ne_nil (segments_ne_nil tail)
  refine ⟨first, more, ?_⟩
  rw [List.append_cons, segments_append hSlash, hTail, List.modifyHead_cons, ← List.append_cons]

theorem prefix_of_matchSegments {name rest k : List Char} {w : Char}
    {more key : List (List Char)} (hName : Literal name)
    (h : matchSegments ((name ++ w :: rest) :: more) (k :: key) = true) : name <+: k := by
  unfold matchSegments at h
  split at h
  · rename_i hDepth
    rw [isAnyDepth, decide_eq_true_eq] at hDepth
    cases name with
    | nil => exact List.nil_prefix
    | cons c name =>
      obtain ⟨rfl, _⟩ := List.cons.inj hDepth
      cases hName.of_cons.1
  · rw [Bool.and_eq_true, matchSegment_append_iff hName] at h
    obtain ⟨⟨text, rfl, _⟩, _⟩ := h
    exact List.prefix_append name text

theorem intercalate_append {front back : List (List Char)} (hFront : front ≠ [])
    (hBack : back ≠ []) :
    ['/'].intercalate (front ++ back) =
      ['/'].intercalate front ++ '/' :: ['/'].intercalate back := by
  induction front with
  | nil => contradiction
  | cons first front ih =>
    cases front with
    | nil =>
      rw [List.singleton_append, List.intercalate_cons_of_ne_nil hBack, List.intercalate_singleton]
      simp
    | cons second front =>
      have hRest : second :: front ≠ [] := List.cons_ne_nil second front
      have hAll : second :: front ++ back ≠ [] := List.append_ne_nil_of_left_ne_nil hRest back
      rw [List.cons_append, List.intercalate_cons_of_ne_nil hAll, ih hRest,
        List.intercalate_cons_of_ne_nil hRest, List.append_assoc (first ++ ['/'])]

theorem prefix_intercalate (first : List Char) (rest : List (List Char)) :
    first <+: ['/'].intercalate (first :: rest) := by
  cases rest with
  | nil => simp only [List.intercalate_singleton, List.prefix_rfl]
  | cons second rest =>
    rw [List.intercalate_cons_cons, List.append_assoc]
    exact List.prefix_append first _

theorem segments_anyDepths (key : List Char) (n : Nat) :
    segments (key ++ (List.replicate n "/**".toList).flatten) =
      segments key ++ List.replicate n ['*', '*'] := by
  induction n generalizing key with
  | zero => simp
  | succ n ih =>
    have hStep : key ++ (List.replicate (n + 1) "/**".toList).flatten =
        key ++ '/' :: (['*', '*'] ++ (List.replicate n "/**".toList).flatten) := rfl
    rw [hStep, segments_append_slash, ih, List.replicate_succ]
    rfl

theorem eq_append_of_segments {key folder : List Char} {left : List (List Char)}
    (h : segments key = segments folder ++ left) (hLeft : left ≠ []) :
    key = folder ++ '/' :: ['/'].intercalate left := by
  calc
    key = ['/'].intercalate (segments key) := (List.intercalate_splitOn '/').symm
    _ = ['/'].intercalate (segments folder) ++ '/' :: ['/'].intercalate left := by
      rw [h, intercalate_append (segments_ne_nil folder) hLeft]
    _ = folder ++ '/' :: ['/'].intercalate left := by rw [segments, List.intercalate_splitOn]

/-! ## What is hidden -/

/-- All that is left of the pattern takes nothing, so it is a row of `**`. -/
theorem hides_of_all_isAnyDepth {folder tail : List Char} (hFolder : Literal folder)
    (h : (segments tail).all isAnyDepth = true) : Hides (folder ++ '/' :: tail) folder := by
  obtain ⟨first, more, hTail⟩ := List.exists_cons_of_ne_nil (segments_ne_nil tail)
  have hRow : segments tail = List.replicate (more.length + 1) ['*', '*'] := by
    refine List.eq_replicate_iff.mpr ⟨congrArg List.length hTail, ?_⟩
    intro segment hMem
    exact of_decide_eq_true (List.all_eq_true.mp h segment hMem)
  refine ⟨hFolder, more.length, segments_injective ?_⟩
  rw [segments_anyDepths, segments_append_slash, hRow]

theorem prefix_or_hides {pattern start key : List Char} (hStart : literalStart pattern = some start)
    (h : matchSegments (segments pattern) (segments key) = true) :
    start <+: key ∨ Hides pattern key := by
  obtain ⟨hLiteral, w, tail, rfl, hWild⟩ := of_literalStart hStart
  by_cases hSlash : '/' ∈ start
  · obtain ⟨folder, name, rfl, hName⟩ := exists_last_slash hSlash
    have hFolder : Literal folder := fun c hc => hLiteral c (List.mem_append_left _ hc)
    have hNameLiteral : Literal name := fun c hc =>
      hLiteral c (List.mem_append_right _ (List.mem_cons_of_mem _ hc))
    rw [List.append_assoc, List.cons_append] at h ⊢
    rw [segments_append_slash] at h
    obtain ⟨left, hKey, hLeft⟩ :=
      (matchSegments_append_iff fun _ hMem => literal_of_mem_segments hFolder hMem).mp h
    cases left with
    | nil =>
      right
      rw [List.append_nil] at hKey
      rw [segments_injective hKey]
      rw [matchSegments_nil_right] at hLeft
      exact hides_of_all_isAnyDepth hFolder hLeft
    | cons k left =>
      left
      obtain ⟨rest, more, hFirst⟩ := segments_first_wildcard hName hWild tail
      rw [hFirst] at hLeft
      have hBegins := (prefix_of_matchSegments hNameLiteral hLeft).trans (prefix_intercalate k left)
      rw [eq_append_of_segments hKey (List.cons_ne_nil k left), List.prefix_append_right_inj,
        List.cons_prefix_cons]
      exact ⟨rfl, hBegins⟩
  · left
    obtain ⟨rest, more, hFirst⟩ := segments_first_wildcard hSlash hWild tail
    obtain ⟨k, left, hKey⟩ := List.exists_cons_of_ne_nil (segments_ne_nil key)
    rw [hFirst, hKey] at h
    have hText : key = ['/'].intercalate (k :: left) := by
      rw [← hKey, segments, List.intercalate_splitOn]
    rw [hText]
    exact (prefix_of_matchSegments hLiteral h).trans (prefix_intercalate k left)

theorem Hides.matchSegments {pattern key : List Char} (h : Hides pattern key) :
    matchSegments (segments pattern) (segments key) = true := by
  obtain ⟨hKey, n, rfl⟩ := h
  rw [segments_anyDepths,
    matchSegments_append_iff fun _ hMem => literal_of_mem_segments hKey hMem]
  refine ⟨[], (List.append_nil _).symm, ?_⟩
  rw [matchSegments_nil_right, List.all_replicate]
  rfl

theorem Hides.literalStart {pattern key : List Char} (h : Hides pattern key) :
    literalStart pattern = some (key ++ ['/']) := by
  obtain ⟨hKey, n, rfl⟩ := h
  have hStart : Literal (key ++ ['/']) := by
    intro c hc
    rcases List.mem_append.mp hc with hc | hc
    · exact hKey c hc
    · rw [List.mem_singleton.mp hc]
      rfl
  have hPattern : key ++ (List.replicate (n + 1) "/**".toList).flatten =
      key ++ ['/'] ++ '*' :: '*' :: (List.replicate n "/**".toList).flatten := by
    rw [List.append_assoc]
    rfl
  rw [hPattern]
  exact literalStart_append hStart rfl _

theorem hides_iff {pattern start key : List Char} (hStart : literalStart pattern = some start) :
    Hides pattern key ↔
      matchSegments (segments pattern) (segments key) = true ∧ ¬ start <+: key := by
  constructor
  · intro h
    refine ⟨h.matchSegments, ?_⟩
    rw [h.literalStart] at hStart
    cases hStart
    intro hPrefix
    have hLength := hPrefix.length_le
    simp only [List.length_append, List.length_singleton] at hLength
    omega
  · rintro ⟨hMatch, hNoPrefix⟩
    exact (prefix_or_hides hStart hMatch).resolve_left hNoPrefix

example : Hides "data/**".toList "data".toList := by
  refine ⟨?_, 0, rfl⟩
  simp [Literal, isWildcard]

end BlobFiles.Glob

namespace BlobFiles.FileSystem

theorem matching_eq (url : BlobUrl) (names : List String) :
    matching url names = (names.filter (Glob.matchKey url.path)).map url.objectUrl := rfl

/-- What is listed under the literal start of a pattern, and what that leaves out. -/
theorem listing_complete_iff {url : BlobUrl} {start : String}
    (hStart : Glob.sharedPrefix? url.path = some start) :
    (∀ key : String, Glob.matchKey url.path key = true ∧ ¬ start.toList <+: key.toList ↔
      Glob.Hides url.path.toList key.toList) ∧
    ∀ names : List String,
      matching url (names.filter fun key => start.toList.isPrefixOf key.toList) =
          matching url names ↔
        ∀ key ∈ names, ¬ Glob.Hides url.path.toList key.toList := by
  obtain ⟨literal, hLiteral, rfl⟩ := Option.map_eq_some_iff.mp hStart
  rw [String.toList_ofList]
  have hHides : ∀ key : String, Glob.Hides url.path.toList key.toList ↔
      Glob.matchKey url.path key = true ∧ ¬ literal <+: key.toList :=
    fun key => Glob.hides_iff hLiteral
  refine ⟨fun key => (hHides key).symm, fun names => ?_⟩
  let begins : String → Bool := fun key => literal.isPrefixOf key.toList
  change matching url (names.filter begins) = matching url names ↔ _
  let found := names.filter (Glob.matchKey url.path)
  have hListed : matching url (names.filter begins) = (found.filter begins).map url.objectUrl := by
    rw [matching_eq, List.filter_filter, List.filter_filter]
    simp only [Bool.and_comm]
  have hFound : matching url names = found.map url.objectUrl := matching_eq url names
  rw [hListed, hFound]
  constructor
  · intro hEqual key hMem hHidden
    obtain ⟨hMatch, hNoPrefix⟩ := (hHides key).mp hHidden
    -- The listing has as many names as there are matches, so it has left none out.
    have hLength := congrArg List.length hEqual
    rw [List.length_map, List.length_map, List.length_filter_eq_length_iff] at hLength
    exact hNoPrefix (List.isPrefixOf_iff_prefix.mp
      (hLength key (List.mem_filter.mpr ⟨hMem, hMatch⟩)))
  · intro hNone
    have hAll : found.filter begins = found := by
      rw [List.filter_eq_self]
      intro key hKey
      obtain ⟨hMem, hMatch⟩ := List.mem_filter.mp hKey
      refine List.isPrefixOf_iff_prefix.mpr (Classical.not_not.mp fun hNoPrefix => ?_)
      exact hNone key hMem ((hHides key).mpr ⟨hMatch, hNoPrefix⟩)
    rw [hAll]

/-- `data/**` matches `data`, and its listing, which is for `data/`, does not find it. -/
theorem listing_misses_data :
    let url : BlobUrl := ⟨false, "az://", "", "", "c", "data/**"⟩
    Glob.sharedPrefix? url.path = some "data/" ∧
      (∀ key : String, Glob.matchKey url.path key = true ∧ ¬ "data/".toList <+: key.toList ↔
        Glob.Hides url.path.toList key.toList) ∧
      ∀ names : List String,
        matching url (names.filter fun key => "data/".toList.isPrefixOf key.toList) =
            matching url names ↔
          ∀ key ∈ names, ¬ Glob.Hides url.path.toList key.toList := by
  intro url
  have hStart : Glob.sharedPrefix? url.path = some "data/" := by decide
  exact ⟨hStart, listing_complete_iff hStart⟩

end BlobFiles.FileSystem
