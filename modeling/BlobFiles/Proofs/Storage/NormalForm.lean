import BlobFiles.Proofs.Glob.ListingStart
import BlobFiles.Storage.Memory
import Mathlib.Data.List.Basic

/-! # Paths in normal form

The normal form of a path is a path in normal form, but for one case: a blank behind the slashes in
front is trimmed only when the slashes are gone, which takes a second time. So a store that never
is given such a path keeps every path in the form that requests will look for.
-/
namespace BlobFiles.Memory

/-- The path without what is in front of its first name. -/
def inner (path : List Char) : List Char := (Text.trim path).dropWhile (· = '/')

/-- No blank follows the slashes in front. -/
def Anchored (path : List Char) : Prop := ∀ c, (inner path).head? = some c → Text.isBlank c = false

theorem trim_eq_self {path : List Char} (hHead : ∀ c, path.head? = some c → Text.isBlank c = false)
    (hLast : ∀ c, path.getLast? = some c → Text.isBlank c = false) : Text.trim path = path := by
  have hDrop : ∀ {text : List Char}, (∀ c, text.head? = some c → Text.isBlank c = false) →
      text.dropWhile Text.isBlank = text := by
    intro text hText
    cases text with
    | nil => rfl
    | cons c text => exact List.dropWhile_cons_of_neg (by simp [hText c rfl])
  rw [← List.head?_reverse] at hLast
  rw [Text.trim, Text.trimStart, hDrop hHead, Text.trimEnd, hDrop hLast, List.reverse_reverse]

theorem not_isBlank_of_getLast?_trim {path : List Char} {c : Char}
    (h : (Text.trim path).getLast? = some c) : Text.isBlank c = false := by
  rw [Text.trim, Text.trimEnd, List.getLast?_reverse] at h
  have hHead := List.head?_dropWhile_not Text.isBlank (Text.trimStart path).reverse
  rw [h] at hHead
  exact hHead

/-! ## Names between slashes -/

def names (path : List Char) : List (List Char) := (path.splitOn '/').filter (!·.isEmpty)

structure Named (names : List (List Char)) : Prop where
  ne_nil : names ≠ []
  proper : ∀ name ∈ names, name ≠ [] ∧ '/' ∉ name

theorem slash_not_mem_of_mem_splitOn {text name : List Char} (h : name ∈ text.splitOn '/') :
    '/' ∉ name := by
  induction text generalizing name with
  | nil =>
    rw [List.splitOn_nil, List.mem_singleton] at h
    rw [h]
    exact List.not_mem_nil
  | cons c text ih =>
    rw [List.splitOn_cons_eq_if_modifyHead] at h
    split at h
    · rcases List.mem_cons.mp h with rfl | hLater
      · exact List.not_mem_nil
      · exact ih hLater
    · rename_i hSlash
      obtain ⟨first, more, hText⟩ := List.exists_cons_of_ne_nil (List.splitOn_ne_nil '/' text)
      rw [hText] at h ih
      rcases List.mem_cons.mp h with rfl | hLater
      · rw [List.mem_cons, not_or]
        exact ⟨fun hEq => hSlash (by rw [← hEq]; rfl), ih List.mem_cons_self⟩
      · exact ih (List.mem_cons_of_mem first hLater)

theorem proper_of_mem_names {path name : List Char} (h : name ∈ names path) :
    name ≠ [] ∧ '/' ∉ name := by
  obtain ⟨hMem, hSome⟩ := List.mem_filter.mp h
  exact ⟨by simpa using hSome, slash_not_mem_of_mem_splitOn hMem⟩

theorem names_append_slash (path more : List Char) :
    names (path ++ '/' :: more) = names path ++ names more := by
  rw [names, List.splitOn_append_cons_self, List.filter_append]
  rfl

theorem names_of_slash_not_mem {path : List Char} (hSome : path ≠ []) (h : '/' ∉ path) :
    names path = [path] := by
  simp [names, List.splitOn_eq_singleton h, hSome]

theorem names_cons {c : Char} (h : c ≠ '/') (path : List Char) :
    ∃ name more, names (c :: path) = (c :: name) :: more := by
  obtain ⟨first, more, hPath⟩ := List.exists_cons_of_ne_nil (List.splitOn_ne_nil '/' path)
  refine ⟨first, more.filter (!·.isEmpty), ?_⟩
  rw [names, List.splitOn_cons_eq_if_modifyHead, if_neg (by simpa using h), hPath]
  rfl

theorem names_of_getLast? {path : List Char} {c : Char} (hLast : path.getLast? = some c)
    (h : c ≠ '/') : ∃ init name, names path = init ++ [name] ∧ name.getLast? = some c := by
  by_cases hSlash : '/' ∈ path
  · obtain ⟨folder, name, rfl, hName⟩ := Glob.exists_last_slash hSlash
    have hSome : name ≠ [] := by
      rintro rfl
      rw [List.getLast?_append_of_ne_nil _ (List.cons_ne_nil '/' []), List.getLast?_singleton]
        at hLast
      exact h (Option.some.inj hLast).symm
    refine ⟨names folder, name, ?_, ?_⟩
    · rw [names_append_slash, names_of_slash_not_mem hSome hName]
    · rwa [List.getLast?_append_of_ne_nil _ (List.cons_ne_nil '/' name),
        List.getLast?_cons_of_ne_nil hSome] at hLast
  · have hSome : path ≠ [] := by
      rintro rfl
      cases hLast
    exact ⟨[], path, names_of_slash_not_mem hSome hSlash, hLast⟩

namespace Named

variable {l : List (List Char)}

theorem names_intercalate (h : Named l) : names (['/'].intercalate l) = l := by
  rw [names, List.splitOn_intercalate '/' (fun name hMem => (h.proper name hMem).2) h.ne_nil,
    List.filter_eq_self]
  intro name hMem
  simpa using (h.proper name hMem).1

theorem head?_intercalate {name : List Char} (h : Named (name :: l)) :
    (['/'].intercalate (name :: l)).head? = name.head? := by
  obtain ⟨rest, hRest⟩ := Glob.prefix_intercalate name l
  obtain ⟨c, name', rfl⟩ := List.exists_cons_of_ne_nil (h.proper name List.mem_cons_self).1
  rw [← hRest]
  rfl

theorem getLast?_intercalate {name : List Char} (h : Named (l ++ [name])) :
    (['/'].intercalate (l ++ [name])).getLast? = name.getLast? := by
  have hName := (h.proper name List.mem_concat_self).1
  by_cases hFront : l = []
  · rw [hFront, List.nil_append, List.intercalate_singleton]
  · rw [Glob.intercalate_append hFront (List.cons_ne_nil name []), List.intercalate_singleton,
      List.getLast?_append_of_ne_nil _ (List.cons_ne_nil '/' name),
      List.getLast?_cons_of_ne_nil hName]

theorem getLast?_intercalate_ne_slash (h : Named l) :
    (['/'].intercalate l).getLast? ≠ some '/' := by
  intro hSlash
  obtain ⟨init, name, rfl⟩ := (List.eq_nil_or_concat' l).resolve_left h.ne_nil
  rw [h.getLast?_intercalate] at hSlash
  exact (h.proper name List.mem_concat_self).2 (List.mem_of_getLast? hSlash)

end Named

/-! ## The normal form -/

/-- The slash that a path ends in, if it does. -/
def slashAtEnd (path : List Char) : List Char := if path.getLast? = some '/' then ['/'] else []

theorem normalize_eq {path : List Char} (h : inner path ≠ []) :
    normalize path = ['/'].intercalate (names (inner path)) ++ slashAtEnd (inner path) := by
  have hSome : (inner path).isEmpty = false := by simpa using h
  change (if (inner path).isEmpty = true then _ else if (inner path).getLast? = some '/' then
    ['/'].intercalate (names (inner path)) ++ ['/'] else ['/'].intercalate (names (inner path))) = _
  rw [hSome, slashAtEnd]
  by_cases hSlash : (inner path).getLast? = some '/'
  · simp only [hSlash, if_true, Bool.false_eq_true, if_false]
  · simp only [hSlash, Bool.false_eq_true, if_false, List.append_nil]

theorem ne_slash_of_head?_inner {path : List Char} {c : Char} (h : (inner path).head? = some c) :
    c ≠ '/' := by
  have hHead := List.head?_dropWhile_not (· = '/') (Text.trim path)
  rw [inner] at h
  rw [h] at hHead
  exact of_decide_eq_false hHead

theorem not_isBlank_of_getLast?_inner {path : List Char} {c : Char}
    (h : (inner path).getLast? = some c) : Text.isBlank c = false := by
  obtain ⟨front, hFront⟩ := List.dropWhile_suffix (· = '/') (l := Text.trim path)
  apply not_isBlank_of_getLast?_trim
  rw [← hFront, List.getLast?_append]
  change (inner path).getLast?.or _ = _
  rw [h]
  rfl

/-- What has solid ends and proper names in between is its own normal form. -/
theorem normalize_intercalate {l : List (List Char)} (h : Named l) {tail : List Char}
    (hTail : tail = [] ∨ tail = ['/'])
    (hHead : ∀ c, (['/'].intercalate l).head? = some c → Text.isBlank c = false)
    (hLast : ∀ c, (['/'].intercalate l ++ tail).getLast? = some c → Text.isBlank c = false) :
    normalize (['/'].intercalate l ++ tail) = ['/'].intercalate l ++ tail := by
  generalize hPath : ['/'].intercalate l ++ tail = path at hLast ⊢
  obtain ⟨c, hc, hFirst⟩ : ∃ c, c ≠ '/' ∧ (['/'].intercalate l).head? = some c := by
    obtain ⟨name, more, rfl⟩ := List.exists_cons_of_ne_nil h.ne_nil
    obtain ⟨hSome, hSlash⟩ := h.proper name List.mem_cons_self
    obtain ⟨c, name, rfl⟩ := List.exists_cons_of_ne_nil hSome
    refine ⟨c, ?_, h.head?_intercalate⟩
    rintro rfl
    exact hSlash List.mem_cons_self
  have hPathFirst : path.head? = some c := by
    rw [← hPath, List.head?_append, hFirst]
    rfl
  have hTrim : Text.trim path = path := by
    refine trim_eq_self ?_ hLast
    rw [hPathFirst, ← hFirst]
    exact hHead
  have hInner : inner path = path := by
    obtain ⟨rest, hRest⟩ := List.head?_eq_some_iff.mp hPathFirst
    rw [inner, hTrim, hRest]
    exact List.dropWhile_cons_of_neg (by simpa using hc)
  have hNames : names path = l := by
    rcases hTail with rfl | rfl
    · rw [← hPath, List.append_nil, h.names_intercalate]
    · rw [← hPath, names_append_slash, h.names_intercalate]
      exact List.append_nil l
  have hEnd : slashAtEnd path = tail := by
    rcases hTail with rfl | rfl
    · rw [← hPath, slashAtEnd, List.append_nil, if_neg h.getLast?_intercalate_ne_slash]
    · rw [← hPath, slashAtEnd, List.getLast?_concat, if_pos rfl]
  have hSome : inner path ≠ [] := by
    rw [hInner]
    intro hNone
    rw [hNone] at hPathFirst
    cases hPathFirst
  rw [normalize_eq hSome, hInner, hNames, hEnd, hPath]

theorem names_inner {path : List Char} (h : inner path ≠ []) :
    Named (names (inner path)) ∧
      (['/'].intercalate (names (inner path))).head? = (inner path).head? := by
  obtain ⟨c, rest, hInner⟩ := List.exists_cons_of_ne_nil h
  have hFirst : (inner path).head? = some c := by
    rw [hInner]
    rfl
  obtain ⟨name, more, hNames⟩ := names_cons (ne_slash_of_head?_inner hFirst) rest
  rw [← hInner] at hNames
  have hNamed : Named (names (inner path)) := by
    refine ⟨?_, fun _ hMem => proper_of_mem_names hMem⟩
    rw [hNames]
    exact List.cons_ne_nil _ _
  refine ⟨hNamed, ?_⟩
  rw [hNames] at hNamed ⊢
  rw [hNamed.head?_intercalate, hFirst, List.head?_cons]

theorem not_isBlank_of_getLast?_names_inner {path : List Char} (h : inner path ≠ []) {c : Char}
    (hLast : (['/'].intercalate (names (inner path)) ++ slashAtEnd (inner path)).getLast? =
      some c) : Text.isBlank c = false := by
  unfold slashAtEnd at hLast
  split at hLast
  · rw [List.getLast?_concat] at hLast
    cases hLast
    rfl
  · rename_i hSlash
    obtain ⟨d, hEnd⟩ : ∃ d, (inner path).getLast? = some d :=
      ⟨_, List.getLast?_eq_some_getLast h⟩
    have hd : d ≠ '/' := by
      rintro rfl
      exact hSlash hEnd
    obtain ⟨init, name, hNames, hName⟩ := names_of_getLast? hEnd hd
    have hNamed := (names_inner h).1
    rw [hNames] at hNamed hLast
    rw [List.append_nil, hNamed.getLast?_intercalate, hName, ← hEnd] at hLast
    exact not_isBlank_of_getLast?_inner hLast

theorem slashAtEnd_cases (path : List Char) : slashAtEnd path = [] ∨ slashAtEnd path = ['/'] := by
  unfold slashAtEnd
  split
  · exact .inr rfl
  · exact .inl rfl

theorem normalize_normalize {path : List Char} (h : Anchored path) :
    normalize (normalize path) = normalize path := by
  by_cases hNone : inner path = []
  · have hRoot : normalize path = ['/'] := by
      unfold normalize
      change (if (inner path).isEmpty = true then _ else _) = _
      rw [hNone]
      rfl
    rw [hRoot]
    rfl
  · obtain ⟨hNamed, hFirst⟩ := names_inner hNone
    rw [normalize_eq hNone]
    apply normalize_intercalate hNamed (slashAtEnd_cases _)
    · rw [hFirst]
      exact h
    · exact fun _ => not_isBlank_of_getLast?_names_inner hNone

example : normalize "/ k".toList = " k".toList ∧ normalize " k".toList = "k".toList := by decide

/-! ## Names of stored paths -/

/-- No name in a path is empty, except behind a slash at the end. -/
def Shaped (path : List Char) : Prop := ∀ name ∈ (path.splitOn '/').dropLast, name ≠ []

theorem Shaped.of_named {l : List (List Char)} (h : Named l) {tail : List Char}
    (hTail : tail = [] ∨ tail = ['/']) : Shaped (['/'].intercalate l ++ tail) := by
  have hSplit : (['/'].intercalate l).splitOn '/' = l :=
    List.splitOn_intercalate '/' (fun name hMem => (h.proper name hMem).2) h.ne_nil
  intro name hMem
  rcases hTail with rfl | rfl
  · rw [List.append_nil, hSplit] at hMem
    exact (h.proper name ((List.dropLast_sublist l).subset hMem)).1
  · rw [List.splitOn_append_cons_self, hSplit, List.splitOn_nil, List.dropLast_concat] at hMem
    exact (h.proper name hMem).1

theorem shaped_normalize (path : List Char) : Shaped (Store.keyOf (normalize path)).toList := by
  unfold Store.keyOf
  split
  · intro name hMem
    cases hMem
  · rename_i hRoot
    have hInner : inner path ≠ [] := by
      intro hNone
      apply hRoot
      unfold normalize
      change (if (inner path).isEmpty = true then _ else _) = _
      rw [hNone]
      rfl
    rw [String.toList_ofList, normalize_eq hInner]
    exact Shaped.of_named (names_inner hInner).1 (slashAtEnd_cases _)

theorem Shaped.dropWhile_eq {path : List Char} (h : Shaped path) :
    path.dropWhile (· = '/') = path := by
  cases path with
  | nil => rfl
  | cons c rest =>
    refine List.dropWhile_cons_of_neg ?_
    intro hSlash
    obtain rfl : c = '/' := of_decide_eq_true hSlash
    refine h [] ?_ rfl
    have hSplit : ('/' :: rest).splitOn '/' = [] :: rest.splitOn '/' :=
      List.splitOn_append_cons_self [] rest
    rw [hSplit, List.dropLast_cons_of_ne_nil (List.splitOn_ne_nil '/' rest)]
    exact List.mem_cons_self

/-! ## Stores of normal paths -/

namespace Store

def Normalized (s : Store) : Prop :=
  ∀ path ∈ s.entries.map (·.1), keyOf (normalize path.toList) = path

instance (s : Store) : Decidable s.Normalized :=
  inferInstanceAs (Decidable (∀ path ∈ s.entries.map (·.1), keyOf (normalize path.toList) = path))

variable {s s' : Store}

theorem Normalized.shaped (h : s.Normalized) :
    ∀ path ∈ s.entries.map (·.1), Shaped path.toList := by
  intro path hStored
  rw [← h path hStored]
  exact shaped_normalize _

theorem keyOf_normalize {path : List Char} (h : Anchored path) :
    keyOf (normalize (keyOf (normalize path)).toList) = keyOf (normalize path) := by
  by_cases hRoot : normalize path = ['/']
  · rw [hRoot]
    rfl
  · have hKey : (keyOf (normalize path)).toList = normalize path := by
      rw [keyOf, if_neg hRoot, String.toList_ofList]
    rw [hKey, normalize_normalize h]

theorem mem_paths_insert {path other : String} {data : Bytes} {entries : List (String × Bytes)}
    (h : other ∈ (insert path data entries).map (·.1)) :
    other = path ∨ other ∈ entries.map (·.1) := by
  induction entries with
  | nil => exact .inl (List.mem_singleton.mp h)
  | cons entry entries ih =>
    obtain ⟨p, d⟩ := entry
    unfold insert at h
    split at h
    · exact List.mem_cons.mp h
    · split at h
      · rcases List.mem_cons.mp h with hHere | hLater
        · exact .inl hHere
        · exact .inr (List.mem_cons_of_mem p hLater)
      · rcases List.mem_cons.mp h with hHere | hLater
        · exact .inr (hHere ▸ List.mem_cons_self)
        · exact (ih hLater).imp_right (List.mem_cons_of_mem p)

theorem Normalized.insert (hNormalized : s.Normalized) {path : List Char} (h : Anchored path)
    (data : Bytes) :
    Normalized { s with entries := insert (keyOf (normalize path)) data s.entries } := by
  intro other hMem
  rcases mem_paths_insert hMem with rfl | hOld
  · exact keyOf_normalize h
  · exact hNormalized other hOld

theorem Normalized.put (hNormalized : s.Normalized) {path : String} (h : Anchored path.toList)
    {data : Bytes} (hPut : s.put path data = .ok s') : s'.Normalized := by
  simp only [Store.put] at hPut
  split at hPut
  · cases hPut
  · cases hPut
    exact hNormalized.insert h data

theorem Normalized.makeDirectory? (hNormalized : s.Normalized) {path : String}
    (h : Anchored path.toList) (hMade : s.makeDirectory? path = some s') : s'.Normalized := by
  simp only [Store.makeDirectory?] at hMade
  split at hMade
  · cases hMade
    exact hNormalized.insert h []
  · cases hMade

theorem Normalized.delete (hNormalized : s.Normalized) (path : String) :
    (s.delete path).Normalized := by
  intro other hMem
  obtain ⟨entry, hEntry, rfl⟩ := List.mem_map.mp hMem
  exact hNormalized _ (List.mem_map_of_mem (List.mem_filter.mp hEntry).1)

end Store

end BlobFiles.Memory
