import BlobFiles.Proofs.Storage.MemoryListing
import Mathlib.Data.List.Nodup
import Mathlib.Data.String.Basic

/-! # Listings are exact

A listing asks the lister for the directory that the start reaches into and narrows the answer down.
Nothing is lost on the way: what is stored below the container begins with that directory as it was
asked for, because the parts of a stored path are not changed by normalisation. Only a blank in
front is, so a container has to begin with something else. The order is that of the lister.
-/
namespace BlobFiles.Memory

/-! ## What is stored -/

/-- A directory on the way to a stored path is its own normal form. -/
theorem Shaped.normalize_directory {folder rest : List Char} (h : Shaped (folder ++ '/' :: rest))
    (hHead : ∀ c, folder.head? = some c → Text.isBlank c = false) :
    folder ≠ [] ∧ normalize (folder ++ ['/']) = folder ++ ['/'] := by
  have hNamed : Named (folder.splitOn '/') := by
    constructor
    · exact List.splitOn_ne_nil '/' folder
    · intro name hMem
      refine ⟨h name ?_, slash_not_mem_of_mem_splitOn hMem⟩
      rw [List.splitOn_append_cons_self,
        List.dropLast_append_of_ne_nil (List.splitOn_ne_nil '/' rest)]
      exact List.mem_append_left _ hMem
  have hJoined : ['/'].intercalate (folder.splitOn '/') = folder := List.intercalate_splitOn '/'
  constructor
  · rintro rfl
    exact (hNamed.proper [] (List.mem_singleton.mpr rfl)).1 rfl
  · have hEnd : (['/'] : List Char) = [] ∨ (['/'] : List Char) = ['/'] := .inr rfl
    have hNormal := normalize_intercalate hNamed hEnd
    rw [hJoined] at hNormal
    apply hNormal hHead
    intro c hLast
    rw [List.getLast?_concat] at hLast
    cases hLast
    rfl

namespace Store

/-- What the store holds after some writing and deleting. -/
inductive Built : Store → Prop where
  | empty : Built {}
  | put {s s' : Store} {path : String} {data : Bytes} (h : Built s)
      (hPut : s.put path data = .ok s') : Built s'
  | makeDirectory {s s' : Store} {path : String} (h : Built s)
      (hMade : s.makeDirectory? path = some s') : Built s'
  | delete {s : Store} (path : String) (h : Built s) : Built (s.delete path)
  | connect {s : Store} (n : Nat) (h : Built s) : Built { s with connects := n }

structure Regular (s : Store) : Prop where
  sorted : s.entries.Pairwise fun e e' => e.1 < e'.1
  shaped : ∀ path ∈ s.entries.map (·.1), Shaped path.toList

theorem Regular.nodup {s : Store} (h : s.Regular) : (s.entries.map (·.1)).Nodup :=
  List.pairwise_map.mpr (h.sorted.imp ne_of_lt)

theorem sorted_insert {entries : List (String × Bytes)} (path : String) (data : Bytes)
    (h : entries.Pairwise fun e e' => e.1 < e'.1) :
    (insert path data entries).Pairwise fun e e' => e.1 < e'.1 := by
  induction entries with
  | nil => exact List.pairwise_singleton _ _
  | cons entry entries ih =>
    obtain ⟨p, d⟩ := entry
    obtain ⟨hFirst, hRest⟩ := List.pairwise_cons.mp h
    unfold insert
    split
    · rename_i hBefore
      refine List.pairwise_cons.mpr ⟨?_, h⟩
      intro e hMem
      rcases List.mem_cons.mp hMem with rfl | hLater
      · exact hBefore
      · exact lt_trans hBefore (hFirst e hLater)
    · split
      · rename_i hSame
        subst hSame
        exact List.pairwise_cons.mpr ⟨hFirst, hRest⟩
      · rename_i hNotBefore hOther
        have hAfter : p < path := lt_of_le_of_ne (not_lt.mp hNotBefore) (Ne.symm hOther)
        refine List.pairwise_cons.mpr ⟨?_, ih hRest⟩
        intro e hMem
        rcases mem_paths_insert (List.mem_map_of_mem hMem) with hNew | hOld
        · rwa [hNew]
        · obtain ⟨e', hMem', hSame⟩ := List.mem_map.mp hOld
          rw [← hSame]
          exact hFirst e' hMem'

theorem Regular.insert {s : Store} (h : s.Regular) (path : List Char) (data : Bytes) :
    Regular { s with entries := insert (keyOf (normalize path)) data s.entries } where
  sorted := sorted_insert _ data h.sorted
  shaped other hMem := by
    rcases mem_paths_insert hMem with rfl | hOld
    · exact shaped_normalize path
    · exact h.shaped other hOld

theorem Built.regular {s : Store} (h : s.Built) : s.Regular := by
  induction h with
  | empty => exact ⟨List.Pairwise.nil, fun _ hMem => nomatch hMem⟩
  | put _ hPut ih =>
    simp only [Store.put] at hPut
    split at hPut
    · cases hPut
    · cases hPut
      exact ih.insert _ _
  | makeDirectory _ hMade ih =>
    simp only [Store.makeDirectory?] at hMade
    split at hMade
    · cases hMade
      exact ih.insert _ _
    · cases hMade
  | delete path _ ih =>
    refine ⟨ih.sorted.sublist List.filter_sublist, fun other hMem => ih.shaped other ?_⟩
    exact (List.filter_sublist.map _).subset hMem
  | connect n _ ih => exact ⟨ih.sorted, ih.shaped⟩

/-! ## What is listed -/

theorem throughLast_slash {folder name : List Char} (h : '/' ∉ name) :
    Text.throughLast '/' (folder ++ '/' :: name) = folder ++ ['/'] := by
  have hDropped : ∀ c ∈ name.reverse, decide (c ≠ '/') = true := by
    intro c hMem
    apply decide_eq_true
    rintro rfl
    exact h (List.mem_reverse.mp hMem)
  rw [Text.throughLast, List.reverse_append, List.reverse_cons, List.append_assoc,
    List.dropWhile_append_of_pos hDropped]
  simp

variable {s : Store} {container start path key : String}

theorem exists_key_of_belongs (h : belongs container start path = true) :
    ∃ key : String, path = s!"{container}/{key}" := by
  obtain ⟨rest, hRest⟩ := (belongs_iff.mp h).2
  refine ⟨.ofList (start.toList ++ rest), ?_⟩
  apply String.toList_inj.mp
  rw [toList_path, String.toList_ofList, ← hRest, List.append_assoc]
  rfl

/-- The directory that is asked for leads to every blob that belongs to the listing. -/
theorem below_of_belongs (hShaped : Shaped path.toList)
    (hContainer : ∀ c, container.toList.head? = some c → Text.isBlank c = false)
    (h : belongs container start path = true) :
    (keyOf (normalize (directoryOf container start))).toList <+: path.toList := by
  have hSlash : '/' ∈ container.toList ++ '/' :: start.toList := by simp
  obtain ⟨folder, name, hAsked, hName⟩ := Glob.exists_last_slash hSlash
  have hHead : ∀ c, folder.head? = some c → Text.isBlank c = false := by
    intro c hFirst
    have hWhole : (container.toList ++ '/' :: start.toList).head? = some c := by
      rw [hAsked, List.head?_append, hFirst]
      rfl
    cases hText : container.toList with
    | nil =>
      rw [hText] at hWhole
      cases hWhole
      rfl
    | cons d rest =>
      rw [hText] at hWhole hContainer
      cases hWhole
      exact hContainer _ rfl
  obtain ⟨rest, hRest⟩ := (belongs_iff.mp h).2
  have hPath : path.toList = folder ++ '/' :: (name ++ rest) := by
    rw [← hRest, hAsked, List.append_assoc]
    rfl
  rw [hPath] at hShaped ⊢
  obtain ⟨hFolder, hNormal⟩ := hShaped.normalize_directory hHead
  have hRoot : folder ++ ['/'] ≠ ['/'] := fun hEq =>
    hFolder (List.append_cancel_right (hEq.trans (List.nil_append ['/']).symm))
  rw [directoryOf, hAsked, throughLast_slash hName, hNormal, keyOf, if_neg hRoot,
    String.toList_ofList]
  exact ⟨name ++ rest, by simp⟩

/-- Whatever comes of a lister, the names that are left of it are those of the paths that belong. -/
theorem map_filterMap_nameIn? {paths : List String}
    (hShaped : ∀ path ∈ paths, Shaped path.toList) :
    (paths.filterMap (nameIn? container start)).map (fun key => s!"{container}/{key}") =
      paths.filter (belongs container start) := by
  rw [List.map_filterMap, ← List.filterMap_eq_filter]
  apply List.filterMap_congr
  intro path hMem
  cases hBelongs : belongs container start path with
  | false =>
    have hNone : nameIn? container start path = none := by
      cases hListed : nameIn? container start path with
      | none => rfl
      | some key =>
        cases ((nameIn?_eq_some_iff (hShaped path hMem)).mp hListed).2.symm.trans hBelongs
    simp [hNone, Option.guard, hBelongs]
  | true =>
    obtain ⟨key, rfl⟩ := exists_key_of_belongs hBelongs
    rw [(nameIn?_eq_some_iff (hShaped _ hMem)).mpr ⟨rfl, hBelongs⟩]
    simp [Option.guard, hBelongs]

theorem list_eq_filter (hRegular : s.Regular)
    (hContainer : ∀ c, container.toList.head? = some c → Text.isBlank c = false) (start : String) :
    (s.list container start).map (fun key => s!"{container}/{key}") =
      (s.entries.map (·.1)).filter (belongs container start) := by
  have hNames : (s.list container start).map (fun key => s!"{container}/{key}") =
      (s.below (normalize (directoryOf container start))).filter (belongs container start) :=
    map_filterMap_nameIn? fun path hMem => hRegular.shaped path (List.mem_filter.mp hMem).1
  rw [hNames]
  rw [below, List.filter_filter]
  apply List.filter_congr
  intro path hMem
  cases hBelongs : belongs container start path with
  | false => rfl
  | true =>
    have hBelow := below_of_belongs (hRegular.shaped _ hMem) hContainer hBelongs
    rw [List.isPrefixOf_iff_prefix.mpr hBelow]
    rfl

theorem path_injective {key more : String} (h : s!"{container}/{key}" = s!"{container}/{more}") :
    key = more := by
  have hLists := congrArg String.toList h
  rw [toList_path, toList_path] at hLists
  exact String.toList_inj.mp (List.cons.inj (List.append_cancel_left hLists)).2

/-- A path leads into one container. -/
theorem container_of_path {other more : String} (h : '/' ∉ container.toList)
    (hOther : '/' ∉ other.toList) (hPath : s!"{container}/{key}" = s!"{other}/{more}") :
    container = other := by
  have hCut := Text.cut_eq_some_iff.mpr ⟨toList_path container key, h⟩
  rw [hPath, Text.cut_eq_some_iff.mpr ⟨toList_path other more, hOther⟩] at hCut
  exact (String.toList_inj.mp (Prod.mk.inj (Option.some.inj hCut)).1).symm

/-- What a listing answers, for a container whose name has no blank in front. No path that begins
with a blank is its own normal form, so nothing is left out that normalisation would not change. -/
theorem list_exact (lister : Store → Lister) (hLists : (lister s).Lists s) (hBuilt : s.Built)
    (hContainer : ∀ c, container.toList.head? = some c → Text.isBlank c = false) (start : String)
    (client : Client) (token : Option String) :
    ∃ names, (storageOver lister).list client container start token s = (.ok ⟨names, none⟩, s) ∧
      names.Nodup ∧
      names.map (fun key => s!"{container}/{key}") =
        (lister s (directoryOf container start)).filter (belongs container start) ∧
      (lister s = s.lister → names.map (fun key => s!"{container}/{key}") =
        (s.entries.map (·.1)).filter (belongs container start)) ∧
      (∀ key : String, key ∈ names ↔ (s.get? s!"{container}/{key}").isSome ∧
        isDirectory s!"{container}/{key}".toList = false ∧ start.toList <+: key.toList) ∧
      ∀ other key : String, '/' ∉ container.toList → '/' ∉ other.toList → other ≠ container →
        s!"{other}/{key}" ∉ names.map fun key => s!"{container}/{key}" := by
  have hRegular := hBuilt.regular
  have hPerm := hLists.names_perm container start
  have hListed := list_eq_filter hRegular hContainer start
  refine ⟨(lister s).names container start, rfl, ?_, ?_, ?_, ?_, ?_⟩
  · rw [hPerm.nodup_iff]
    apply List.Nodup.of_map (fun key => s!"{container}/{key}")
    rw [hListed]
    exact hRegular.nodup.filter _
  · refine map_filterMap_nameIn? ?_
    intro path hMem
    have hBelow := (hLists (directoryOf container start)).mem_iff.mp hMem
    exact hRegular.shaped path (List.mem_filter.mp hBelow).1
  · intro hOwn
    rw [hOwn]
    exact hListed
  · intro key
    rw [hPerm.mem_iff, ← List.mem_map_of_injective (fun _ _ => path_injective) (a := key), hListed,
      List.mem_filter, belongs_path_iff, get?_isSome_iff]
  · intro other key hHere hThere hOther hMem
    obtain ⟨own, -, hPath⟩ := List.mem_map.mp hMem
    exact hOther (container_of_path hHere hThere hPath).symm

/-- Behind a slash a blank is kept when a path is stored, and lost when its directory is asked
for. -/
example : (Store.put {} "/ c/k" [1]).map (fun s => (s.entries.map (·.1), s.list " c" "")) =
    .ok ([" c/k"], []) := rfl

/-! Two containers, the name of one being the start of the other's, and a directory marker. -/

def logs : Store where
  entries := [("log/2024/a", [1]), ("logs/2024/", []), ("logs/2024/a", [2]), ("logs/2025/c", [3])]

theorem logs_built : logs.Built := by
  have hLog : Built { entries := [("log/2024/a", [1])] } :=
    .put .empty (show Store.put {} "log/2024/a" [1] = .ok _ from rfl)
  have hMarker : Built { entries := [("log/2024/a", [1]), ("logs/2024/", [])] } :=
    .makeDirectory hLog (show Store.makeDirectory? _ "logs/2024/" = some _ from rfl)
  have hBlob :
      Built { entries := [("log/2024/a", [1]), ("logs/2024/", []), ("logs/2024/a", [2])] } :=
    .put hMarker (show Store.put _ "logs/2024/a" [2] = .ok _ from rfl)
  exact .put hBlob (show Store.put _ "logs/2025/c" [3] = .ok _ from rfl)

theorem list_exact_partial_segment :
    logs.Built ∧ (∀ c, "logs".toList.head? = some c → Text.isBlank c = false) ∧
      logs.lister.Lists logs ∧
      storage.list ⟨"acct"⟩ "logs" "202" none logs = (.ok ⟨["2024/a", "2025/c"], none⟩, logs) ∧
      ["2024/a", "2025/c"].map (fun key => s!"logs/{key}") =
        (logs.entries.map (·.1)).filter (belongs "logs" "202") := by
  have hFront : ∀ c, "logs".toList.head? = some c → Text.isBlank c = false := by
    rintro c ⟨⟩
    rfl
  have hLists := lister_lists logs
  obtain ⟨names, hAnswer, -, -, hPaths, -, -⟩ :=
    list_exact lister hLists logs_built hFront "202" ⟨"acct"⟩ none
  have hNames : names = ["2024/a", "2025/c"] := by
    have hComputed : storage.list ⟨"acct"⟩ "logs" "202" none logs =
      (.ok ⟨["2024/a", "2025/c"], none⟩, logs) := rfl
    cases hComputed.symm.trans hAnswer
    rfl
  subst hNames
  exact ⟨logs_built, hFront, hLists, hAnswer, hPaths rfl⟩

end Store

end BlobFiles.Memory
