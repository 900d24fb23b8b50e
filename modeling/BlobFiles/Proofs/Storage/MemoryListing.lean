import BlobFiles.Proofs.Handle.Delivery
import BlobFiles.Proofs.Storage.NormalForm

/-! # What the memory account lists

Requests about a blob take the normal form of its path, so a blob is found again under the path that
a listing gives only if that is in normal form already. In a store of normal paths, what is listed
in a container has the size of the data that is stored there, and its downloads deliver that data.
It does not matter by which lister, as long as that comes upon what is stored.
-/
namespace BlobFiles.Memory

/-- What is assumed of a lister: it comes upon all that is stored below a directory, each path once,
and upon nothing else. -/
def Lister.Lists (lister : Lister) (s : Store) : Prop :=
  ∀ directory, (lister directory).Perm (s.below (normalize directory))

theorem Lister.Lists.names_perm {lister : Lister} {s : Store} (h : lister.Lists s)
    (container start : String) : (lister.names container start).Perm (s.list container start) :=
  (h _).filterMap _

namespace Store

variable {s s' : Store} {container start path key : String}

theorem lister_lists (s : Store) : s.lister.Lists s := fun _ => .refl _

theorem list_congr (h : s'.entries = s.entries) (container start : String) :
    s'.list container start = s.list container start := by
  simp only [list, Lister.names, lister, below, h]

theorem get?_congr (h : s'.entries = s.entries) (path : String) :
    s'.get? path = s.get? path := by
  simp only [get?, h]

theorem get?_isSome_iff {path : String} : (s.get? path).isSome ↔ path ∈ s.entries.map (·.1) := by
  simp [get?, List.find?_isSome]

theorem toList_path (container key : String) :
    s!"{container}/{key}".toList = container.toList ++ '/' :: key.toList := by
  simp only [String.toList_append, List.append_assoc]
  rfl

/-- Whether a path is that of a blob in the container, and its name begins with the start. -/
def belongs (container start path : String) : Bool :=
  !isDirectory path.toList && s!"{container}/{start}".toList.isPrefixOf path.toList

theorem belongs_iff : belongs container start path = true ↔
    isDirectory path.toList = false ∧ container.toList ++ '/' :: start.toList <+: path.toList := by
  rw [belongs, Bool.and_eq_true, Bool.not_eq_true', List.isPrefixOf_iff_prefix, toList_path]

theorem belongs_path_iff : belongs container start s!"{container}/{key}" = true ↔
    isDirectory s!"{container}/{key}".toList = false ∧ start.toList <+: key.toList := by
  rw [belongs_iff, toList_path, List.prefix_append_right_inj, List.cons_prefix_cons,
    and_iff_right rfl]

theorem nameIn?_eq_some_iff (hShaped : Shaped path.toList) :
    nameIn? container start path = some key ↔
      path = s!"{container}/{key}" ∧ belongs container start path = true := by
  rw [nameIn?, hShaped.dropWhile_eq]
  constructor
  · intro h
    split at h
    · cases h
    · rename_i hBlob
      split at h
      · rename_i name hRoot
        split at h
        · rename_i hStart
          cases h
          have hText := List.append_eq_of_isPrefixOf?_eq_some hRoot
          have hPath : path = s!"{container}/{String.ofList name}" := by
            apply String.toList_inj.mp
            rw [toList_path, String.toList_ofList, ← hText, List.append_assoc]
            rfl
          subst hPath
          rw [belongs_path_iff, String.toList_ofList]
          exact ⟨rfl, by simpa using hBlob, List.isPrefixOf_iff_prefix.mp hStart⟩
        · cases h
      · cases h
  · rintro ⟨rfl, hBelongs⟩
    obtain ⟨hBlob, hStart⟩ := belongs_path_iff.mp hBelongs
    have hRoot : (container.toList ++ ['/']).isPrefixOf? s!"{container}/{key}".toList =
        some key.toList := by
      rw [List.isPrefixOf?_eq_some_iff_append_eq, toList_path, List.append_assoc]
      rfl
    simp only [hBlob, hRoot, List.isPrefixOf_iff_prefix.mpr hStart, Bool.false_eq_true, if_false,
      if_true, String.ofList_toList]

/-- What is listed is stored, is no directory, and begins as it was asked for. -/
theorem of_mem_list (hShaped : ∀ path ∈ s.entries.map (·.1), Shaped path.toList)
    (h : key ∈ s.list container start) :
    s!"{container}/{key}" ∈ s.entries.map (·.1) ∧
      isDirectory s!"{container}/{key}".toList = false ∧ start.toList <+: key.toList := by
  obtain ⟨path, hBelow, hListed⟩ := List.mem_filterMap.mp h
  have hStored : path ∈ s.entries.map (·.1) := (List.mem_filter.mp hBelow).1
  obtain ⟨rfl, hBelongs⟩ := (nameIn?_eq_some_iff (hShaped path hStored)).mp hListed
  exact ⟨hStored, belongs_path_iff.mp hBelongs⟩

theorem Normalized.keyOf_blobPath (hNormalized : s.Normalized)
    (hStored : s!"{container}/{key}" ∈ s.entries.map (·.1)) :
    keyOf (blobPath container key) = s!"{container}/{key}" := by
  have hKey := hNormalized _ hStored
  rwa [toList_path] at hKey

theorem Normalized.blobPath_eq (hNormalized : s.Normalized)
    (hStored : s!"{container}/{key}" ∈ s.entries.map (·.1)) :
    blobPath container key = s!"{container}/{key}".toList := by
  have hKey := hNormalized.keyOf_blobPath hStored
  unfold keyOf at hKey
  split at hKey
  · -- the root has no name, and this path has a slash
    have hLists := congrArg String.toList hKey
    rw [toList_path] at hLists
    simp at hLists
  · rw [← hKey, String.toList_ofList]

/-- A blob with its data, found under the path that requests take. -/
def Holds (container key : String) (data : Bytes) (s : Store) : Prop :=
  isDirectory (blobPath container key) = false ∧
    s.get? (keyOf (blobPath container key)) = some data

theorem Normalized.holds (hNormalized : s.Normalized) (h : key ∈ s.list container start) :
    ∃ data, s.get? s!"{container}/{key}" = some data ∧ s.Holds container key data := by
  obtain ⟨hStored, hBlob, -⟩ := of_mem_list hNormalized.shaped h
  have hPath := hNormalized.blobPath_eq hStored
  obtain ⟨data, hData⟩ := Option.isSome_iff_exists.mp (get?_isSome_iff.mpr hStored)
  refine ⟨data, hData, ?_, ?_⟩
  · rw [hPath, hBlob]
  · rw [hNormalized.keyOf_blobPath hStored, hData]

theorem Holds.congr {data : Bytes} (h : s'.entries = s.entries)
    (hHolds : s.Holds container key data) : s'.Holds container key data :=
  ⟨hHolds.1, (get?_congr h _).trans hHolds.2⟩

theorem Holds.properties {data : Bytes} (h : s.Holds container key data) :
    s.properties container key = .ok ⟨data.length, none⟩ := by
  simp only [Store.properties, h.1, h.2, Bool.false_eq_true, if_false]

end Store

theorem storage_delivers (lister : Store → Lister) (client : Client) (container key : String)
    (data : Bytes) : ((storageOver lister).downloadOf ⟨client, container, key⟩).Delivers data
      (Store.Holds container key data) where
  keeps _ _ _ _ h := h
  answer offset length options s h _ := by
    change s.download container key offset length options.chunkSize = .ok (slice data offset length)
    by_cases hLength : length = 0
    · subst hLength
      rw [slice_zero]
      rfl
    · simp only [Store.download, if_neg hLength, h.1, h.2, Bool.false_eq_true, if_false]
      rfl

end BlobFiles.Memory
