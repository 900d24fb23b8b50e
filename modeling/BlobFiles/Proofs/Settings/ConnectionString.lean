import BlobFiles.Proofs.Results
import BlobFiles.Settings.ConnectionString
import Mathlib.Data.List.Basic
import Mathlib.Data.List.TakeWhile

/-! # Reading a connection string

What is read off the text between two semicolons does not depend on the blanks in it: the part is
trimmed before it is cut at its first equals sign, and what is trimmed off holds no equals sign. So
the entries of a text are found piece by piece, and a text is refused only for a piece that is not
blank and has no equals sign.
-/
namespace BlobFiles

namespace Text

abbrev Blanks := { spaces : List Char // ∀ c ∈ spaces, isBlank c = true }

def Blanks.none : Blanks := ⟨[], List.all_eq_true.mp rfl⟩

theorem Blanks.not_mem (spaces : Blanks) {c : Char} (h : isBlank c = false) : c ∉ spaces.1 := by
  intro hMem
  cases (spaces.2 c hMem).symm.trans h

theorem trim_padded (before after : Blanks) (text : List Char) :
    trim (before.1 ++ text ++ after.1) = trim text := by
  have hEnd : ∀ text, trimEnd (text ++ after.1) = trimEnd text := by
    intro text
    rw [trimEnd, List.reverse_append, List.dropWhile_append_of_pos, trimEnd]
    exact fun c hMem => after.2 c (List.mem_reverse.mp hMem)
  have hStart : trimStart (before.1 ++ text ++ after.1) = trimStart (text ++ after.1) := by
    rw [List.append_assoc, trimStart, List.dropWhile_append_of_pos before.2, trimStart]
  rw [trim, hStart, trimStart, List.dropWhile_append]
  split
  · rename_i hBlank
    rw [List.dropWhile_eq_nil_iff.mpr after.2, trim, trimStart, List.isEmpty_iff.mp hBlank]
  · exact hEnd _

theorem exists_padding (text : List Char) :
    ∃ before after : Blanks, text = before.1 ++ trim text ++ after.1 := by
  let before : Blanks := ⟨text.takeWhile isBlank, fun _ => List.mem_takeWhile_imp⟩
  let after : Blanks := ⟨((trimStart text).reverse.takeWhile isBlank).reverse,
    fun _ hMem => List.mem_takeWhile_imp (List.mem_reverse.mp hMem)⟩
  refine ⟨before, after, ?_⟩
  rw [List.append_assoc, trim, trimEnd, ← List.reverse_append, List.takeWhile_append_dropWhile,
    List.reverse_reverse, trimStart, List.takeWhile_append_dropWhile]

theorem trim_eq_nil_iff {text : List Char} : trim text = [] ↔ ∀ c ∈ text, isBlank c = true := by
  constructor
  · intro h
    obtain ⟨before, after, hText⟩ := exists_padding text
    rw [h, List.append_nil] at hText
    rw [hText]
    exact fun c hMem => (List.mem_append.mp hMem).elim (before.2 c) (after.2 c)
  · intro h
    have hTrim := trim_padded ⟨text, h⟩ Blanks.none []
    rwa [List.append_nil, Blanks.none, List.append_nil] at hTrim

end Text

namespace ConnectionString

open Text

/-! ## The entries of a text -/

/-- The name and the value on the two sides of the first equals sign. -/
def read? (piece : List Char) : Option (List Char × List Char) :=
  (cut '=' piece).map fun halves => (trim halves.1, trim halves.2)

/-- What is read off a text, whether or not the text is accepted. -/
def entries (text : List Char) : Entries := (text.splitOn ';').filterMap read?

theorem read?_eq_none_iff {piece : List Char} : read? piece = none ↔ '=' ∉ piece := by
  rw [read?, Option.map_eq_none_iff, cut_eq_none_iff]

theorem read?_append {name : List Char} (h : '=' ∉ name) (value : List Char) :
    read? (name ++ '=' :: value) = some (trim name, trim value) := by
  rw [read?, cut_eq_some_iff.mpr ⟨rfl, h⟩]
  rfl

theorem read?_padded (before after : Blanks) (text : List Char) :
    read? (before.1 ++ text ++ after.1) = read? text := by
  cases hCut : cut '=' text with
  | none =>
    have hNone := cut_eq_none_iff.mp hCut
    rw [read?_eq_none_iff.mpr hNone, read?_eq_none_iff]
    simp only [List.mem_append, not_or]
    exact ⟨⟨before.not_mem rfl, hNone⟩, after.not_mem rfl⟩
  | some halves =>
    obtain ⟨name, value⟩ := halves
    obtain ⟨rfl, hName⟩ := cut_eq_some_iff.mp hCut
    have hFront : '=' ∉ before.1 ++ name ++ Blanks.none.1 := by
      simp only [List.mem_append, not_or]
      exact ⟨⟨before.not_mem rfl, hName⟩, Blanks.none.not_mem rfl⟩
    have hText : before.1 ++ (name ++ '=' :: value) ++ after.1 =
        before.1 ++ name ++ Blanks.none.1 ++ '=' :: (Blanks.none.1 ++ value ++ after.1) := by
      simp [Blanks.none]
    rw [hText, read?_append hFront, read?_append hName, trim_padded, trim_padded]

theorem read?_trim (piece : List Char) : read? (trim piece) = read? piece := by
  obtain ⟨before, after, hText⟩ := exists_padding piece
  conv_rhs => rw [hText]
  exact (read?_padded before after _).symm

theorem entry_eq (part : List Char) : entry part = (read? part).elim (.error part) .ok := by
  unfold entry read?
  cases cut '=' part <;> rfl

/-- Neither blank nor an entry. -/
def Malformed (piece : List Char) : Prop := (∃ c ∈ piece, isBlank c = false) ∧ '=' ∉ piece

instance (piece : List Char) : Decidable (Malformed piece) :=
  decidable_of_iff (piece.any (!isBlank ·) = true ∧ '=' ∉ piece) (by simp [Malformed])

theorem malformed_iff {piece : List Char} :
    Malformed piece ↔ trim piece ≠ [] ∧ read? piece = none := by
  rw [Malformed, read?_eq_none_iff, ne_eq, trim_eq_nil_iff]
  simp

theorem mapM_entry_cons_of_blank {piece : List Char} (h : trim piece = [])
    (pieces : List (List Char)) :
    (((piece :: pieces).map trim).filter (!·.isEmpty)).mapM entry =
      ((pieces.map trim).filter (!·.isEmpty)).mapM entry := by
  rw [List.map_cons, h]
  rfl

theorem mapM_entry_cons {piece : List Char} (h : trim piece ≠ []) (pieces : List (List Char)) :
    (((piece :: pieces).map trim).filter (!·.isEmpty)).mapM entry = do
      let e ← (read? piece).elim (.error (trim piece)) .ok
      let more ← ((pieces.map trim).filter (!·.isEmpty)).mapM entry
      return e :: more := by
  have hKept : (!(trim piece).isEmpty) = true := by simpa using h
  rw [List.map_cons, List.filter_cons_of_pos (p := fun x : List Char => !x.isEmpty) hKept,
    List.mapM_cons, entry_eq, read?_trim]

theorem mapM_entry_eq_ok_iff {pieces : List (List Char)} {found : Entries} :
    ((pieces.map trim).filter (!·.isEmpty)).mapM entry = .ok found ↔
      (∀ piece ∈ pieces, ¬ Malformed piece) ∧ found = pieces.filterMap read? := by
  induction pieces generalizing found with
  | nil => simp [pure, Except.pure, eq_comm]
  | cons piece pieces ih =>
    rw [List.forall_mem_cons, malformed_iff]
    by_cases hBlank : trim piece = []
    · have hNone : read? piece = none := by
        rw [← read?_trim, hBlank]
        rfl
      rw [mapM_entry_cons_of_blank hBlank, ih]
      simp [hBlank, hNone]
    · rw [mapM_entry_cons hBlank]
      cases hRead : read? piece with
      | none => simp [hBlank, bind, Except.bind]
      | some e =>
        rw [List.filterMap_cons_some hRead]
        constructor
        · intro h
          obtain ⟨first, hFirst, h⟩ := bind_eq_ok_iff.mp h
          obtain ⟨more, hMore, hFound⟩ := bind_eq_ok_iff.mp h
          obtain ⟨hRest, rfl⟩ := ih.mp hMore
          cases hFirst
          cases hFound
          exact ⟨⟨by simp, hRest⟩, rfl⟩
        · rintro ⟨⟨-, hRest⟩, rfl⟩
          exact bind_eq_ok_iff.mpr ⟨e, rfl, bind_eq_ok_iff.mpr ⟨_, ih.mpr ⟨hRest, rfl⟩, rfl⟩⟩

theorem parse_eq_ok_iff {text : String} {cs : ConnectionString} :
    parse text = .ok cs ↔ (∀ piece ∈ text.toList.splitOn ';', ¬ Malformed piece) ∧
      cs = ofEntries (entries text.toList) := by
  have hParts : ∀ found, (parts text.toList).mapM entry = .ok found ↔ _ := fun found =>
    mapM_entry_eq_ok_iff
  unfold parse
  cases hRead : (parts text.toList).mapM entry with
  | error part =>
    constructor
    · intro h
      cases h
    · rintro ⟨hWell, -⟩
      cases hRead.symm.trans ((hParts _).mpr ⟨hWell, rfl⟩)
  | ok found =>
    obtain ⟨hWell, rfl⟩ := (hParts found).mp hRead
    constructor
    · intro h
      cases h
      exact ⟨hWell, rfl⟩
    · rintro ⟨-, rfl⟩
      rfl

theorem parse_fails_iff {text : String} :
    (∃ e, parse text = .error e) ↔ ∃ piece ∈ text.toList.splitOn ';', Malformed piece := by
  constructor
  · rintro ⟨e, hError⟩
    by_contra hNone
    have hWell : ∀ piece ∈ text.toList.splitOn ';', ¬ Malformed piece :=
      fun piece hMem hBad => hNone ⟨piece, hMem, hBad⟩
    cases hError.symm.trans (parse_eq_ok_iff.mpr ⟨hWell, rfl⟩)
  · rintro ⟨piece, hMem, hBad⟩
    cases hParse : parse text with
    | error e => exact ⟨e, rfl⟩
    | ok cs => exact absurd hBad ((parse_eq_ok_iff.mp hParse).1 piece hMem)

/-! ## Entries as they are written -/

/-- A name and a value that can be written. Blanks at their ends are part of neither. -/
structure Field where
  name : List Char
  value : List Char
  name_plain : ';' ∉ name ∧ '=' ∉ name
  value_plain : ';' ∉ value

/-- What stands between two semicolons. Blanks around a field are those in front of its name and
behind its value. -/
inductive Piece where
  | blank (spaces : Blanks)
  | field (f : Field) (beforeName afterName beforeValue afterValue : Blanks)

namespace Piece

def written : Piece → List Char
  | blank spaces => spaces.1
  | field f before after before' after' =>
    before.1 ++ f.name ++ after.1 ++ '=' :: (before'.1 ++ f.value ++ after'.1)

def field? : Piece → Option Field
  | blank _ => none
  | field f _ _ _ _ => some f

end Piece

def write (pieces : List Piece) : String :=
  .ofList ([';'].intercalate (pieces.map Piece.written))

/-- The fields of a text, in the order in which they are written. -/
def fields (pieces : List Piece) : List Field := pieces.filterMap Piece.field?

def Field.entry (f : Field) : List Char × List Char := (trim f.name, trim f.value)

/-- The value of the last field with a name. -/
def value? (fields : List Field) (name : String) : Option String :=
  (fields.filter fun f => trim f.name = name.toList).getLast?.map fun f => .ofList (trim f.value)

theorem Piece.semicolon_not_mem_written (piece : Piece) : ';' ∉ piece.written := by
  cases piece with
  | blank spaces => exact spaces.not_mem rfl
  | field f before after before' after' =>
    simp only [Piece.written, List.mem_append, List.mem_cons, not_or]
    exact ⟨⟨⟨before.not_mem rfl, f.name_plain.1⟩, after.not_mem rfl⟩, by decide,
      ⟨before'.not_mem rfl, f.value_plain⟩, after'.not_mem rfl⟩

theorem Piece.read?_written (piece : Piece) :
    read? piece.written = piece.field?.map Field.entry := by
  cases piece with
  | blank spaces => exact read?_eq_none_iff.mpr (spaces.not_mem rfl)
  | field f before after before' after' =>
    have hName : '=' ∉ before.1 ++ f.name ++ after.1 := by
      simp only [List.mem_append, not_or]
      exact ⟨⟨before.not_mem rfl, f.name_plain.2⟩, after.not_mem rfl⟩
    rw [Piece.written, read?_append hName, trim_padded, trim_padded]
    rfl

theorem Piece.not_malformed (piece : Piece) : ¬ Malformed piece.written := by
  rintro ⟨⟨c, hMem, hSome⟩, hEquals⟩
  cases piece with
  | blank spaces => cases (spaces.2 c hMem).symm.trans hSome
  | field f before after before' after' => simp [Piece.written] at hEquals

theorem splitOn_write {pieces : List Piece} (h : pieces ≠ []) :
    (write pieces).toList.splitOn ';' = pieces.map Piece.written := by
  rw [write, String.toList_ofList]
  apply List.splitOn_intercalate
  · intro text hMem
    obtain ⟨piece, -, rfl⟩ := List.mem_map.mp hMem
    exact piece.semicolon_not_mem_written
  · simpa using h

theorem entries_write (pieces : List Piece) :
    entries (write pieces).toList = (fields pieces).map Field.entry := by
  by_cases h : pieces = []
  · subst h
    rfl
  · rw [entries, splitOn_write h, List.filterMap_map, fields, List.map_filterMap]
    exact List.filterMap_congr fun piece _ => piece.read?_written

theorem parse_write (pieces : List Piece) :
    parse (write pieces) = .ok (ofEntries ((fields pieces).map Field.entry)) := by
  rw [← entries_write]
  refine parse_eq_ok_iff.mpr ⟨?_, rfl⟩
  intro text hMem
  by_cases h : pieces = []
  · subst h
    cases List.mem_singleton.mp hMem
    rintro ⟨⟨c, hNone, -⟩, -⟩
    cases hNone
  · rw [splitOn_write h] at hMem
    obtain ⟨piece, -, rfl⟩ := List.mem_map.mp hMem
    exact piece.not_malformed

/-! ## The last entry counts -/

theorem last?_eq_getLast? (entries : Entries) (name : String) :
    entries.last? name =
      (entries.filter fun e => e.1 = name.toList).getLast?.map fun e => .ofList e.2 := by
  rw [Entries.last?, ← List.head?_filter, List.filter_reverse, List.head?_reverse]

theorem last?_map_entry (fields : List Field) (name : String) :
    Entries.last? (fields.map Field.entry) name = value? fields name := by
  rw [last?_eq_getLast?, List.filter_map, List.getLast?_map, Option.map_map]
  rfl

theorem filter_eq_of_perm {entries entries' : Entries} (h : entries.Perm entries')
    (hNames : (entries.map (·.1)).Nodup) (name : List Char) :
    entries.filter (fun e => e.1 = name) = entries'.filter fun e => e.1 = name := by
  have hPerm := h.filter fun e => e.1 = name
  have hOwn : (entries.filter fun e => e.1 = name).Pairwise fun e e' => e.1 ≠ e'.1 :=
    (List.pairwise_map.mp hNames).filter _
  have hAll : ∀ e ∈ entries.filter fun e => e.1 = name, e.1 = name := by simp
  match hFound : entries.filter fun e => e.1 = name with
  | [] =>
    rw [hFound] at hPerm
    exact hFound.trans hPerm.nil_eq
  | [e] =>
    rw [hFound] at hPerm
    exact hFound.trans (List.singleton_perm.mp hPerm)
  | e :: e' :: more =>
    rw [hFound] at hOwn hAll
    have hSame : e.1 = e'.1 := (hAll e (by simp)).trans (hAll e' (by simp)).symm
    exact absurd hSame ((List.pairwise_cons.mp hOwn).1 e' List.mem_cons_self)

theorem ofEntries_congr {entries entries' : Entries}
    (h : ∀ name : List Char, entries.filter (fun e => e.1 = name) =
      entries'.filter fun e => e.1 = name) : ofEntries entries = ofEntries entries' := by
  have hLast : ∀ name, entries.last? name = entries'.last? name := by
    intro name
    rw [last?_eq_getLast?, h, ← last?_eq_getLast?]
  simp only [ofEntries, Entries.endpoint?, hLast]

/-- The endpoint that belongs to the account of the string, in a cloud given by a suffix. -/
def accountEndpoint? (fields : List Field) : Option String := do
  let suffix ← value? fields "EndpointSuffix"
  let account ← value? fields "AccountName"
  let protocol := (value? fields "DefaultEndpointsProtocol").getD "https"
  return s!"{protocol}://{account}.blob.{suffix}"

theorem endpoint?_map_entry (fields : List Field) :
    Entries.endpoint? (fields.map Field.entry) =
      (value? fields "BlobEndpoint").or (accountEndpoint? fields) := by
  simp only [Entries.endpoint?, last?_map_entry, accountEndpoint?]
  cases value? fields "BlobEndpoint" with
  | some endpoint => rfl
  | none =>
    cases value? fields "EndpointSuffix" with
    | none => rfl
    | some suffix => cases value? fields "AccountName" <;> rfl

/-- A written text is accepted and read field by field; any other text is refused for a piece that
is malformed. What is read depends on the order of fields with one name only. -/
theorem parse_written :
    (∀ pieces : List Piece, parse (write pieces) = .ok {
      accountName := value? (fields pieces) "AccountName"
      accountKey := value? (fields pieces) "AccountKey"
      sasToken := value? (fields pieces) "SharedAccessSignature"
      blobEndpoint := (value? (fields pieces) "BlobEndpoint").or
        (accountEndpoint? (fields pieces)) }) ∧
    (∀ text : String, (∃ e, parse text = .error e) ↔
      ∃ piece ∈ text.toList.splitOn ';', (∃ c ∈ piece, isBlank c = false) ∧ '=' ∉ piece) ∧
    (∀ pieces pieces' : List Piece,
      (∀ name : List Char, ((fields pieces).map Field.entry).filter (fun e => e.1 = name) =
        ((fields pieces').map Field.entry).filter fun e => e.1 = name) →
      parse (write pieces) = parse (write pieces')) ∧
    ∀ pieces pieces' : List Piece,
      ((fields pieces).map Field.entry).Perm ((fields pieces').map Field.entry) →
      ((fields pieces).map fun f => trim f.name).Nodup →
      parse (write pieces) = parse (write pieces') := by
  have hOrder : ∀ pieces pieces' : List Piece,
      (∀ name : List Char, ((fields pieces).map Field.entry).filter (fun e => e.1 = name) =
        ((fields pieces').map Field.entry).filter fun e => e.1 = name) →
      parse (write pieces) = parse (write pieces') := by
    intro pieces pieces' h
    rw [parse_write, parse_write, ofEntries_congr h]
  refine ⟨?_, fun text => parse_fails_iff, hOrder, ?_⟩
  · intro pieces
    rw [parse_write, ofEntries, endpoint?_map_entry]
    simp only [last?_map_entry]
  · intro pieces pieces' hPerm hNames
    apply hOrder
    apply filter_eq_of_perm hPerm
    rw [List.map_map]
    exact hNames

/-! A name that is written twice, blanks of several kinds, a blank piece, and equals signs in the
last value. -/

def spaced : Blanks := ⟨[' ', Char.ofNat 0xA0, Char.ofNat 0x3000], List.all_eq_true.mp rfl⟩

def oldName : Field := ⟨"AccountName".toList, "old".toList, by decide, by decide⟩

def newName : Field := ⟨"AccountName".toList, "acct".toList, by decide, by decide⟩

def token : Field :=
  ⟨"SharedAccessSignature".toList, "sv=2022&sig=a2V5==".toList, by decide, by decide⟩

def renamed : List Piece :=
  [.field oldName .none .none .none .none, .blank spaced,
    .field newName spaced spaced spaced .none, .field token .none .none spaced spaced]

def shuffled : List Piece :=
  [.field token .none spaced .none .none, .field newName .none .none .none spaced]

theorem parse_written_renamed :
    parse (write renamed) = .ok { accountName := "acct", sasToken := "sv=2022&sig=a2V5==" } ∧
      (∃ e, parse "AccountName=acct;AccountKey" = .error e) ∧
      parse (write (renamed.drop 1)) = parse (write shuffled) := by
  obtain ⟨hRead, hFails, -, hPerm⟩ := parse_written
  refine ⟨hRead renamed, ?_, hPerm _ _ (.swap _ _ []) (by decide)⟩
  exact (hFails _).mpr ⟨"AccountKey".toList, by decide, ⟨'A', by decide, rfl⟩, by decide⟩

end ConnectionString

end BlobFiles
