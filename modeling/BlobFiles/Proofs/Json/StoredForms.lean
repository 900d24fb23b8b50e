import BlobFiles.BlobRecords
import BlobFiles.Proofs.Json.Record
import BlobFiles.Proofs.Time.WrittenInstant
import BlobFiles.ReadOptions

/-! # Stored forms are read back

A value of each of the four records is read back from its object and from the array of its fields,
and what is read from any JSON value is such a value. A time is stored at UTC, as the instant that
was read, which is named to the nanosecond by the text that it was read from. Properties that are
made in memory may have a time in a long second within a minute, which is read back as one in the
second that follows.
-/
namespace BlobFiles

namespace Json

/-- A record as the array of its members' values. -/
def arrayForm : Json → Json
  | object members => array (members.map Prod.snd)
  | v => v

/-- What is decoded from any value fits and is decoded again when it has been encoded; and all that
fits is decoded from both of its forms. -/
structure Faithful {α : Type} (decode : Decoder α) (encode : α → Json) (Fits : α → Prop) :
    Prop where
  again : ∀ v a, decode v = .ok a → Fits a ∧ decode (encode a) = .ok a
  forms : ∀ a, Fits a → decode (encode a) = .ok a ∧ decode (encode a).arrayForm = .ok a

/-- A record that is read off its members is faithful when each of its fields is. -/
theorem Faithful.of_members {α : Type} {decode : Decoder α} {encode : α → Json} {Fits : α → Prop}
    {record : String} (fields : List Field) (values : α → List Json) {required : Nat}
    {read : Members → Except DecodeError α}
    (hDecode : ∀ v, decode v = recordMembers record fields required v >>= read)
    (hEncode : ∀ a, encode a = .object ((fields.map Field.name).zip (values a)))
    (hNames : (fields.map Field.name).Nodup) (hRequired : required ≤ fields.length)
    (hFits : ∀ members a, read members = .ok a → Fits a)
    (hAccepts : ∀ a, Fits a → AcceptsAll fields (values a))
    (hRead : ∀ a, Fits a → read ((fields.map Field.name).zip (values a)) = .ok a) :
    Faithful decode encode Fits := by
  have hForms : ∀ a, Fits a → decode (encode a) = .ok a ∧ decode (encode a).arrayForm = .ok a := by
    intro a h
    have hLength := (hAccepts a h).length_eq
    have hValues : (encode a).arrayForm = .array (values a) := by
      rw [hEncode, arrayForm, List.map_snd_zip (by rw [List.length_map]; omega)]
    obtain ⟨hObject, hArray⟩ := recordMembers_of_acceptsAll record hNames (hAccepts a h) hRequired
    constructor
    · rw [hEncode, hDecode, hObject, ok_bind, hRead a h]
    · rw [hValues, hDecode, hArray, ok_bind, hRead a h]
  refine ⟨?_, hForms⟩
  intro v a h
  have hFit : Fits a := by
    rw [hDecode] at h
    obtain ⟨members, -, hMembers⟩ := bind_eq_ok_iff.mp h
    exact hFits members a hMembers
  exact ⟨hFit, (hForms a hFit).1⟩

/-- A number of 64 bits. -/
def maxNat : Nat := 0xFFFFFFFFFFFFFFFF

theorem decodeNat_eq_ok_iff {name : String} {v : Json} {n : Nat} :
    decodeNat name v = .ok n ↔ v = .integer n ∧ n ≤ maxNat := by
  unfold decodeNat decodeBetween maxNat
  constructor
  · intro h
    split at h
    · split at h
      · rename_i m hRange
        cases h
        exact ⟨congrArg Json.integer (Int.toNat_of_nonneg hRange.1).symm, by omega⟩
      · cases h
    · cases h
  · rintro ⟨rfl, hFits⟩
    simp only
    rw [if_pos ⟨by omega, by omega⟩]
    rfl

theorem decodeBool_bool (b : Bool) : decodeBool (.bool b) = .ok b := rfl

theorem decodeString_string (s : String) : decodeString (.string s) = .ok s := rfl

theorem decodeInstant_string {text : String} {t : Time.Instant} :
    decodeInstant (.string text) = .ok t ↔ Time.Instant.parse text = .ok t := mapError_eq_ok_iff

theorem requiredField_eq_ok {α : Type} {members : Members} {name : String} {decode : Decoder α}
    {v : Json} {a : α} (hMember : members.get? name = some v) (h : decode v = .ok a) :
    requiredField members name decode = .ok a := by
  rw [requiredField, hMember, ← h]

theorem fieldOr_eq_ok {α : Type} {members : Members} {name : String} {decode : Decoder α}
    {default : α} {v : Json} {a : α} (hMember : members.get? name = some v)
    (h : decode v = .ok a) : fieldOr members name decode default = .ok a := by
  rw [fieldOr, hMember, ← h]

/-- A field that is read is decoded from something. -/
theorem of_requiredField {α : Type} {members : Members} {name : String} {decode : Decoder α}
    {a : α} (h : requiredField members name decode = .ok a) : ∃ v, decode v = .ok a := by
  unfold requiredField at h
  split at h
  · exact ⟨_, h⟩
  · cases h

theorem of_fieldOr {α : Type} {members : Members} {name : String} {decode : Decoder α}
    {default a : α} (h : fieldOr members name decode default = .ok a) :
    (∃ v, members.get? name = some v ∧ decode v = .ok a) ∨ a = default := by
  unfold fieldOr at h
  split at h
  · rename_i v hMember
    exact .inl ⟨v, hMember, h⟩
  · cases h
    exact .inr rfl

end Json

open Json

theorem decodeNat_of_le (name : String) {n : Nat} (h : n ≤ maxNat) :
    decodeNat name (.integer n) = .ok n := decodeNat_eq_ok_iff.mpr ⟨rfl, h⟩

theorem decodeSize_of_le {n : Nat} (h : n ≤ maxNat) : decodeSize (.integer n) = .ok n :=
  decodeNat_of_le "usize" h

namespace ReadOptions

/-- As a machine of 64 bits has it. -/
structure Fits (o : ReadOptions) : Prop where
  concurrency : o.concurrency ≤ maxNat
  chunkSize : o.chunkSize ≤ maxNat
  bufferSize : o.bufferSize ≤ maxNat

theorem le_maxNat_of_fieldOr {members : Members} {name : String} {default n : Nat}
    (hDefault : default ≤ maxNat) (h : fieldOr members name decodeSize default = .ok n) :
    n ≤ maxNat := by
  rcases of_fieldOr h with ⟨v, -, hSize⟩ | rfl
  · exact (decodeNat_eq_ok_iff.mp hSize).2
  · exact hDefault

theorem faithful : Faithful decode encode Fits := by
  refine Faithful.of_members fields
    (fun o => [.integer o.concurrency, .integer o.chunkSize, .integer o.bufferSize])
    (fun _ => rfl) (fun _ => rfl) (by decide) (Nat.zero_le _) ?_ ?_ ?_
  · intro members o h
    obtain ⟨concurrency, hConcurrency, h⟩ := bind_eq_ok_iff.mp h
    obtain ⟨chunkSize, hChunkSize, h⟩ := bind_eq_ok_iff.mp h
    obtain ⟨bufferSize, hBufferSize, h⟩ := bind_eq_ok_iff.mp h
    cases h
    exact ⟨le_maxNat_of_fieldOr (by decide) hConcurrency,
      le_maxNat_of_fieldOr (by decide) hChunkSize, le_maxNat_of_fieldOr (by decide) hBufferSize⟩
  · intro o h
    exact .cons (accepts_of_decode (decodeSize_of_le h.concurrency))
      (.cons (accepts_of_decode (decodeSize_of_le h.chunkSize))
        (.cons (accepts_of_decode (decodeSize_of_le h.bufferSize)) .nil))
  · intro o h
    simp only
    rw [fieldOr_eq_ok rfl (decodeSize_of_le h.concurrency), ok_bind,
      fieldOr_eq_ok rfl (decodeSize_of_le h.chunkSize), ok_bind,
      fieldOr_eq_ok rfl (decodeSize_of_le h.bufferSize), ok_bind]
    rfl

end ReadOptions

theorem BlobUrl.faithful : Faithful BlobUrl.decode BlobUrl.encode fun _ => True := by
  refine Faithful.of_members BlobUrl.fields
    (fun url => [.bool url.fullyQualified, .string url.scheme, .string url.account,
      .string url.endpoint, .string url.container, .string url.path])
    (fun _ => rfl) (fun _ => rfl) (by decide) (Nat.le_refl 6) (fun _ _ _ => trivial) ?_ ?_
  · intro url _
    have hText : ∀ (name s : String), (Field.of name decodeString).accepts (.string s) = .ok () :=
      fun name s => accepts_of_decode rfl
    exact .cons (accepts_of_decode rfl) (.cons (hText _ _) (.cons (hText _ _) (.cons (hText _ _)
      (.cons (hText _ _) (.cons (hText _ _) .nil)))))
  · intro url _
    rw [requiredField_eq_ok rfl (decodeBool_bool _), ok_bind,
      requiredField_eq_ok rfl (decodeString_string _), ok_bind,
      requiredField_eq_ok rfl (decodeString_string _), ok_bind,
      requiredField_eq_ok rfl (decodeString_string _), ok_bind,
      requiredField_eq_ok rfl (decodeString_string _), ok_bind,
      requiredField_eq_ok rfl (decodeString_string _), ok_bind]
    rfl

theorem BlobItem.faithful : Faithful BlobItem.decode BlobItem.encode fun _ => True := by
  refine Faithful.of_members [.of "name" decodeString] (fun item => [.string item.name])
    (fun _ => rfl) (fun _ => rfl) (by decide) (Nat.le_refl 1) (fun _ _ _ => trivial) ?_ ?_
  · intro item _
    exact .cons (accepts_of_decode rfl) .nil
  · intro item _
    rfl

namespace BlobProperties

structure Fits (p : BlobProperties) : Prop where
  size : p.size ≤ maxNat
  lastModified : ∀ t, p.lastModified = some t → t.Proper

def encodeTime : Option Time.Instant → Json
  | none => .null
  | some t => .string t.text

theorem decodeTime_encodeTime {time : Option Time.Instant} (h : ∀ t, time = some t → t.Proper) :
    decodeOption decodeInstant (encodeTime time) = .ok time := by
  cases time with
  | none => rfl
  | some t =>
    have hDecoded := decodeInstant_string.mpr (Time.Instant.parse_text (h t rfl))
    rw [encodeTime, decodeOption, hDecoded]
    · rfl
    · intro hNull
      cases hNull

theorem of_decodeTime {v : Json} {t : Time.Instant}
    (h : decodeOption decodeInstant v = .ok (some t)) :
    ∃ text, v = .string text ∧ Time.Instant.parse text = .ok t := by
  cases v with
  | string text =>
    refine ⟨text, rfl, decodeInstant_string.mp ?_⟩
    rw [decodeOption] at h
    · cases hDecoded : decodeInstant (.string text) with
      | error e =>
        rw [hDecoded] at h
        cases h
      | ok t' =>
        rw [hDecoded] at h
        cases h
        rfl
    · intro hNull
      cases hNull
  | null | bool | integer | float | array | object => cases h

theorem faithful : Faithful decode encode Fits := by
  refine Faithful.of_members fields
    (fun p => [.integer p.size, encodeTime p.lastModified])
    (fun _ => rfl) ?_ (by decide) (Nat.le_refl 2) ?_ ?_ ?_
  · rintro ⟨size, _ | t⟩ <;> rfl
  · intro members p h
    obtain ⟨size, hSize, h⟩ := bind_eq_ok_iff.mp h
    obtain ⟨time, hTime, h⟩ := bind_eq_ok_iff.mp h
    cases h
    obtain ⟨v, hSize⟩ := of_requiredField hSize
    refine ⟨(decodeNat_eq_ok_iff.mp hSize).2, ?_⟩
    rintro t rfl
    rcases of_fieldOr hTime with ⟨v, -, hDecoded⟩ | hNone
    · obtain ⟨text, -, hParsed⟩ := of_decodeTime hDecoded
      exact Time.Instant.proper_of_parse hParsed
    · cases hNone
  · intro p h
    exact .cons (accepts_of_decode (decodeNat_of_le "u64" h.size))
      (.cons (accepts_of_decode (decodeTime_encodeTime h.lastModified)) .nil)
  · intro p h
    rw [requiredField_eq_ok rfl (decodeNat_of_le "u64" h.size), ok_bind,
      fieldOr_eq_ok rfl (decodeTime_encodeTime h.lastModified), ok_bind]
    rfl

/-- Properties as memory holds them, where the time may be in a long second anywhere. -/
structure Held (p : BlobProperties) : Prop where
  size : p.size ≤ maxNat
  lastModified : ∀ t, p.lastModified = some t → t.Held

/-- What the stored forms are read as. -/
def settled (p : BlobProperties) : BlobProperties :=
  ⟨p.size, p.lastModified.map Time.Instant.settled⟩

variable {p : BlobProperties}

theorem settled_eq_iff (h : p.Held) : p.settled = p ↔ p.Fits := by
  obtain ⟨size, _ | t⟩ := p
  · refine iff_of_true rfl ⟨h.size, ?_⟩
    intro t hTime
    cases hTime
  · have hTime := Time.Instant.settled_eq_iff (h.lastModified t rfl)
    constructor
    · intro hSame
      refine ⟨h.size, ?_⟩
      rintro _ ⟨⟩
      exact hTime.mp (Option.some.inj (congrArg lastModified hSame))
    · intro hFits
      rw [settled, Option.map_some, hTime.mpr (hFits.lastModified t rfl)]

theorem fits_settled (h : p.Held) : p.settled.Fits := by
  refine ⟨h.size, ?_⟩
  intro t hTime
  obtain ⟨t', hHeld, rfl⟩ := Option.map_eq_some_iff.mp hTime
  exact Time.Instant.proper_settled (h.lastModified t' hHeld)

theorem encode_settled (h : p.Held) : p.settled.encode = p.encode := by
  obtain ⟨size, _ | t⟩ := p
  · rfl
  · simp only [encode, settled, Option.map_some,
      Time.Instant.text_settled (h.lastModified t rfl)]

theorem forms_of_held (h : p.Held) :
    decode p.encode = .ok p.settled ∧ decode p.encode.arrayForm = .ok p.settled := by
  rw [← encode_settled h]
  exact faithful.forms p.settled (fits_settled h)

/-- The time in a stored form, as it stands there. -/
def timeOf : Json → Option Json
  | .object members => Members.get? "last_modified" members
  | .array [_, time] => some time
  | _ => none

theorem timeOf_encode (p : BlobProperties) :
    timeOf p.encode = some (encodeTime p.lastModified) := by
  obtain ⟨size, _ | t⟩ := p <;> rfl

theorem get?_of_recordMembers {v : Json} {members : Members}
    (h : recordMembers "BlobProperties" fields 2 v = .ok members) :
    members.get? "last_modified" = timeOf v := by
  cases v with
  | object members' =>
    obtain ⟨_, -, h⟩ := bind_eq_ok_iff.mp h
    cases h
    rfl
  | array items =>
    obtain ⟨_, -, h⟩ := bind_eq_ok_iff.mp h
    simp only at h
    split at h
    · cases h
    · rename_i hEnough
      split at h
      · cases h
      · rename_i hAll
        cases h
        have hTwo : items.length = 2 := Nat.le_antisymm (Nat.not_lt.mp hAll) (Nat.not_lt.mp hEnough)
        obtain ⟨size, time, rfl⟩ := List.length_eq_two.mp hTwo
        rfl
  | null | bool | integer | float | string => cases h

theorem time_of_decode {v : Json} {p : BlobProperties} (h : decode v = .ok p) {t : Time.Instant}
    (hTime : p.lastModified = some t) :
    ∃ text, timeOf v = some (.string text) ∧ Time.Instant.parse text = .ok t := by
  obtain ⟨members, hMembers, h⟩ := bind_eq_ok_iff.mp h
  obtain ⟨size, -, h⟩ := bind_eq_ok_iff.mp h
  obtain ⟨time, hField, h⟩ := bind_eq_ok_iff.mp h
  cases h
  cases hTime
  rcases of_fieldOr hField with ⟨v', hMember, hDecoded⟩ | hNone
  · obtain ⟨text, rfl, hParsed⟩ := of_decodeTime hDecoded
    exact ⟨text, (get?_of_recordMembers hMembers).symm.trans hMember, hParsed⟩
  · cases hNone

end BlobProperties

/-- Each of the four records is decoded from what it is encoded as, and from the array of its
fields, but for properties with a time in a long second within a minute: these are decoded with the
time in the second that follows. A time is encoded at UTC with 0, 3, 6 or 9 digits of a fraction,
and names the instant, to the nanosecond, that is named by the text it was decoded from. -/
theorem stored_forms_read_back :
    Faithful ReadOptions.decode ReadOptions.encode ReadOptions.Fits ∧
    Faithful BlobUrl.decode BlobUrl.encode (fun _ => True) ∧
    Faithful BlobItem.decode BlobItem.encode (fun _ => True) ∧
    Faithful BlobProperties.decode BlobProperties.encode BlobProperties.Fits ∧
    (∀ p : BlobProperties, p.Held →
      BlobProperties.decode p.encode = .ok p.settled ∧
      BlobProperties.decode p.encode.arrayForm = .ok p.settled ∧ (p.settled = p ↔ p.Fits)) ∧
    ∀ v p t, BlobProperties.decode v = .ok p → p.lastModified = some t →
      ∃ text, BlobProperties.timeOf v = some (.string text) ∧
        BlobProperties.timeOf p.encode = some (.string t.text) ∧
        (∀ t', Time.Names text t' ↔ t' = t) ∧ (∀ t', Time.Names t.text t' ↔ t' = t) ∧
        t.text.toList.getLast? = some 'Z' ∧
        ∃ written, Time.Says t.text.toList written ∧ written.InRange ∧ written.instant = t ∧
          written.shift = 0 ∧ written.fraction.length ∈ [0, 3, 6, 9] := by
  refine ⟨ReadOptions.faithful, BlobUrl.faithful, BlobItem.faithful, BlobProperties.faithful,
    ?_, ?_⟩
  · intro p hHeld
    obtain ⟨hObject, hArray⟩ := BlobProperties.forms_of_held hHeld
    exact ⟨hObject, hArray, BlobProperties.settled_eq_iff hHeld⟩
  intro v p t h hTime
  obtain ⟨text, hText, hParsed⟩ := BlobProperties.time_of_decode h hTime
  have hProper := Time.Instant.proper_of_parse hParsed
  refine ⟨text, hText, ?_, Time.names_iff_eq_of_parse hParsed,
    Time.names_iff_eq_of_parse (Time.Instant.parse_text hProper), ?_, t.stamp,
    Time.Instant.says_text hProper, Time.Instant.inRange_stamp hProper,
    Time.Instant.instant_stamp hProper, rfl, ?_⟩
  · rw [BlobProperties.timeOf_encode, hTime]
    rfl
  · exact Time.Instant.getLast?_text t
  · exact (Time.Instant.nanosOf_fractionDigits (Nat.mod_lt _ (by decide))).2

/-- One and a half seconds into second 30 of the epoch. -/
def withinMinute : BlobProperties := ⟨1, some ⟨30, 1500000000⟩⟩

theorem held_withinMinute : withinMinute.Held := by
  refine ⟨by decide, ?_⟩
  rintro _ ⟨⟩
  exact ⟨⟨by decide, by decide⟩, by decide⟩

/-- An hour west of UTC, half an hour before the leap day of 2024 ends: the tenth digit is lost. And
a time in a long second, which is read back as another. -/
theorem stored_forms_read_back_leap_day :
    let v : Json := .array [.integer 3, .string "2024-02-29T23:30:00.1234567899-01:00"]
    let p : BlobProperties := ⟨3, some ⟨1709253000, 123456789⟩⟩
    (BlobProperties.decode v = .ok p ∧
      BlobProperties.timeOf p.encode = some (.string "2024-03-01T00:30:00.123456789Z") ∧
      BlobProperties.decode p.encode = .ok p) ∧
    withinMinute.Held ∧
    BlobProperties.decode withinMinute.encode = .ok ⟨1, some ⟨31, 500000000⟩⟩ := by
  intro v p
  have hDecoded : BlobProperties.decode v = .ok p := rfl
  obtain ⟨-, -, -, hProperties, hHeld, -⟩ := stored_forms_read_back
  exact ⟨⟨hDecoded, rfl, (hProperties.again v p hDecoded).2⟩, held_withinMinute,
    (hHeld withinMinute held_withinMinute).1⟩

/-- Not all properties that memory holds are read back. -/
theorem not_held_reads_back :
    ¬ ∀ p : BlobProperties, p.Held → BlobProperties.decode p.encode = .ok p := by
  intro hBack
  have hDecoded : BlobProperties.decode withinMinute.encode = .ok ⟨1, some ⟨31, 500000000⟩⟩ :=
    (BlobProperties.forms_of_held held_withinMinute).1
  cases (hBack withinMinute held_withinMinute).symm.trans hDecoded

end BlobFiles
