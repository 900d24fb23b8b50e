import BlobFiles.Proofs.Json.ScalarText
import BlobFiles.Proofs.Results
import BlobFiles.Proofs.Settings.Lookup

/-! # Settings given as text

A size, a number or a flag may be given as a text, and a text stands for the value that it is the
JSON text of. So it makes no difference whether such a setting is a value or the text of the value.
Every other text is refused under its own name, and a setting that is wanted as a text is never read
as anything else.
-/
namespace BlobFiles.Settings

open Json

/-- The types that are read from text too, by what a message calls them. -/
inductive Scalar : {α : Type} → Decoder α → String → Prop
  | size : Scalar decodeSize "usize"
  | int64 : Scalar decodeInt64 "i64"
  | flag : Scalar decodeBool "a boolean"

/-- The second settings differ from the first in some values that have become texts. -/
def Retold (s s' : Settings) : Prop :=
  ∀ key, s'.value? key = s.value? key ∨ ∃ v text, s.value? key = some v ∧ v.isText = false ∧
    s'.value? key = some (.string text) ∧ WrittenAs v text

variable {α : Type} {decode : Decoder α} {wanted : String}

theorem isText_of_exact {v : Json} (h : Exact v) : v.isText = false := by
  cases h <;> rfl

theorem of_decodeBetween {low high n : Int} {name : String} {v : Json}
    (h : decodeBetween low high name v = .ok n) : v = .integer n ∧ low ≤ n ∧ n ≤ high := by
  cases v with
  | integer m =>
    rw [decodeBetween] at h
    split at h
    · rename_i hBounds
      cases h
      exact ⟨rfl, hBounds⟩
    · cases h
  | _ => cases h

namespace Scalar

theorem decode_string (h : Scalar decode wanted) (text : String) :
    decode (.string text) = .error (.type (.string text) wanted) := by
  cases h <;> rfl

theorem exact_of_decode (h : Scalar decode wanted) {v : Json} {x : α} (hRead : decode v = .ok x) :
    Exact v := by
  cases h with
  | size =>
    unfold decodeSize decodeNat at hRead
    cases hBetween : decodeBetween 0 0xFFFFFFFFFFFFFFFF "usize" v with
    | error e =>
      rw [hBetween] at hRead
      cases hRead
    | ok n =>
      obtain ⟨rfl, hLow, hHigh⟩ := of_decodeBetween hBetween
      exact .integer ⟨by simp only [NumberText.minInteger]; omega, hHigh⟩
  | int64 =>
    obtain ⟨rfl, hLow, hHigh⟩ := of_decodeBetween hRead
    exact .integer ⟨hLow, by omega⟩
  | flag =>
    cases v with
    | bool b => exact .bool b
    | _ => cases hRead

end Scalar

/-! ## One text -/

theorem interpret_of_not_isText {v : Json} (hText : v.isText = false) :
    interpret decode v = decode v := by
  unfold interpret
  cases hRead : decode v with
  | ok x => rfl
  | error e =>
    cases v with
    | string text => cases hText
    | _ => rfl

theorem Scalar.interpret_string (h : Scalar decode wanted) (text : String) :
    interpret decode (.string text) =
      match (parse? text).map decode with
      | some (.ok x) => .ok x
      | _ => .error (.type (.string text) wanted) := by
  have hRefused := h.decode_string text
  unfold interpret
  split
  · rename_i hRead
    cases hRefused.symm.trans hRead
  · rename_i hRead
    cases hRefused.symm.trans hRead
    rfl

/-- A text is read as what it is the text of, but not through a second pair of quotes. -/
theorem Scalar.interpret_string_eq_ok_iff (h : Scalar decode wanted) {text : String} {x : α} :
    interpret decode (.string text) = .ok x ↔
      ∃ v, v.isText = false ∧ parse? text = some v ∧ interpret decode v = .ok x := by
  rw [h.interpret_string]
  constructor
  · intro hRead
    cases hParse : parse? text with
    | none =>
      rw [hParse] at hRead
      cases hRead
    | some v =>
      rw [hParse, Option.map_some] at hRead
      cases hValue : decode v with
      | error e =>
        rw [hValue] at hRead
        cases hRead
      | ok y =>
        rw [hValue] at hRead
        cases hRead
        have hText := isText_of_exact (h.exact_of_decode hValue)
        exact ⟨v, hText, rfl, (interpret_of_not_isText hText).trans hValue⟩
  · rintro ⟨v, hText, hParse, hRead⟩
    rw [interpret_of_not_isText hText] at hRead
    rw [hParse, Option.map_some, hRead]

theorem Scalar.parse?_iff_writtenAs (h : Scalar decode wanted) {v : Json} {x : α}
    (hText : v.isText = false) (hRead : interpret decode v = .ok x) (text : String) :
    parse? text = some v ↔ WrittenAs v text := by
  rw [interpret_of_not_isText hText] at hRead
  exact parse?_eq_some_iff (h.exact_of_decode hRead)

theorem Scalar.interpret_string_eq_error (h : Scalar decode wanted) {text : String}
    (hNever : ∀ x, interpret decode (.string text) ≠ .ok x) :
    interpret decode (.string text) = .error (.type (.string text) wanted) := by
  rw [h.interpret_string] at hNever ⊢
  split
  · rename_i x hFound
    exact absurd (by rw [hFound]) (hNever x)
  · rfl

variable {s s' : Settings} {key : String}

theorem get?_set_eq_ok_iff {v : Json} {x : α} :
    (s.set key v).get? decode key = .ok (some x) ↔ interpret decode v = .ok x :=
  get?_eq_ok_iff_of_value (value?_set_self s key v)

theorem get?_of_retold (h : Scalar decode wanted) (hRetold : Retold s s') {found : Option α}
    (hFound : s.get? decode key = .ok found) : s'.get? decode key = .ok found := by
  rcases hRetold key with hSame | ⟨v, text, hValue, hText, hValue', hWritten⟩
  · rwa [get?_congr hSame]
  · cases found with
    | none =>
      rw [get?_eq_ok_none_iff.mp hFound] at hValue
      cases hValue
    | some x =>
      have hRead := (get?_eq_ok_iff_of_value hValue).mp hFound
      have hParse := (h.parse?_iff_writtenAs hText hRead text).mpr hWritten
      exact (get?_eq_ok_iff_of_value hValue').mpr
        (h.interpret_string_eq_ok_iff.mpr ⟨v, hText, hParse, hRead⟩)

theorem readOptions_of_retold (hRetold : Retold s s') {options : ReadOptions}
    (h : s.readOptions = .ok options) : s'.readOptions = .ok options := by
  obtain ⟨concurrency, hConcurrency, h⟩ := bind_eq_ok_iff.mp h
  obtain ⟨chunkSize, hChunkSize, h⟩ := bind_eq_ok_iff.mp h
  obtain ⟨bufferSize, hBufferSize, h⟩ := bind_eq_ok_iff.mp h
  unfold readOptions
  rw [get?_of_retold .size hRetold hConcurrency, get?_of_retold .size hRetold hChunkSize,
    get?_of_retold .size hRetold hBufferSize]
  exact h

theorem caching_of_retold (hRetold : Retold s s') {shared : Bool} (h : s.caching = .ok shared) :
    s'.caching = .ok shared := by
  obtain ⟨found, hFound, h⟩ := bind_eq_ok_iff.mp h
  unfold caching
  rw [get?_of_retold .flag hRetold hFound]
  exact h

/-- A size, a number or a flag that is a text is the value that is read from it as JSON, which for
such a value is the text that is written for it with any white space around it; every other text is
refused by its own name. Read options and caching do not change when values become their texts, and
a text that is wanted as a text is kept. -/
theorem text_setting_reads_as_value :
    (∀ {α : Type} {decode : Decoder α} {wanted : String}, Scalar decode wanted →
      ∀ (s : Settings) (key text : String), s.value? key = some (.string text) →
        (∀ x, s.get? decode key = .ok (some x) ↔
          ∃ v, v.isText = false ∧ parse? text = some v ∧
            (s.set key v).get? decode key = .ok (some x)) ∧
        (∀ v x, v.isText = false → (s.set key v).get? decode key = .ok (some x) →
          (parse? text = some v ↔ WrittenAs v text)) ∧
        ((∀ x, s.get? decode key ≠ .ok (some x)) →
          s.get? decode key = .error
            (.invalidSetting key s!"invalid type: string {Text.quoted text}, expected {wanted}"))) ∧
    (∀ s s' : Settings, Retold s s' →
      (∀ options, s.readOptions = .ok options → s'.readOptions = .ok options) ∧
      ∀ shared, s.caching = .ok shared → s'.caching = .ok shared) ∧
    ∀ (s : Settings) (key text : String), s.value? key = some (.string text) →
      s.get? decodeString key = .ok (some text) := by
  refine ⟨?_, ?_, ?_⟩
  · intro α decode wanted h s key text hValue
    refine ⟨?_, ?_, ?_⟩
    · intro x
      rw [get?_eq_ok_iff_of_value hValue, h.interpret_string_eq_ok_iff]
      simp only [get?_set_eq_ok_iff]
    · intro v x hText hRead
      exact h.parse?_iff_writtenAs hText (get?_set_eq_ok_iff.mp hRead) text
    · intro hNever
      have hRefused : interpret decode (.string text) = .error (.type (.string text) wanted) := by
        apply h.interpret_string_eq_error
        exact fun x hRead => hNever x ((get?_eq_ok_iff_of_value hValue).mpr hRead)
      exact get?_eq_error_of_value hValue hRefused
  · intro s s' hRetold
    exact ⟨fun _ => readOptions_of_retold hRetold, fun _ => caching_of_retold hRetold⟩
  · intro s key text hValue
    exact get?_of_string hValue

def plainSettings : Settings := ⟨[(bufferSizeKey, .integer 8192), (cachingKey, .bool false)]⟩

def toldSettings : Settings :=
  ⟨[(bufferSizeKey, .string " 8192\n"), (cachingKey, .string "false")]⟩

theorem writtenAs_toldSettings : WrittenAs (.integer 8192) " 8192\n" :=
  ⟨[' '], ['\n'], by decide, by decide, by decide⟩

theorem retold_plainSettings : Retold plainSettings toldSettings := by
  intro key
  by_cases hSize : key = bufferSizeKey
  · subst hSize
    exact .inr ⟨_, _, rfl, rfl, rfl, writtenAs_toldSettings⟩
  · by_cases hFlag : key = cachingKey
    · subst hFlag
      exact .inr ⟨.bool false, _, rfl, rfl, rfl, [], [], by decide, by decide, by decide⟩
    · left
      simp [value?, toldSettings, plainSettings, Members.get?, Ne.symm hSize, Ne.symm hFlag]

theorem text_setting_reads_as_value_size :
    toldSettings.get? decodeSize bufferSizeKey = .ok (some 8192) ∧
    toldSettings.get? decodeBool bufferSizeKey = .error
      (.invalidSetting bufferSizeKey "invalid type: string \" 8192\\n\", expected a boolean") ∧
    toldSettings.readOptions = .ok ⟨5, 1024 * 1024, 8192⟩ ∧ toldSettings.caching = .ok false ∧
    toldSettings.get? decodeString cachingKey = .ok (some "false") := by
  obtain ⟨hText, hRetold, hString⟩ := text_setting_reads_as_value
  refine ⟨?_, ?_, (hRetold _ _ retold_plainSettings).1 _ rfl,
    (hRetold _ _ retold_plainSettings).2 _ rfl, hString _ _ _ rfl⟩
  · obtain ⟨hReads, hWritten, -⟩ := hText .size toldSettings bufferSizeKey _ rfl
    have hParse := (hWritten (.integer 8192) 8192 rfl rfl).mpr writtenAs_toldSettings
    exact (hReads 8192).mpr ⟨_, rfl, hParse, rfl⟩
  · refine (hText .flag toldSettings bufferSizeKey _ rfl).2.2 fun x hRead => ?_
    have hRefused : (toldSettings.get? decodeBool bufferSizeKey).toBool = false := by
      decide +kernel
    rw [hRead] at hRefused
    cases hRefused

end BlobFiles.Settings
