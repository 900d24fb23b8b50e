import BlobFiles.Settings.Basic

/-! # One setting

What is found under a key depends on the value under that key only. A text that is wanted as a text
is taken as it is.
-/
namespace BlobFiles

def Json.isText : Json → Bool
  | .string _ => true
  | _ => false

namespace Settings

variable {α : Type} {decode : Json.Decoder α} {s s' : Settings} {key : String}

/-- The value of a setting that is a text. -/
def text? (s : Settings) (key : String) : Option String :=
  match s.value? key with
  | some (.string text) => some text
  | _ => none

theorem value?_set_self (s : Settings) (key : String) (v : Json) :
    (s.set key v).value? key = some v := Json.Members.get?_insert_self key v s.values

theorem get?_congr (h : s.value? key = s'.value? key) :
    s.get? decode key = s'.get? decode key := by
  rw [get?, h]
  rfl

theorem get?_eq_ok_none_iff : s.get? decode key = .ok none ↔ s.value? key = none := by
  unfold get?
  cases s.value? key with
  | none => simp
  | some v => cases hRead : interpret decode v <;> simp [hRead]

theorem get?_eq_ok_iff_of_value {v : Json} (h : s.value? key = some v) {x : α} :
    s.get? decode key = .ok (some x) ↔ interpret decode v = .ok x := by
  unfold get?
  rw [h]
  cases hRead : interpret decode v <;> simp [hRead]

theorem get?_eq_error_of_value {v : Json} {e : Json.DecodeError} (h : s.value? key = some v)
    (hRead : interpret decode v = .error e) :
    s.get? decode key = .error (.invalidSetting key e.message) := by
  unfold get?
  simp only [h, hRead]

theorem get?_of_string {text : String} (h : s.value? key = some (.string text)) :
    s.get? Json.decodeString key = .ok (some text) :=
  (get?_eq_ok_iff_of_value h).mpr rfl

/-- A setting that is wanted as a text, and is one if it is set. -/
theorem get?_decodeString (h : ∀ v ∈ s.value? key, v.isText = true) :
    s.get? Json.decodeString key = .ok (s.text? key) := by
  unfold get? text?
  cases hValue : s.value? key with
  | none => rfl
  | some v =>
    have hText := h v hValue
    cases v with
    | string text => rfl
    | _ => cases hText

theorem get?_string_eq_ok {found : Option String} (h : s.get? Json.decodeString key = .ok found) :
    s.value? key = found.map .string := by
  unfold get? at h
  cases hValue : s.value? key with
  | none =>
    simp only [hValue] at h
    cases h
    rfl
  | some v =>
    simp only [hValue] at h
    cases v with
    | string text =>
      cases h
      rfl
    | _ => cases h

end Settings

end BlobFiles
