import Mathlib.Data.List.TakeWhile

/-! # Decimal digits in a text -/
namespace BlobFiles.Text

theorem toNat_of_isDigit {c : Char} (h : c.isDigit = true) : 48 ≤ c.toNat ∧ c.toNat ≤ 57 := by
  simpa [Char.isDigit, UInt32.le_iff_toNat_le] using h

structure Digits (ds : List Char) : Prop where
  nonempty : ds ≠ []
  all : ∀ d ∈ ds, d.isDigit = true

/-- A text that does not go on with a digit. -/
def NoDigit (cs : List Char) : Prop := ∀ c ∈ cs.head?, c.isDigit = false

theorem Digits.isDigit_of_eq {ds rest cs : List Char} (h : Digits ds) {c : Char}
    (hText : ds ++ rest = c :: cs) : c.isDigit = true := by
  cases ds with
  | nil => exact absurd rfl h.nonempty
  | cons d ds =>
    cases hText
    exact h.all c List.mem_cons_self

theorem takeWhile_of_noDigit {cs : List Char} (h : NoDigit cs) :
    cs.takeWhile Char.isDigit = [] ∧ cs.dropWhile Char.isDigit = cs := by
  cases cs with
  | nil => exact ⟨rfl, rfl⟩
  | cons c cs =>
    have hOther := h c rfl
    exact ⟨List.takeWhile_cons_of_neg (by simp [hOther]),
      List.dropWhile_cons_of_neg (by simp [hOther])⟩

end BlobFiles.Text
