import BlobFiles.Json.Reader
import BlobFiles.Json.Writer
import BlobFiles.Proofs.Text.Digits
import Mathlib.Data.List.Basic

/-! # The text of an integer

Digits without a zero in front are the decimal of the number that they stand for, so an integer has
one JSON text. What follows it is left to the reader as it is, when it neither goes on with digits
nor opens a fraction or an exponent.
-/
namespace BlobFiles.Json

/-! ## Digits -/

theorem digitChar_digitValue {d : Char} (h : d.isDigit = true) :
    Nat.digitChar (digitValue d) = d ∧ digitValue d < 10 := by
  have hRange := Text.toNat_of_isDigit h
  have hValue : digitValue d = d.toNat - 48 := rfl
  refine ⟨Char.toNat_inj.mp ?_, by omega⟩
  rw [Nat.toNat_digitChar_of_lt_ten (by omega)]
  omega

/-- Digits behind a number that is not zero. -/
theorem toDigits_append {ds : List Char} (hDigits : ∀ d ∈ ds, d.isDigit = true) {n : Nat}
    (hPositive : 0 < n) :
    Nat.toDigits 10 (ds.foldl (fun n d => 10 * n + digitValue d) n) = Nat.toDigits 10 n ++ ds := by
  -- the number in front grows with every digit and stays positive, so no digit is ever dropped
  induction ds generalizing n with
  | nil => exact (List.append_nil _).symm
  | cons d ds ih =>
    obtain ⟨hChar, hTen⟩ := digitChar_digitValue (hDigits d List.mem_cons_self)
    have hOne : Nat.toDigits 10 n ++ [d] = Nat.toDigits 10 (10 * n + digitValue d) := by
      rw [← Nat.toDigits_append_toDigits (by decide) hPositive hTen,
        Nat.toDigits_of_lt_base hTen, hChar]
    rw [List.foldl_cons, ih (fun e hMem => hDigits e (List.mem_cons_of_mem d hMem)) (by omega),
      ← hOne, List.append_assoc]
    rfl

/-- Digits with no zero in front but a zero alone. -/
structure Numeral (ds : List Char) : Prop where
  nonempty : ds ≠ []
  digits : ∀ d ∈ ds, d.isDigit = true
  lead : ds.head? = some '0' → ds.length ≤ 1

theorem toDigits_naturalOfDigits {ds : List Char} (h : Numeral ds) :
    Nat.toDigits 10 (naturalOfDigits ds) = ds := by
  obtain ⟨hNonempty, hDigits, hLead⟩ := h
  cases ds with
  | nil => exact absurd rfl hNonempty
  | cons d ds =>
    obtain ⟨hChar, hTen⟩ := digitChar_digitValue (hDigits d List.mem_cons_self)
    have hFold : naturalOfDigits (d :: ds) =
        ds.foldl (fun n d => 10 * n + digitValue d) (digitValue d) := by
      rw [naturalOfDigits, List.foldl_cons, Nat.mul_zero, Nat.zero_add]
    rw [hFold]
    by_cases hZero : digitValue d = 0
    · rw [hZero] at hChar
      have hShort := hLead (by rw [← hChar]; rfl)
      have hAlone : ds = [] := by simpa using hShort
      rw [hAlone, List.foldl_nil, hZero, ← hChar]
      rfl
    · rw [toDigits_append (fun e hMem => hDigits e (List.mem_cons_of_mem d hMem)) (by omega),
        Nat.toDigits_of_lt_base hTen, hChar]
      rfl

theorem head?_toDigits {n : Nat} (h : 0 < n) : (Nat.toDigits 10 n).head? ≠ some '0' := by
  induction n using Nat.strongRecOn with
  | ind n ih =>
    rw [Nat.toDigits_eq_if (by decide)]
    split
    · rename_i hTen
      simp only [List.head?_cons, ne_eq, Option.some.injEq, Nat.digitChar_eq_zero]
      omega
    · rename_i hTen
      rw [List.head?_append_of_ne_nil _ Nat.toDigits_ne_nil]
      exact ih (n / 10) (by omega) (by omega)

theorem numeral_toDigits (n : Nat) : Numeral (Nat.toDigits 10 n) := by
  refine ⟨Nat.toDigits_ne_nil, fun d hMem => ?_, fun hHead => ?_⟩
  · exact Nat.isDigit_of_mem_toDigits (by decide) (by decide) hMem
  · by_cases hZero : n = 0
    · rw [hZero, Nat.toDigits_zero]
      exact Nat.le_refl 1
    · exact absurd hHead (head?_toDigits (by omega))

theorem naturalOfDigits_toDigits (n : Nat) : naturalOfDigits (Nat.toDigits 10 n) = n :=
  Nat.ofDigitChars_ten_toDigits

/-! ## Numbers without fraction and exponent -/

/-- Text that does not continue a number. -/
def Ends (rest : List Char) : Prop :=
  ∀ c ∈ rest.head?, c.isDigit = false ∧ c ≠ '.' ∧ c ≠ 'e' ∧ c ≠ 'E'

theorem digits?_append {ds rest : List Char} (hNonempty : ds ≠ [])
    (hDigits : ∀ d ∈ ds, d.isDigit = true) (hRest : Ends rest) :
    digits? (ds ++ rest) = some (ds, rest) := by
  have hStop := Text.takeWhile_of_noDigit fun c hc => (hRest c hc).1
  rw [digits?, List.takeWhile_append_of_pos hDigits, List.dropWhile_append_of_pos hDigits,
    hStop.1, hStop.2, List.append_nil]
  cases ds with
  | nil => exact absurd rfl hNonempty
  | cons d ds => rfl

theorem of_digits? {cs ds rest : List Char} (h : digits? cs = some (ds, rest)) :
    cs = ds ++ rest ∧ ds ≠ [] ∧ ∀ d ∈ ds, d.isDigit = true := by
  unfold digits? at h
  split at h
  · cases h
  · rename_i hSome
    cases h
    exact ⟨List.takeWhile_append_dropWhile.symm, hSome, fun d hMem => List.mem_takeWhile_imp hMem⟩

theorem whole?_append {ds rest : List Char} (h : Numeral ds) (hRest : Ends rest) :
    whole? (ds ++ rest) = some (ds, rest) := by
  rw [whole?, digits?_append h.nonempty h.digits hRest]
  change (if (ds.head? = some '0' && 1 < ds.length) = true then none else some (ds, rest)) = _
  rw [if_neg]
  intro hZero
  rw [Bool.and_eq_true, decide_eq_true_eq, decide_eq_true_eq] at hZero
  have hShort := h.lead hZero.1
  omega

theorem of_whole? {cs ds rest : List Char} (h : whole? cs = some (ds, rest)) :
    cs = ds ++ rest ∧ Numeral ds := by
  obtain ⟨⟨ds', rest'⟩, hDigits, h⟩ := Option.bind_eq_some_iff.mp h
  obtain ⟨hText, hNonempty, hAll⟩ := of_digits? hDigits
  dsimp only at h
  split at h
  · cases h
  · rename_i hLead
    cases h
    refine ⟨hText, hNonempty, hAll, fun hHead => ?_⟩
    simp only [hHead, Bool.and_eq_true, decide_eq_true_eq, true_and] at hLead
    omega

/-- A minus for a negative number. -/
def minus (negative : Bool) : List Char := if negative then ['-'] else []

theorem splitSign_minus {cs : List Char} (h : cs.head? ≠ some '-') (negative : Bool) :
    splitSign (minus negative ++ cs) = (negative, cs) := by
  cases negative with
  | true => rfl
  | false =>
    change splitSign cs = (false, cs)
    unfold splitSign
    split
    · exact absurd rfl h
    · rfl

theorem minus_splitSign (cs : List Char) : minus (splitSign cs).1 ++ (splitSign cs).2 = cs := by
  unfold splitSign
  split <;> rfl

theorem fractionPart?_of_ends {rest : List Char} (h : Ends rest) :
    fractionPart? rest = some (none, rest) := by
  unfold fractionPart?
  split
  · exact absurd rfl (h '.' rfl).2.1
  · rfl

theorem exponentPart?_of_ends {rest : List Char} (h : Ends rest) :
    exponentPart? rest = some (none, rest) := by
  unfold exponentPart?
  split
  · exact absurd rfl (h 'e' rfl).2.2.1
  · exact absurd rfl (h 'E' rfl).2.2.2
  · rfl

theorem of_fractionPart? {cs rest : List Char} (h : fractionPart? cs = some (none, rest)) :
    rest = cs := by
  unfold fractionPart? at h
  split at h
  · obtain ⟨r, -, hSome⟩ := Option.map_eq_some_iff.mp h
    cases hSome
  · cases h
    rfl

theorem of_exponentPart? {cs rest : List Char} (h : exponentPart? cs = some (none, rest)) :
    rest = cs := by
  unfold exponentPart? at h
  split at h
  · obtain ⟨r, -, hSome⟩ := Option.map_eq_some_iff.mp h
    cases hSome
  · obtain ⟨r, -, hSome⟩ := Option.map_eq_some_iff.mp h
    cases hSome
  · cases h
    rfl

theorem Numeral.head?_ne_minus {ds : List Char} (h : Numeral ds) (rest : List Char) :
    (ds ++ rest).head? ≠ some '-' := by
  cases ds with
  | nil => exact absurd rfl h.nonempty
  | cons d ds =>
    intro hHead
    cases hHead
    exact absurd (h.digits '-' List.mem_cons_self) (by decide)

theorem numberText?_append {ds rest : List Char} (h : Numeral ds) (hRest : Ends rest)
    (negative : Bool) :
    numberText? (minus negative ++ (ds ++ rest)) = some (⟨negative, ds, none, none⟩, rest) := by
  simp only [numberText?, splitSign_minus (h.head?_ne_minus rest), whole?_append h hRest,
    fractionPart?_of_ends hRest, exponentPart?_of_ends hRest, Option.bind_eq_bind, Option.bind_some]

theorem of_numberText? {cs rest : List Char} {t : NumberText} (h : numberText? cs = some (t, rest))
    (hFraction : t.fraction = none) (hExponent : t.exponent = none) :
    cs = minus t.negative ++ (t.whole ++ rest) ∧ Numeral t.whole := by
  obtain ⟨⟨whole, afterWhole⟩, hWhole, h⟩ := Option.bind_eq_some_iff.mp h
  obtain ⟨⟨fraction, afterFraction⟩, hPoint, h⟩ := Option.bind_eq_some_iff.mp h
  obtain ⟨⟨exponent, afterExponent⟩, hPower, h⟩ := Option.bind_eq_some_iff.mp h
  cases h
  cases hFraction
  cases hExponent
  obtain ⟨hText, hNumeral⟩ := of_whole? hWhole
  obtain rfl := of_fractionPart? hPoint
  obtain rfl := of_exponentPart? hPower
  refine ⟨?_, hNumeral⟩
  change (splitSign cs).2 = whole ++ rest at hText
  change cs = minus (splitSign cs).1 ++ (whole ++ rest)
  rw [← hText, minus_splitSign]

/-! ## Integers -/

/-- The integers that a number without fraction and exponent is read as. -/
def InWord (n : Int) : Prop := NumberText.minInteger ≤ n ∧ n ≤ 0xFFFFFFFFFFFFFFFF

theorem toList_toString (n : Int) :
    (toString n).toList = minus (n < 0) ++ Nat.toDigits 10 n.natAbs := by
  rw [Int.toString_eq_repr, Int.repr_eq_if]
  by_cases hNegative : n < 0
  · have hAbs : (-n).toNat = n.natAbs := by omega
    rw [if_neg (by omega), String.toList_append, Nat.toList_repr, hAbs, minus,
      if_pos (decide_eq_true hNegative)]
    rfl
  · have hAbs : n.toNat = n.natAbs := by omega
    rw [if_pos (by omega), Nat.toList_repr, hAbs, minus, if_neg (by simpa using hNegative)]
    rfl

theorem integer?_eq {negative : Bool} {whole : List Char} :
    NumberText.integer? ⟨negative, whole, none, none⟩ =
      if negative then
        if 0 < naturalOfDigits whole ∧
            NumberText.minInteger ≤ -(naturalOfDigits whole : Int) then
          some (-(naturalOfDigits whole : Int))
        else none
      else if naturalOfDigits whole ≤ 0xFFFFFFFFFFFFFFFF then some (naturalOfDigits whole : Int)
      else none := rfl

theorem number?_append {n : Int} (hWord : InWord n) {rest : List Char} (hRest : Ends rest) :
    number? ((toString n).toList ++ rest) = some (integer n, rest) := by
  have hInteger : NumberText.integer? ⟨n < 0, Nat.toDigits 10 n.natAbs, none, none⟩ = some n := by
    rw [integer?_eq, naturalOfDigits_toDigits]
    obtain ⟨hLow, hHigh⟩ := hWord
    by_cases hNegative : n < 0
    · have hAbs : -(n.natAbs : Int) = n := by omega
      rw [if_pos (decide_eq_true hNegative), hAbs, if_pos ⟨by omega, hLow⟩]
    · have hAbs : (n.natAbs : Int) = n := by omega
      rw [if_neg (by simpa using hNegative), if_pos (by omega), hAbs]
  rw [toList_toString, List.append_assoc, number?, numberText?_append (numeral_toDigits _) hRest]
  simp only [Option.bind_eq_bind, Option.bind_some, NumberText.value?, hInteger]

/-- An integer is read off its own text only. -/
theorem of_integer? {t : NumberText} {n : Int} (h : t.integer? = some n) :
    t.fraction = none ∧ t.exponent = none ∧ InWord n ∧
      (Numeral t.whole → (toString n).toList = minus t.negative ++ t.whole) := by
  obtain ⟨negative, whole, fraction, exponent⟩ := t
  cases fraction with
  | some fraction => cases h
  | none =>
    cases exponent with
    | some exponent => cases h
    | none =>
      refine ⟨rfl, rfl, ?_⟩
      rw [integer?_eq] at h
      have hText : ∀ m : Nat, naturalOfDigits whole = m → Numeral whole →
          Nat.toDigits 10 m = whole := by
        rintro m rfl hNumeral
        exact toDigits_naturalOfDigits hNumeral
      generalize naturalOfDigits whole = m at h hText
      cases negative with
      | true =>
        -- a minus in front of zero makes no integer, so the sign is that of the number
        obtain ⟨⟨hPositive, hLow⟩, hSome⟩ := Option.ite_none_right_eq_some.mp h
        cases hSome
        refine ⟨⟨hLow, by omega⟩, fun hNumeral => ?_⟩
        rw [toList_toString, Int.natAbs_neg, Int.natAbs_natCast, hText m rfl hNumeral,
          decide_eq_true (by omega)]
      | false =>
        obtain ⟨hHigh, hSome⟩ := Option.ite_none_right_eq_some.mp h
        cases hSome
        refine ⟨⟨by simp only [NumberText.minInteger]; omega, by omega⟩, fun hNumeral => ?_⟩
        rw [toList_toString, Int.natAbs_natCast, hText m rfl hNumeral, decide_eq_false (by omega)]

theorem of_number? {cs rest : List Char} {n : Int} (h : number? cs = some (integer n, rest)) :
    cs = (toString n).toList ++ rest ∧ InWord n := by
  obtain ⟨⟨t, rest'⟩, hText, h⟩ := Option.bind_eq_some_iff.mp h
  obtain ⟨v, hValue, h⟩ := Option.bind_eq_some_iff.mp h
  cases h
  unfold NumberText.value? at hValue
  split at hValue
  · rename_i m hInteger
    cases hValue
    obtain ⟨hFraction, hExponent, hWord, hDigits⟩ := of_integer? hInteger
    obtain ⟨hSplit, hNumeral⟩ := of_numberText? hText hFraction hExponent
    refine ⟨?_, hWord⟩
    rw [hDigits hNumeral, hSplit, List.append_assoc]
  · obtain ⟨x, -, hFloat⟩ := Option.map_eq_some_iff.mp hValue
    cases hFloat

end BlobFiles.Json
