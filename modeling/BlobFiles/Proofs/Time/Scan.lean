import BlobFiles.Time.Rfc3339
import BlobFiles.Proofs.Results
import BlobFiles.Proofs.Text.Digits
import Mathlib.Data.Nat.Digits.Defs

/-! # What the scanners of a timestamp take

For every part of a timestamp there is a relation between its text and its value that does not
mention the scanner. A scanner takes a text of the relation off the front and nothing else, and it
does take it, when what follows does not go on with digits.
-/
namespace BlobFiles.Time

open Text (Digits NoDigit)

/-- The scanner takes texts of the relation `Says`, and takes them in front of all that `Before`
holds of. -/
structure Scans {α : Type} (scan : Scan α) (Says : List Char → α → Prop)
    (Before : List Char → Prop) : Prop where
  sound : ∀ {cs rest : List Char} {a : α}, scan cs = .ok (a, rest) →
    ∃ part, cs = part ++ rest ∧ Says part a
  complete : ∀ {part rest : List Char} {a : α}, Says part a → Before rest →
    scan (part ++ rest) = .ok (a, rest)

/-! ## White space -/

def Blanks (cs : List Char) : Prop := ∀ c ∈ cs, Text.isBlank c = true

theorem blanks_nil : Blanks [] := by
  intro c hMem
  cases hMem

/-- A text that does not begin with white space. -/
def NoBlank (cs : List Char) : Prop := ∀ c ∈ cs.head?, Text.isBlank c = false

theorem noBlank_cons {c : Char} {cs : List Char} (h : Text.isBlank c = false) :
    NoBlank (c :: cs) := by
  intro d hd
  cases hd
  exact h

theorem exists_blanks (cs : List Char) : ∃ bs, Blanks bs ∧ cs = bs ++ Text.trimStart cs :=
  ⟨cs.takeWhile Text.isBlank, fun _ hMem => List.mem_takeWhile_imp hMem,
    List.takeWhile_append_dropWhile.symm⟩

theorem trimStart_of_noBlank {cs : List Char} (h : NoBlank cs) : Text.trimStart cs = cs := by
  cases cs with
  | nil => rfl
  | cons c cs =>
    have hOther := h c rfl
    exact List.dropWhile_cons_of_neg (by simp [hOther])

theorem trimStart_append {bs cs : List Char} (hBlanks : Blanks bs) (hStart : NoBlank cs) :
    Text.trimStart (bs ++ cs) = cs := by
  rw [Text.trimStart, List.dropWhile_append_of_pos hBlanks]
  exact trimStart_of_noBlank hStart

theorem isBlank_of_isDigit {c : Char} (h : c.isDigit = true) : Text.isBlank c = false := by
  have hRange := Text.toNat_of_isDigit h
  simp only [Text.isBlank, Bool.or_eq_false_iff, Bool.and_eq_false_iff, decide_eq_false_iff_not]
  omega

/-! ## Digits -/

theorem noBlank_of_digits {ds : List Char} (h : Digits ds) (rest : List Char) :
    NoBlank (ds ++ rest) := by
  cases ds with
  | nil => exact absurd rfl h.nonempty
  | cons d ds =>
    intro c hc
    cases hc
    exact isBlank_of_isDigit (h.all d List.mem_cons_self)

theorem digits_append {max : Nat} {ds rest : List Char} (hDigits : Digits ds)
    (hLength : ds.length ≤ max) (hRest : ds.length = max ∨ NoDigit rest) :
    digits max (ds ++ rest) = .ok (ds, rest) := by
  have hTaken : ((ds ++ rest).take max).takeWhile Char.isDigit = ds := by
    have hStop : (rest.take (max - ds.length)).takeWhile Char.isDigit = [] := by
      rcases hRest with hFull | hEnd
      · rw [hFull, Nat.sub_self]
        rfl
      · have hShort : NoDigit (rest.take (max - ds.length)) := by
          intro c hc
          rw [List.head?_take] at hc
          split at hc
          · cases hc
          · exact hEnd c hc
        exact (Text.takeWhile_of_noDigit hShort).1
    rw [List.take_append, List.take_of_length_le hLength,
      List.takeWhile_append_of_pos hDigits.all, hStop, List.append_nil]
  cases ds with
  | nil => exact absurd rfl hDigits.nonempty
  | cons d ds =>
    rw [List.cons_append] at hTaken ⊢
    simp only [digits, hDigits.all d List.mem_cons_self, if_true, hTaken]
    rw [← List.cons_append, List.drop_left]

/-- The first `n` letters, up to the first that is no digit: either all of them are digits or what
is behind does not go on with one. -/
theorem exists_takeWhile_take (n : Nat) (cs : List Char) :
    ∃ rest, cs = (cs.take n).takeWhile Char.isDigit ++ rest ∧
      (((cs.take n).takeWhile Char.isDigit).length = n ∨ NoDigit rest) := by
  induction n generalizing cs with
  | zero => exact ⟨cs, rfl, .inl rfl⟩
  | succ n ih =>
    cases cs with
    | nil => exact ⟨[], rfl, .inr fun c hc => by cases hc⟩
    | cons c cs =>
      rw [List.take_succ_cons]
      by_cases hDigit : c.isDigit = true
      · obtain ⟨rest, hSplit, hEnd⟩ := ih cs
        rw [List.takeWhile_cons_of_pos hDigit]
        refine ⟨rest, congrArg (c :: ·) hSplit, ?_⟩
        rwa [List.length_cons, Nat.add_right_cancel_iff]
      · rw [List.takeWhile_cons_of_neg hDigit]
        refine ⟨c :: cs, rfl, .inr ?_⟩
        intro d hd
        cases hd
        exact Bool.eq_false_iff.mpr hDigit

theorem of_digits {max : Nat} {cs ds rest : List Char} (hMax : cs ≠ [] → 0 < max)
    (h : digits max cs = .ok (ds, rest)) :
    cs = ds ++ rest ∧ Digits ds ∧ ds.length ≤ max ∧ (ds.length = max ∨ NoDigit rest) := by
  cases cs with
  | nil => cases h
  | cons c cs =>
    simp only [digits] at h
    split at h
    · rename_i hDigit
      obtain ⟨rest', hSplit, hEnd⟩ := exists_takeWhile_take max (c :: cs)
      have hRest := (congrArg (List.drop _) hSplit).trans List.drop_left
      rw [hRest] at h
      cases h
      refine ⟨hSplit, ⟨?_, fun d hMem => List.mem_takeWhile_imp hMem⟩, ?_, hEnd⟩
      · obtain ⟨n, rfl⟩ := Nat.exists_eq_succ_of_ne_zero
          (Nat.pos_iff_ne_zero.mp (hMax (List.cons_ne_nil c cs)))
        rw [List.take_succ_cons, List.takeWhile_cons_of_pos hDigit]
        exact List.cons_ne_nil _ _
      · exact (List.takeWhile_prefix _).length_le.trans (List.length_take_le _ _)
    · cases h

/-! ## Numbers of a clock and of a date -/

/-- A number in one or two digits, behind white space. -/
inductive SaysNumber (low high : Nat) : List Char → Nat → Prop
  | mk {bs ds : List Char} (hBlanks : Blanks bs) (hDigits : Digits ds) (hLength : ds.length ≤ 2)
      (hLow : low ≤ digitsValue ds) (hHigh : digitsValue ds ≤ high) :
      SaysNumber low high (bs ++ ds) (digitsValue ds)

theorem SaysNumber.alone {low high : Nat} {ds : List Char} (hDigits : Digits ds)
    (hLength : ds.length ≤ 2) (hLow : low ≤ digitsValue ds) (hHigh : digitsValue ds ≤ high) :
    SaysNumber low high ds (digitsValue ds) := .mk blanks_nil hDigits hLength hLow hHigh

theorem field_scans (low high : Nat) : Scans (field low high) (SaysNumber low high) NoDigit where
  sound := by
    intro cs rest n h
    obtain ⟨bs, hBlanks, hText⟩ := exists_blanks cs
    obtain ⟨⟨ds, rest'⟩, hTaken, h⟩ := bind_eq_ok_iff.mp h
    obtain ⟨hSplit, hDigits, hLength, -⟩ := of_digits (fun _ => Nat.zero_lt_two) hTaken
    simp only at h
    split at h
    · rename_i hRange
      cases h
      refine ⟨bs ++ ds, ?_, .mk hBlanks hDigits hLength hRange.1 hRange.2⟩
      rw [hText, hSplit, List.append_assoc]
    · cases h
  complete := by
    rintro _ rest _ ⟨hBlanks, hDigits, hLength, hLow, hHigh⟩ hRest
    rw [field, List.append_assoc, trimStart_append hBlanks (noBlank_of_digits hDigits rest),
      digits_append hDigits hLength (.inr hRest), ok_bind]
    exact if_pos ⟨hLow, hHigh⟩

/-- A sign of punctuation, behind white space. -/
inductive SaysMark (c : Char) : List Char → Unit → Prop
  | mk {bs : List Char} (hBlanks : Blanks bs) : SaysMark c (bs ++ [c]) ()

theorem SaysMark.alone (c : Char) : SaysMark c [c] () := .mk blanks_nil

theorem separator_scans {c : Char} (hMark : Text.isBlank c = false) :
    Scans (separator c) (SaysMark c) fun _ => True where
  sound := by
    intro cs rest _ h
    obtain ⟨bs, hBlanks, hText⟩ := exists_blanks cs
    unfold separator at h
    generalize Text.trimStart cs = cs' at h hText
    unfold literal at h
    split at h
    · cases h
    · split at h
      · rename_i hSame
        cases h
        refine ⟨bs ++ [c], ?_, .mk hBlanks⟩
        rw [hText, hSame, List.append_assoc]
        rfl
      · cases h
  complete := by
    rintro _ rest _ ⟨hBlanks⟩ -
    rw [separator, List.append_assoc, List.singleton_append,
      trimStart_append hBlanks (noBlank_cons hMark)]
    exact if_pos rfl

/-- A year of four digits at most, or of any number of digits behind a sign. -/
inductive SaysYear : List Char → Int → Prop
  | plain {bs ds : List Char} (hBlanks : Blanks bs) (hDigits : Digits ds)
      (hLength : ds.length ≤ 4) :
      SaysYear (bs ++ ds) (digitsValue ds)
  | signed {bs ds : List Char} {mark : Char} {sign : Int}
      (hSign : mark = '+' ∧ sign = 1 ∨ mark = '-' ∧ sign = -1) (hBlanks : Blanks bs)
      (hDigits : Digits ds) (hLow : -0x80000000 ≤ sign * digitsValue ds)
      (hHigh : sign * digitsValue ds ≤ 0x7FFFFFFF) :
      SaysYear (bs ++ mark :: ds) (sign * digitsValue ds)

theorem SaysYear.plain_alone {ds : List Char} (hDigits : Digits ds) (hLength : ds.length ≤ 4) :
    SaysYear ds (digitsValue ds) := .plain blanks_nil hDigits hLength

theorem SaysYear.signed_alone {ds : List Char} {mark : Char} {sign : Int}
    (hSign : mark = '+' ∧ sign = 1 ∨ mark = '-' ∧ sign = -1) (hDigits : Digits ds)
    (hLow : -0x80000000 ≤ sign * digitsValue ds) (hHigh : sign * digitsValue ds ≤ 0x7FFFFFFF) :
    SaysYear (mark :: ds) (sign * digitsValue ds) :=
  .signed hSign blanks_nil hDigits hLow hHigh

theorem signed_scans (sign : Int) :
    Scans (yearField.signed sign)
      (fun part n => Digits part ∧ n = sign * digitsValue part ∧ -0x80000000 ≤ n ∧ n ≤ 0x7FFFFFFF)
      NoDigit where
  sound := by
    intro cs rest n h
    obtain ⟨⟨ds, rest'⟩, hTaken, h⟩ := bind_eq_ok_iff.mp h
    obtain ⟨hSplit, hDigits, -, -⟩ := of_digits List.length_pos_iff.mpr hTaken
    simp only at h
    split at h
    · rename_i hRange
      cases h
      exact ⟨ds, hSplit, hDigits, rfl, hRange⟩
    · cases h
  complete := by
    rintro part rest n ⟨hDigits, rfl, hRange⟩ hRest
    have hLength : part.length ≤ (part ++ rest).length := by
      rw [List.length_append]
      omega
    rw [yearField.signed, digits_append hDigits hLength (.inr hRest), ok_bind]
    exact if_pos hRange

theorem yearField_scans : Scans yearField SaysYear NoDigit where
  sound := by
    intro cs rest n h
    obtain ⟨bs, hBlanks, hText⟩ := exists_blanks cs
    unfold yearField at h
    split at h
    · rename_i cs' hMark
      obtain ⟨ds, hSplit, hDigits, rfl, hRange⟩ := (signed_scans (-1)).sound h
      refine ⟨bs ++ '-' :: ds, ?_, .signed (.inr ⟨rfl, rfl⟩) hBlanks hDigits hRange.1 hRange.2⟩
      rw [hText, hMark, hSplit, List.append_assoc]
      rfl
    · rename_i cs' hMark
      obtain ⟨ds, hSplit, hDigits, rfl, hRange⟩ := (signed_scans 1).sound h
      refine ⟨bs ++ '+' :: ds, ?_, .signed (.inl ⟨rfl, rfl⟩) hBlanks hDigits hRange.1 hRange.2⟩
      rw [hText, hMark, hSplit, List.append_assoc]
      rfl
    · cases hTaken : digits 4 (Text.trimStart cs) with
      | error fault =>
        rw [hTaken] at h
        cases h
      | ok taken =>
        rw [hTaken] at h
        cases h
        obtain ⟨hSplit, hDigits, hLength, -⟩ := of_digits (fun _ => Nat.zero_lt_succ 3) hTaken
        refine ⟨bs ++ taken.1, ?_, .plain hBlanks hDigits hLength⟩
        rw [hText, hSplit, List.append_assoc]
  complete := by
    rintro _ rest _ (⟨hBlanks, hDigits, hLength⟩ | ⟨hSign, hBlanks, hDigits, hLow, hHigh⟩) hRest
    · rw [yearField, List.append_assoc, trimStart_append hBlanks (noBlank_of_digits hDigits rest)]
      split
      · rename_i hMark
        exact absurd (hDigits.isDigit_of_eq hMark) (by decide)
      · rename_i hMark
        exact absurd (hDigits.isDigit_of_eq hMark) (by decide)
      · rw [digits_append hDigits hLength (.inr hRest)]
        rfl
    · rw [yearField, List.append_assoc, List.cons_append]
      rcases hSign with ⟨rfl, rfl⟩ | ⟨rfl, rfl⟩
      · rw [trimStart_append hBlanks (noBlank_cons (by decide))]
        exact (signed_scans 1).complete ⟨hDigits, rfl, hLow, hHigh⟩ hRest
      · rw [trimStart_append hBlanks (noBlank_cons (by decide))]
        exact (signed_scans (-1)).complete ⟨hDigits, rfl, hLow, hHigh⟩ hRest

/-! ## Fractions -/

/-- Nanoseconds in a fraction of a second, without what is less than one. -/
def nanosOf (ds : List Char) : Nat := digitsValue ds * 10 ^ 9 / 10 ^ ds.length

theorem digitsValue_append (ds more : List Char) :
    digitsValue (ds ++ more) = 10 ^ more.length * digitsValue ds + digitsValue more :=
  (Nat.ofDigitChars_append 0).trans Nat.ofDigitChars_eq_ofDigitChars_zero

theorem digitsValue_lt {ds : List Char} (h : ∀ d ∈ ds, d.isDigit = true) :
    digitsValue ds < 10 ^ ds.length := by
  induction ds with
  | nil => decide
  | cons d ds ih =>
    have hLess := ih fun e hMem => h e (List.mem_cons_of_mem d hMem)
    have hRange := Text.toNat_of_isDigit (h d List.mem_cons_self)
    have hDigit : digitsValue [d] ≤ 9 := by
      change 10 * 0 + (d.toNat - 48) ≤ 9
      omega
    have hFront := Nat.mul_le_mul_left (10 ^ ds.length) hDigit
    rw [← List.singleton_append, digitsValue_append, List.length_append, List.length_singleton,
      Nat.add_comm 1, Nat.pow_succ]
    omega

theorem nanosOf_of_short {ds : List Char} (h : ds.length ≤ 9) :
    nanosOf ds = digitsValue ds * 10 ^ (9 - ds.length) := by
  have hPower : 10 ^ 9 = 10 ^ (9 - ds.length) * 10 ^ ds.length := by
    rw [← Nat.pow_add, Nat.sub_add_cancel h]
  rw [nanosOf, hPower, ← Nat.mul_assoc]
  exact Nat.mul_div_cancel _ (Nat.pow_pos (by decide))

theorem nanosOf_append {ds more : List Char} (h : ds.length = 9)
    (hMore : ∀ d ∈ more, d.isDigit = true) : nanosOf (ds ++ more) = nanosOf ds := by
  have hLess := digitsValue_lt hMore
  have hPositive : 0 < 10 ^ more.length := Nat.pow_pos (by decide)
  rw [nanosOf_of_short (Nat.le_of_eq h), h, nanosOf, List.length_append, h, digitsValue_append,
    Nat.pow_add, Nat.mul_comm _ (10 ^ 9), Nat.mul_div_mul_left _ _ (by decide),
    Nat.mul_add_div hPositive, Nat.div_eq_of_lt hLess, Nat.add_zero, Nat.sub_self, Nat.pow_zero,
    Nat.mul_one]

/-- A point and digits, or nothing. -/
inductive SaysFraction : List Char → List Char → Prop
  | none : SaysFraction [] []
  | some {ds : List Char} (hDigits : Digits ds) : SaysFraction ('.' :: ds) ds

/-- A text that opens no fraction and goes on with no digit. -/
def NoFraction (cs : List Char) : Prop := NoDigit cs ∧ cs.head? ≠ some '.'

theorem fraction_scans :
    Scans fraction (fun part nanos => ∃ ds, SaysFraction part ds ∧ nanos = nanosOf ds)
      NoFraction where
  sound := by
    intro cs rest nanos h
    unfold fraction at h
    split at h
    · rename_i cs'
      obtain ⟨⟨ds, behind⟩, hTaken, h⟩ := bind_eq_ok_iff.mp h
      obtain ⟨hSplit, hDigits, hLength, hEnd⟩ := of_digits (fun _ => by decide) hTaken
      cases h
      have hMore : ∀ d ∈ behind.takeWhile Char.isDigit, d.isDigit = true :=
        fun d hMem => List.mem_takeWhile_imp hMem
      refine ⟨'.' :: (ds ++ behind.takeWhile Char.isDigit), ?_, _, .some ⟨?_, ?_⟩, ?_⟩
      · rw [hSplit, List.cons_append, List.append_assoc, List.takeWhile_append_dropWhile]
      · exact List.append_ne_nil_of_left_ne_nil hDigits.nonempty _
      · intro d hMem
        exact (List.mem_append.mp hMem).elim (hDigits.all d) (hMore d)
      · rcases hEnd with hNine | hNone
        · rw [nanosOf_append hNine hMore, nanosOf_of_short hLength]
          rfl
        · rw [(Text.takeWhile_of_noDigit hNone).1, List.append_nil, nanosOf_of_short hLength]
          rfl
    · cases h
      exact ⟨[], rfl, [], .none, rfl⟩
  complete := by
    rintro _ rest _ ⟨ds, hSays, rfl⟩ ⟨hRest, hPoint⟩
    have hLeft : rest.dropWhile Char.isDigit = rest := (Text.takeWhile_of_noDigit hRest).2
    cases hSays with
    | none =>
      rw [List.nil_append]
      unfold fraction
      split
      · exact absurd rfl hPoint
      · rfl
    | some hDigits =>
      rw [List.cons_append, fraction]
      by_cases hShort : ds.length ≤ 9
      · rw [digits_append hDigits hShort (.inr hRest), ok_bind, nanosOf_of_short hShort]
        simp only [hLeft]
        rfl
      · -- the digits behind the ninth are passed over
        have hNine : (ds.take 9).length = 9 := by
          rw [List.length_take]
          omega
        have hSplit := List.take_append_drop 9 ds
        have hFront : Digits (ds.take 9) := by
          refine ⟨?_, fun d hMem => hDigits.all d (List.mem_of_mem_take hMem)⟩
          intro hNone
          rw [hNone] at hNine
          cases hNine
        have hMore : ∀ d ∈ ds.drop 9, d.isDigit = true :=
          fun d hMem => hDigits.all d (List.mem_of_mem_drop hMem)
        rw [← hSplit, List.append_assoc, digits_append hFront (Nat.le_of_eq hNine) (.inl hNine),
          ok_bind, nanosOf_append hNine hMore, nanosOf_of_short (Nat.le_of_eq hNine)]
        simp only [List.dropWhile_append_of_pos hMore, hLeft]
        rfl

/-! ## Offsets -/

/-- Hours and minutes of an offset, each in two digits. -/
theorem twoDigits_scans (high : Char) :
    Scans (twoDigits high)
      (fun part n => ∃ a b, part = [a, b] ∧ a.isDigit = true ∧ b.isDigit = true ∧ a ≤ high ∧
        n = digitsValue [a, b])
      fun _ => True where
  sound := by
    intro cs rest n h
    unfold twoDigits at h
    split at h
    · rename_i a b rest'
      split at h
      · rename_i hDigits
        rw [Bool.and_eq_true] at hDigits
        split at h
        · rename_i hHigh
          cases h
          exact ⟨[a, b], rfl, a, b, rfl, hDigits.1, hDigits.2, hHigh, rfl⟩
        · cases h
      · cases h
    · split at h <;> cases h
    · cases h
  complete := by
    rintro _ rest _ ⟨a, b, rfl, hFirst, hSecond, hHigh, rfl⟩ -
    simp only [twoDigits, List.cons_append, List.nil_append, hFirst, hSecond, Bool.and_self,
      if_true, if_pos hHigh]

/-- Seconds east of UTC. -/
inductive SaysZone : List Char → Int → Prop
  | utc {part : List Char} (h : part.map Char.toUpper = ['U', 'T', 'C']) : SaysZone part 0
  | zulu {c : Char} (h : c = 'Z' ∨ c = 'z') : SaysZone [c] 0
  | shifted {mark h₁ h₂ m₁ m₂ : Char} {sign : Int} {gap : List Char}
      (hSign : mark = '+' ∧ sign = 1 ∨ (mark = '-' ∨ mark = '−') ∧ sign = -1)
      (hHours : h₁.isDigit = true ∧ h₂.isDigit = true)
      (hGap : ∀ c ∈ gap, c = ':' ∨ Text.isBlank c = true)
      (hMinutes : m₁.isDigit = true ∧ m₂.isDigit = true ∧ m₁ ≤ '5') :
      SaysZone (mark :: h₁ :: h₂ :: (gap ++ [m₁, m₂]))
        (sign * (digitsValue [h₁, h₂] * 3600 + digitsValue [m₁, m₂] * 60))

theorem le_nine_of_isDigit {c : Char} (h : c.isDigit = true) : c ≤ '9' := by
  simp only [Char.isDigit, Bool.and_eq_true, decide_eq_true_eq] at h
  exact h.2

theorem offset_signed_scans (sign : Int) :
    Scans (offset.signed sign)
      (fun part shift => ∃ h₁ h₂ m₁ m₂ gap, part = h₁ :: h₂ :: (gap ++ [m₁, m₂]) ∧
        (h₁.isDigit = true ∧ h₂.isDigit = true) ∧
        (∀ c ∈ gap, c = ':' ∨ Text.isBlank c = true) ∧
        (m₁.isDigit = true ∧ m₂.isDigit = true ∧ m₁ ≤ '5') ∧
        shift = sign * (digitsValue [h₁, h₂] * 3600 + digitsValue [m₁, m₂] * 60))
      fun _ => True where
  sound := by
    intro cs rest shift h
    obtain ⟨⟨hours, behind⟩, hHours, h⟩ := bind_eq_ok_iff.mp h
    obtain ⟨⟨minutes, rest'⟩, hMinutes, h⟩ := bind_eq_ok_iff.mp h
    cases h
    obtain ⟨_, rfl, h₁, h₂, rfl, hFirst, hSecond, -, rfl⟩ := (twoDigits_scans '9').sound hHours
    obtain ⟨_, hSplit, m₁, m₂, rfl, hThird, hFourth, hHigh, rfl⟩ :=
      (twoDigits_scans '5').sound hMinutes
    have hGap := List.takeWhile_append_dropWhile (p := fun c => c = ':' || Text.isBlank c)
      (l := behind)
    refine ⟨_, ?_, h₁, h₂, m₁, m₂, behind.takeWhile fun c => c = ':' || Text.isBlank c, rfl,
      ⟨hFirst, hSecond⟩, ?_, ⟨hThird, hFourth, hHigh⟩, rfl⟩
    · conv_lhs => rw [← hGap, hSplit]
      simp only [List.cons_append, List.nil_append, List.append_assoc]
    · intro c hMem
      have hOne := List.mem_takeWhile_imp hMem
      rwa [Bool.or_eq_true, decide_eq_true_eq] at hOne
  complete := by
    rintro _ rest _
      ⟨h₁, h₂, m₁, m₂, gap, rfl, ⟨hFirst, hSecond⟩, hGap, ⟨hThird, hFourth, hHigh⟩, rfl⟩ -
    have hHours : twoDigits '9' ([h₁, h₂] ++ (gap ++ [m₁, m₂] ++ rest)) =
        .ok (digitsValue [h₁, h₂], gap ++ [m₁, m₂] ++ rest) :=
      (twoDigits_scans '9').complete
        ⟨h₁, h₂, rfl, hFirst, hSecond, le_nine_of_isDigit hFirst, rfl⟩ trivial
    have hMinutes : twoDigits '5' ([m₁, m₂] ++ rest) = .ok (digitsValue [m₁, m₂], rest) :=
      (twoDigits_scans '5').complete ⟨m₁, m₂, rfl, hThird, hFourth, hHigh, rfl⟩ trivial
    have hSkipped : (gap ++ [m₁, m₂] ++ rest).dropWhile (fun c => c = ':' || Text.isBlank c) =
        [m₁, m₂] ++ rest := by
      have hColon : m₁ ≠ ':' := by
        rintro rfl
        exact absurd hThird (by decide)
      rw [List.append_assoc, List.dropWhile_append_of_pos (by simpa using hGap)]
      exact List.dropWhile_cons_of_neg (by simp [hColon, isBlank_of_isDigit hThird])
    change offset.signed sign ([h₁, h₂] ++ (gap ++ [m₁, m₂] ++ rest)) = _
    rw [offset.signed, hHours, ok_bind]
    simp only
    rw [hSkipped, hMinutes, ok_bind]
    rfl

theorem offset_of_not_utc {c : Char} {rest : List Char} (h : c.toUpper ≠ 'U') :
    offset (c :: rest) =
      if c = 'Z' || c = 'z' then .ok (0, rest)
      else if c = '+' then offset.signed 1 rest
      else if c = '-' || c.toNat = 0x2212 then offset.signed (-1) rest
      else .error .invalid := by
  have hOther : ((c :: rest).take 3).map Char.toUpper ≠ ['U', 'T', 'C'] :=
    fun hUtc => h (List.cons.inj hUtc).1
  exact if_neg hOther

theorem offset_scans : Scans offset SaysZone fun _ => True where
  sound := by
    intro cs rest shift h
    unfold offset at h
    split at h
    · cases h
    · rename_i c cs
      split at h
      · rename_i hUtc
        cases h
        exact ⟨_, (List.take_append_drop 3 (c :: cs)).symm, .utc hUtc⟩
      · split at h
        · rename_i hZulu
          cases h
          rw [Bool.or_eq_true, decide_eq_true_eq, decide_eq_true_eq] at hZulu
          exact ⟨[c], rfl, .zulu hZulu⟩
        · split at h
          · rename_i hPlus
            obtain ⟨part, hSplit, h₁, h₂, m₁, m₂, gap, rfl, hHours, hGap, hMinutes, rfl⟩ :=
              (offset_signed_scans 1).sound h
            exact ⟨_, congrArg (c :: ·) hSplit, .shifted (.inl ⟨hPlus, rfl⟩) hHours hGap hMinutes⟩
          · split at h
            · rename_i hMinus
              rw [Bool.or_eq_true, decide_eq_true_eq, decide_eq_true_eq] at hMinus
              have hMark : c = '-' ∨ c = '−' := hMinus.imp id fun h => Char.toNat_inj.mp h
              obtain ⟨part, hSplit, h₁, h₂, m₁, m₂, gap, rfl, hHours, hGap, hMinutes, rfl⟩ :=
                (offset_signed_scans (-1)).sound h
              exact ⟨_, congrArg (c :: ·) hSplit, .shifted (.inr ⟨hMark, rfl⟩) hHours hGap hMinutes⟩
            · cases h
  complete := by
    rintro _ rest _ (hUtc | hZulu | ⟨hSign, hHours, hGap, hMinutes⟩) -
    · rename_i part
      have hThree : part.length = 3 := by simpa using congrArg List.length hUtc
      have hFront : (part ++ rest).take 3 = part := by rw [← hThree, List.take_left]
      have hBehind : (part ++ rest).drop 3 = rest := by rw [← hThree, List.drop_left]
      cases part with
      | nil => cases hUtc
      | cons c cs =>
        rw [List.cons_append] at hFront hBehind ⊢
        simp only [offset, hFront, hUtc, hBehind, if_true]
    · rename_i c
      have hMark : c.toUpper ≠ 'U' ∧ (c = 'Z' || c = 'z') = true := by
        rcases hZulu with rfl | rfl <;> decide
      rw [List.singleton_append, offset_of_not_utc hMark.1, if_pos hMark.2]
    · rename_i mark h₁ h₂ m₁ m₂ sign gap
      have hTail : offset.signed sign (h₁ :: h₂ :: (gap ++ [m₁, m₂]) ++ rest) =
          .ok (sign * (digitsValue [h₁, h₂] * 3600 + digitsValue [m₁, m₂] * 60), rest) :=
        (offset_signed_scans sign).complete
          ⟨h₁, h₂, m₁, m₂, gap, rfl, hHours, hGap, hMinutes, rfl⟩ trivial
      rw [List.cons_append]
      rcases hSign with ⟨rfl, rfl⟩ | ⟨rfl | rfl, rfl⟩
      · rw [offset_of_not_utc (by decide), if_neg (by decide), if_pos rfl]
        exact hTail
      · rw [offset_of_not_utc (by decide), if_neg (by decide), if_neg (by decide),
          if_pos (by decide)]
        exact hTail
      · rw [offset_of_not_utc (by decide), if_neg (by decide), if_neg (by decide),
          if_pos (by decide)]
        exact hTail

end BlobFiles.Time
