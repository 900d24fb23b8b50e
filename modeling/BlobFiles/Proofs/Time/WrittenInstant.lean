import BlobFiles.Proofs.Time.Stamp

/-! # The text of an instant

An instant that a timestamp can name is written as a timestamp that names it: at UTC, with the
fraction in as few groups of three digits as it takes. So reading the text gives the instant back.
Memory also holds instants that no timestamp names, in a long second within a minute. Such a one is
written as if it were in the second that follows, and that is what its text is read as.
-/
namespace BlobFiles.Time.Instant

open Text (Digits)

/-! ## Padded numbers -/

theorem toList_padded (width n : Nat) :
    (padded width n).toList =
      List.replicate (width - (Nat.toDigits 10 n).length) '0' ++ Nat.toDigits 10 n :=
  String.toList_ofList

theorem digits_padded (width n : Nat) : Digits (padded width n).toList := by
  rw [toList_padded]
  refine ⟨List.append_ne_nil_of_right_ne_nil _ Nat.toDigits_ne_nil, ?_⟩
  intro d hMem
  rcases List.mem_append.mp hMem with hZero | hDigit
  · rw [List.eq_of_mem_replicate hZero]
    decide
  · exact Nat.isDigit_of_mem_toDigits (by decide) (by decide) hDigit

theorem digitsValue_replicate (k : Nat) : digitsValue (List.replicate k '0') = 0 := by
  induction k with
  | zero => rfl
  | succ k ih => exact ih

theorem digitsValue_padded (width n : Nat) : digitsValue (padded width n).toList = n := by
  rw [toList_padded, digitsValue_append, digitsValue_replicate, Nat.mul_zero, Nat.zero_add]
  exact Nat.ofDigitChars_ten_toDigits

theorem length_padded (width : Nat) {n : Nat} (hWidth : 0 < width) (h : n < 10 ^ width) :
    (padded width n).toList.length = width := by
  have hShort := Nat.toDigits_length 10 n width hWidth h
  rw [toList_padded, List.length_append, List.length_replicate]
  omega

theorem saysNumber_padded {low high n : Nat} (hLow : low ≤ n) (hHigh : n ≤ high)
    (hTwo : n < 100) : SaysNumber low high (padded 2 n).toList n := by
  have hLength := length_padded 2 (by decide) hTwo
  have hSays : SaysNumber low high (padded 2 n).toList (digitsValue (padded 2 n).toList) :=
    .alone (digits_padded 2 n) (Nat.le_of_eq hLength) (by rwa [digitsValue_padded])
      (by rwa [digitsValue_padded])
  rwa [digitsValue_padded] at hSays

theorem saysYear_yearText {year : Int} (hLow : minYear ≤ year) (hHigh : year ≤ maxYear) :
    SaysYear (yearText year).toList year := by
  unfold minYear at hLow
  unfold maxYear at hHigh
  unfold yearText
  split
  · rename_i hPlain
    have hValue : ((digitsValue (padded 4 year.toNat).toList : Nat) : Int) = year := by
      rw [digitsValue_padded]
      omega
    have hLength := length_padded 4 (by decide) (by omega : year.toNat < 10 ^ 4)
    have hSays := SaysYear.plain_alone (digits_padded 4 year.toNat) (Nat.le_of_eq hLength)
    rwa [hValue] at hSays
  · have hSigned : ∀ (mark : Char) (sign : Int),
        (mark = '+' ∧ sign = 1 ∨ mark = '-' ∧ sign = -1) → sign * year.natAbs = year →
          SaysYear (mark :: (padded 4 year.natAbs).toList) year := by
      intro mark sign hSign hYear
      have hValue : sign * (digitsValue (padded 4 year.natAbs).toList : Nat) = year := by
        rw [digitsValue_padded, hYear]
      have hSays := SaysYear.signed_alone hSign (digits_padded 4 year.natAbs) (by omega) (by omega)
      rwa [hValue] at hSays
    rw [String.toList_append]
    split
    · exact hSigned '-' (-1) (.inr ⟨rfl, rfl⟩) (by omega)
    · exact hSigned '+' 1 (.inl ⟨rfl, rfl⟩) (by omega)

/-- The digits that a number of nanoseconds below a second is written with. -/
def fractionDigits (nanos : Nat) : List Char :=
  if nanos = 0 then []
  else if nanos % 1000000 = 0 then (padded 3 (nanos / 1000000)).toList
  else if nanos % 1000 = 0 then (padded 6 (nanos / 1000)).toList
  else (padded 9 nanos).toList

theorem saysFraction_fractionText (nanos : Nat) :
    SaysFraction (fractionText nanos).toList (fractionDigits nanos) := by
  unfold fractionText fractionDigits
  split
  · exact .none
  · split
    · rw [String.toList_append]
      exact .some (digits_padded 3 _)
    · split
      · rw [String.toList_append]
        exact .some (digits_padded 6 _)
      · rw [String.toList_append]
        exact .some (digits_padded 9 _)

theorem nanosOf_fractionDigits {nanos : Nat} (h : nanos < 1000000000) :
    nanosOf (fractionDigits nanos) = nanos ∧
      (fractionDigits nanos).length ∈ [0, 3, 6, 9] := by
  have hPadded : ∀ width n, 0 < width → width ≤ 9 → n < 10 ^ width →
      nanosOf (padded width n).toList = n * 10 ^ (9 - width) ∧
        (padded width n).toList.length = width := by
    intro width n hPositive hNine hFits
    have hLength := length_padded width hPositive hFits
    rw [nanosOf_of_short (by omega), digitsValue_padded, hLength]
    exact ⟨rfl, rfl⟩
  unfold fractionDigits
  split
  · rename_i hZero
    rw [hZero]
    decide
  · split
    · obtain ⟨hNanos, hLength⟩ := hPadded 3 (nanos / 1000000) (by decide) (by decide) (by omega)
      rw [hNanos, hLength]
      exact ⟨by omega, by decide⟩
    · split
      · obtain ⟨hNanos, hLength⟩ := hPadded 6 (nanos / 1000) (by decide) (by decide) (by omega)
        rw [hNanos, hLength]
        exact ⟨by omega, by decide⟩
      · obtain ⟨hNanos, hLength⟩ := hPadded 9 nanos (by decide) (by decide) (by omega)
        rw [hNanos, hLength]
        exact ⟨by omega, by decide⟩

/-! ## Instants -/

/-- An instant of a year with a name, where only a second that ends a minute is longer than one. -/
structure Proper (t : Instant) : Prop where
  years : InYears t.date
  nanos : t.nanos < 1000000000 ∨
    1000000000 ≤ t.nanos ∧ t.nanos < 2000000000 ∧ t.seconds % 60 = 59

/-- What is written for an instant. -/
def stamp (t : Instant) : Stamp where
  date := t.date
  hour := (t.seconds % 86400).toNat / 3600
  minute := (t.seconds % 86400).toNat / 60 % 60
  second := (t.seconds % 86400).toNat % 60 + if 1000000000 ≤ t.nanos then 1 else 0
  fraction := fractionDigits (t.nanos % 1000000000)
  shift := 0

theorem toList_text (t : Instant) :
    t.text.toList =
      ((yearText t.date.year).toList ++ (['-'] ++ ((padded 2 t.date.month).toList ++
        (['-'] ++ (padded 2 t.date.day).toList)))) ++
      'T' :: (((padded 2 t.stamp.hour).toList ++ ([':'] ++ ((padded 2 t.stamp.minute).toList ++
        ([':'] ++ ((padded 2 t.stamp.second).toList ++
          ((fractionText (t.nanos % 1000000000)).toList ++ [])))))) ++ (['Z'] ++ [])) := by
  have hDash : "-".toList = ['-'] := rfl
  have hMark : "T".toList = ['T'] := rfl
  have hColon : ":".toList = [':'] := rfl
  have hZone : "Z".toList = ['Z'] := rfl
  simp only [text, date, stamp, String.toList_append, toString, hDash, hMark, hColon, hZone,
    List.append_assoc, List.append_nil, List.cons_append, List.nil_append]

theorem getLast?_text (t : Instant) : t.text.toList.getLast? = some 'Z' := by
  rw [toList_text, List.getLast?_append, List.getLast?_cons, List.getLast?_append]
  rfl

theorem clock_lt (t : Instant) : (t.seconds % 86400).toNat < 86400 := by omega

theorem says_text {t : Instant} (h : t.Proper) : Says t.text.toList t.stamp := by
  have hDays : daysInMonth t.date.year t.date.month ≤ 31 := by
    unfold daysInMonth
    split
    · split <;> decide
    · split <;> decide
  obtain ⟨hFirst, hLast, hDay, hEnd⟩ := Date.isValid_ofDays (t.seconds / 86400)
  change 1 ≤ t.date.month at hFirst
  change t.date.month ≤ 12 at hLast
  change 1 ≤ t.date.day at hDay
  change t.date.day ≤ daysInMonth t.date.year t.date.month at hEnd
  have hClock := t.clock_lt
  have hNanos : t.nanos % 1000000000 < 1000000000 := Nat.mod_lt _ (by decide)
  have hDateText : SaysDate _ t.date :=
    .mk (saysYear_yearText h.years.1 h.years.2) (.alone '-')
      (saysNumber_padded hFirst hLast (by omega)) (.alone '-')
      (saysNumber_padded hDay (by omega) (by omega))
  have hSecond : t.stamp.second ≤ 60 := by
    unfold stamp
    simp only
    split <;> omega
  have hMinute : t.stamp.minute ≤ 59 := by
    unfold stamp
    simp only
    omega
  have hHour : t.stamp.hour ≤ 23 := by
    unfold stamp
    simp only
    omega
  have hTimeText := SaysTime.mk (saysNumber_padded (Nat.zero_le _) hHour (by omega))
    (.alone ':') (saysNumber_padded (Nat.zero_le _) hMinute (by omega))
    (.alone ':') (saysNumber_padded (Nat.zero_le _) hSecond (by omega))
    (saysFraction_fractionText (t.nanos % 1000000000)) blanks_nil
  rw [toList_text]
  exact .mk hDateText (.inl rfl) hTimeText (.zulu (.inl rfl)) blanks_nil

theorem instant_stamp {t : Instant} (h : t.Proper) : t.stamp.instant = t := by
  have hDays : t.stamp.date.toDays = t.seconds / 86400 := Date.toDays_ofDays _
  have hFraction : nanosOf t.stamp.fraction = t.nanos % 1000000000 :=
    (nanosOf_fractionDigits (Nat.mod_lt _ (by decide))).1
  have hHour : t.stamp.hour = (t.seconds % 86400).toNat / 3600 := rfl
  have hMinute : t.stamp.minute = (t.seconds % 86400).toNat / 60 % 60 := rfl
  have hShift : t.stamp.shift = 0 := rfl
  rcases h.nanos with hPlain | ⟨hLeap, hBelow, hLast⟩
  · have hSecond : t.stamp.second = (t.seconds % 86400).toNat % 60 := by
      rw [stamp, if_neg (by omega)]
      rfl
    have hNanos : t.nanos % 1000000000 = t.nanos := Nat.mod_eq_of_lt hPlain
    have hSeconds : t.seconds / 86400 * 86400 + ((t.seconds % 86400).toNat / 3600 : Nat) * 3600 +
        ((t.seconds % 86400).toNat / 60 % 60 : Nat) * 60 + ((t.seconds % 86400).toNat % 60 : Nat) -
          0 = t.seconds := by omega
    rw [Stamp.instant_of_plain (by omega), hDays, hFraction, hHour, hMinute, hSecond, hShift,
      hNanos, hSeconds]
  · have hSecond : t.stamp.second = 60 := by
      rw [stamp, if_pos hLeap]
      change (t.seconds % 86400).toNat % 60 + 1 = 60
      omega
    have hNanos : t.nanos % 1000000000 + 1000000000 = t.nanos := by omega
    have hSeconds : t.seconds / 86400 * 86400 + ((t.seconds % 86400).toNat / 3600 : Nat) * 3600 +
        ((t.seconds % 86400).toNat / 60 % 60 : Nat) * 60 + 59 - 0 = t.seconds := by omega
    rw [Stamp.instant_of_leap hSecond, hDays, hFraction, hHour, hMinute, hShift, hNanos, hSeconds]

theorem inRange_stamp {t : Instant} (h : t.Proper) : t.stamp.InRange where
  valid := Date.isValid_ofDays _
  years := h.years
  shift := Nat.zero_lt_succ _
  years_utc := by
    rw [instant_stamp h]
    exact h.years

theorem parse_text {t : Instant} (h : t.Proper) : parse t.text = .ok t :=
  ofText_eq_ok_iff.mpr ⟨t.stamp, says_text h, inRange_stamp h, (instant_stamp h).symm⟩

/-! ## Long seconds within a minute -/

/-- An instant as memory holds it, where any second may be longer than one. -/
structure Held (t : Instant) : Prop where
  years : InYears t.date
  nanos : t.nanos < 2000000000

/-- A long second that does not end a minute runs on into the next one. -/
def settled (t : Instant) : Instant :=
  if 1000000000 ≤ t.nanos ∧ t.seconds % 60 ≠ 59 then ⟨t.seconds + 1, t.nanos - 1000000000⟩ else t

theorem settled_eq_iff {t : Instant} (h : t.Held) : t.settled = t ↔ t.Proper := by
  have hNanos := h.nanos
  unfold settled
  split
  · rename_i hShift
    constructor
    · intro hSame
      have hSeconds := congrArg Instant.seconds hSame
      simp only at hSeconds
      omega
    · rintro ⟨-, hPlain | ⟨-, -, hLast⟩⟩
      · omega
      · exact absurd hLast hShift.2
  · rename_i hKept
    refine iff_of_true rfl ⟨h.years, ?_⟩
    omega

/-- Within a minute, the next second has the same day, hour and minute. -/
theorem clock_succ {s : Int} (h : s % 60 ≠ 59) :
    (s + 1) / 86400 = s / 86400 ∧
    ((s + 1) % 86400).toNat / 60 = (s % 86400).toNat / 60 ∧
    ((s + 1) % 86400).toNat % 60 = (s % 86400).toNat % 60 + 1 := by omega

theorem proper_settled {t : Instant} (h : t.Held) : t.settled.Proper := by
  have hNanos := h.nanos
  unfold settled
  split
  · rename_i hShift
    obtain ⟨hDay, -, -⟩ := clock_succ hShift.2
    refine ⟨?_, .inl ?_⟩
    · rw [date, hDay]
      exact h.years
    · simp only
      omega
  · rename_i hKept
    refine ⟨h.years, ?_⟩
    omega

theorem text_settled {t : Instant} (h : t.Held) : t.settled.text = t.text := by
  have hNanos := h.nanos
  unfold settled
  split
  · rename_i hShift
    obtain ⟨hLong, hWithin⟩ := hShift
    obtain ⟨hDay, hMinute, hSecond⟩ := clock_succ hWithin
    have hHour : ((t.seconds + 1) % 86400).toNat / 3600 = (t.seconds % 86400).toNat / 3600 := by
      omega
    have hFraction : (t.nanos - 1000000000) % 1000000000 = t.nanos % 1000000000 := by omega
    have hPlain : ¬ 1000000000 ≤ t.nanos - 1000000000 := by omega
    simp only [text, hDay, hHour, hMinute, hSecond, hFraction, if_pos hLong, if_neg hPlain,
      Nat.add_zero]
  · rfl

theorem nanosOf_lt {ds : List Char} (h : ∀ d ∈ ds, d.isDigit = true) : nanosOf ds < 1000000000 := by
  have hPositive : 0 < 10 ^ 9 := by decide
  refine Nat.div_lt_of_lt_mul ?_
  rw [Nat.mul_comm _ (10 ^ 9), Nat.mul_comm _ 1000000000]
  exact Nat.mul_lt_mul_of_pos_left (digitsValue_lt h) hPositive

theorem proper_of_says {cs : List Char} {p : Stamp} (hSays : Says cs p) (hRange : p.InRange) :
    p.instant.Proper := by
  refine ⟨hRange.years_utc, ?_⟩
  obtain ⟨-, -, hTime, hZone, -⟩ := hSays
  have hNanos := nanosOf_lt hTime.isDigit
  have hMinutes := hZone.whole_minutes
  by_cases hLeap : p.second = 60
  · rw [Stamp.instant_of_leap hLeap]
    refine .inr ⟨by simp only; omega, by simp only; omega, ?_⟩
    simp only
    omega
  · rw [Stamp.instant_of_plain hLeap]
    exact .inl hNanos

theorem proper_of_parse {text : String} {t : Instant} (h : parse text = .ok t) : t.Proper := by
  obtain ⟨p, hSays, hRange, rfl⟩ := ofText_eq_ok_iff.mp h
  exact proper_of_says hSays hRange

end BlobFiles.Time.Instant
