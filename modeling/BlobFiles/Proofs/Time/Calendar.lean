import BlobFiles.Time.Calendar
import Mathlib.Tactic.IntervalCases

/-! # Counting days

The count of days is that of the calendar: day 0 is 1970-01-01, and the day after a date is the next
in the count, at the ends of months and years and around leap days too. Every day of the count has a
date, which is valid and has that count.
-/
namespace BlobFiles.Time.Date

/-- The day after, as a calendar on the wall has it. -/
def next (d : Date) : Date :=
  if d.day < daysInMonth d.year d.month then { d with day := d.day + 1 }
  else if d.month < 12 then { d with month := d.month + 1, day := 1 }
  else ⟨d.year + 1, 1, 1⟩

theorem toDays_epoch : (Date.mk 1970 1 1).toDays = 0 := by decide

theorem isLeapYear_iff (year : Int) :
    isLeapYear year = true ↔ year % 4 = 0 ∧ (year % 100 ≠ 0 ∨ year % 400 = 0) := by
  simp only [isLeapYear, Bool.and_eq_true, Bool.or_eq_true, decide_eq_true_eq]

/-- The first of March follows the last of February, with a leap day before it or not. -/
theorem toDays_march (year : Int) :
    (Date.mk year 3 1).toDays = (Date.mk year 2 (daysInMonth year 2)).toDays + 1 := by
  have hFebruary : daysInMonth year 2 = if isLeapYear year then 29 else 28 := if_pos rfl
  by_cases hLeap : isLeapYear year = true
  · have hRule := (isLeapYear_iff year).mp hLeap
    rw [hFebruary, if_pos hLeap]
    simp only [toDays, epochShift, eraDays]
    norm_num
    omega
  · have hRule := mt (isLeapYear_iff year).mpr hLeap
    rw [hFebruary, if_neg hLeap]
    simp only [toDays, epochShift, eraDays]
    norm_num
    omega

theorem toDays_next {d : Date} (h : d.IsValid) : d.next.toDays = d.toDays + 1 := by
  obtain ⟨year, month, day⟩ := d
  obtain ⟨hFirst, hLast, hDay, hEnd⟩ := h
  simp only at hFirst hLast hDay hEnd
  unfold next
  simp only
  by_cases hSame : day < daysInMonth year month
  · rw [if_pos hSame]
    simp only [toDays]
    omega
  · have hLastDay : day = daysInMonth year month := by omega
    subst hLastDay
    rw [if_neg hSame]
    by_cases hFebruary : month = 2
    · subst hFebruary
      exact toDays_march year
    · have hLength : daysInMonth year month =
          if month = 4 ∨ month = 6 ∨ month = 9 ∨ month = 11 then 30 else 31 := if_neg hFebruary
      simp only [toDays, hLength, epochShift, eraDays]
      split
      · simp only
        interval_cases month <;> norm_num at * <;> omega
      · have hDecember : month = 12 := by omega
        subst hDecember
        norm_num
        omega

/-! ## The date of a day -/

/-- A day of an era is in one of four centuries, there in one of 25 cycles of four years, there in
one of four years. The year's last day is there only if it is a leap day. -/
theorem split_dayOfEra {day : Int} (hFirst : 0 ≤ day) (hLast : day < 146097) :
    ∃ century cycle year rest : Int, (0 ≤ century ∧ century ≤ 3) ∧ (0 ≤ cycle ∧ cycle ≤ 24) ∧
      (0 ≤ year ∧ year ≤ 3) ∧ (0 ≤ rest ∧ rest ≤ 365) ∧
      (rest = 365 → year = 3 ∧ (cycle < 24 ∨ century = 3)) ∧
      day = 36524 * century + 1461 * cycle + 365 * year + rest := by
  refine ⟨day / 36524 - day / 146096, (day - 36524 * (day / 36524 - day / 146096)) / 1461,
    min ((day - 36524 * (day / 36524 - day / 146096)) % 1461 / 365) 3,
    (day - 36524 * (day / 36524 - day / 146096)) % 1461 -
      365 * min ((day - 36524 * (day / 36524 - day / 146096)) % 1461 / 365) 3, ?_⟩
  omega

/-- The year of a day, from a day for every year, a day less for every cycle, and so on. -/
theorem yearOfEra_eq {day century cycle year rest : Int} (hCentury : 0 ≤ century ∧ century ≤ 3)
    (hCycle : 0 ≤ cycle ∧ cycle ≤ 24) (hYear : 0 ≤ year ∧ year ≤ 3)
    (hRest : 0 ≤ rest ∧ rest ≤ 365) (hLeap : rest = 365 → year = 3 ∧ (cycle < 24 ∨ century = 3))
    (hDay : day = 36524 * century + 1461 * cycle + 365 * year + rest) :
    (day - day / 1460 + day / 36524 - day / 146096) / 365 = 100 * century + 4 * cycle + year := by
  have hCenturies : day / 36524 - day / 146096 = century := by
    by_cases hLast : day = 146096
    · omega
    · have hNext : day < 36524 * (century + 1) := by omega
      omega
  have hCycles : day / 1460 =
      25 * century + cycle + (24 * century + cycle + 365 * year + rest) / 1460 := by omega
  -- a cycle that is one day short is so in its last year only
  have hShort : (24 * century + cycle + 365 * year + rest) / 1460 = 0 ∧ rest < 365 ∨
      (24 * century + cycle + 365 * year + rest) / 1460 = 1 ∧ 0 < rest := by omega
  omega

theorem firstDay_eq (century : Int) {cycle year : Int} (hCycle : 0 ≤ cycle ∧ cycle ≤ 24)
    (hYear : 0 ≤ year ∧ year ≤ 3) {yearOfEra : Int}
    (h : yearOfEra = 100 * century + 4 * cycle + year) :
    365 * yearOfEra + yearOfEra / 4 - yearOfEra / 100 =
      36524 * century + 1461 * cycle + 365 * year := by
  omega

/-- A date in a year that begins in March: the `rest`-th day of it is in its month `marchMonth`. -/
def ofMarchYear (year marchMonth rest : Int) : Date :=
  let day := rest - (153 * marchMonth + 2) / 5 + 1
  let month := if marchMonth < 10 then marchMonth + 3 else marchMonth - 9
  ⟨if month ≤ 2 then year + 1 else year, month.toNat, day.toNat⟩

theorem ofMarchYear_early {year marchMonth rest : Int} (h : 0 ≤ marchMonth ∧ marchMonth < 10) :
    ofMarchYear year marchMonth rest =
      ⟨year, (marchMonth + 3).toNat, (rest - (153 * marchMonth + 2) / 5 + 1).toNat⟩ := by
  have hSame : ¬ marchMonth + 3 ≤ 2 := by omega
  simp only [ofMarchYear, if_pos h.2, if_neg hSame]

theorem ofMarchYear_late {year marchMonth rest : Int} (h : 10 ≤ marchMonth ∧ marchMonth < 12) :
    ofMarchYear year marchMonth rest =
      ⟨year + 1, (marchMonth - 9).toNat, (rest - (153 * marchMonth + 2) / 5 + 1).toNat⟩ := by
  have hLate : ¬ marchMonth < 10 := by omega
  have hNext : marchMonth - 9 ≤ 2 := by omega
  simp only [ofMarchYear, if_neg hLate, if_pos hNext]

theorem isValid_ofMarchYear {year marchMonth rest : Int} (hRest : 0 ≤ rest ∧ rest ≤ 365)
    (hMarch : (5 * rest + 2) / 153 = marchMonth)
    (hLeap : rest = 365 → isLeapYear (year + 1) = true) :
    (ofMarchYear year marchMonth rest).IsValid := by
  by_cases hEarly : marchMonth < 10
  · have hMonths : 0 ≤ marchMonth ∧ marchMonth < 10 := by omega
    rw [ofMarchYear_early hMonths]
    obtain ⟨hFirst, hLast⟩ := hMonths
    unfold IsValid daysInMonth
    interval_cases marchMonth <;> norm_num <;> omega
  · by_cases hFebruary : marchMonth = 11
    · subst hFebruary
      rw [ofMarchYear_late (by omega)]
      unfold IsValid daysInMonth
      norm_num
      by_cases hLast : rest = 365
      · rw [if_pos (hLeap hLast)]
        omega
      · split <;> omega
    · have hJanuary : marchMonth = 10 := by omega
      subst hJanuary
      rw [ofMarchYear_late (by omega)]
      unfold IsValid daysInMonth
      norm_num
      omega

theorem toDays_ofMarchYear {year marchMonth rest : Int} (hRest : 0 ≤ rest ∧ rest ≤ 365)
    (hMarch : (5 * rest + 2) / 153 = marchMonth) :
    (ofMarchYear year marchMonth rest).toDays =
      year / 400 * eraDays + ((year - year / 400 * 400) * 365 + (year - year / 400 * 400) / 4 -
        (year - year / 400 * 400) / 100 + rest) - epochShift := by
  have hDay : ((rest - (153 * marchMonth + 2) / 5 + 1).toNat : Int) =
      rest - (153 * marchMonth + 2) / 5 + 1 := by omega
  by_cases hEarly : marchMonth < 10
  · have hMonth : (((marchMonth + 3).toNat : Int) + 9) % 12 = marchMonth := by omega
    rw [ofMarchYear_early (by omega)]
    unfold toDays
    simp only
    rw [if_neg (by omega), hMonth, hDay]
    omega
  · have hMonth : (((marchMonth - 9).toNat : Int) + 9) % 12 = marchMonth := by omega
    rw [ofMarchYear_late (by omega)]
    unfold toDays
    simp only
    rw [if_pos (by omega), hMonth, hDay, Int.add_sub_cancel]
    omega

theorem ofDays_eq_ofMarchYear (days : Int) :
    ∃ year rest : Int, (0 ≤ rest ∧ rest ≤ 365) ∧ (rest = 365 → isLeapYear (year + 1) = true) ∧
      ofDays days = ofMarchYear year ((5 * rest + 2) / 153) rest ∧
      (ofMarchYear year ((5 * rest + 2) / 153) rest).toDays = days := by
  have hEra : 0 ≤ days + epochShift - (days + epochShift) / eraDays * eraDays ∧
      days + epochShift - (days + epochShift) / eraDays * eraDays < eraDays := by
    unfold eraDays
    omega
  obtain ⟨century, cycle, year, rest, hCentury, hCycle, hYear, hRest, hLeap, hDay⟩ :=
    split_dayOfEra hEra.1 hEra.2
  have hYearOfEra := yearOfEra_eq hCentury hCycle hYear hRest hLeap hDay
  have hFirstDay := firstDay_eq century hCycle hYear rfl
  have hDayOfYear : days + epochShift - (days + epochShift) / eraDays * eraDays -
      (36524 * century + 1461 * cycle + 365 * year) = rest := by omega
  refine ⟨100 * century + 4 * cycle + year + (days + epochShift) / eraDays * 400, rest, hRest,
    ?_, ?_, ?_⟩
  · intro hLast
    have hCase := hLeap hLast
    rw [isLeapYear_iff]
    omega
  · unfold ofDays ofMarchYear
    simp only
    rw [hYearOfEra, hFirstDay, hDayOfYear]
  · have hSameEra : (100 * century + 4 * cycle + year + (days + epochShift) / eraDays * 400) / 400 =
        (days + epochShift) / eraDays := by omega
    rw [toDays_ofMarchYear hRest rfl, hSameEra, Int.add_sub_cancel]
    omega

theorem isValid_ofDays (days : Int) : (ofDays days).IsValid := by
  obtain ⟨year, rest, hRest, hLeap, hDate, -⟩ := ofDays_eq_ofMarchYear days
  rw [hDate]
  exact isValid_ofMarchYear hRest rfl hLeap

theorem toDays_ofDays (days : Int) : (ofDays days).toDays = days := by
  obtain ⟨year, rest, -, -, hDate, hDays⟩ := ofDays_eq_ofMarchYear days
  rw [hDate, hDays]

end BlobFiles.Time.Date
