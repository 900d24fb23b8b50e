import BlobFiles.Proofs.Time.Calendar
import BlobFiles.Proofs.Time.Scan

/-! # What a timestamp says

A stamp is what stands in a timestamp: a date, a time of day with the digits of its fraction, and an
offset from UTC. It names an instant, to the nanosecond. `Instant.parse` accepts exactly the texts
of stamps whose parts are in range, and gives the instant that the stamp names.
-/
namespace BlobFiles.Time

open Text (Digits NoDigit)

/-! ## Date and time of day -/

inductive SaysDate : List Char → Date → Prop
  | mk {year month day dash₁ dash₂ : List Char} {date : Date} (hYear : SaysYear year date.year)
      (hDash₁ : SaysMark '-' dash₁ ()) (hMonth : SaysNumber 1 12 month date.month)
      (hDash₂ : SaysMark '-' dash₂ ()) (hDay : SaysNumber 1 31 day date.day) :
      SaysDate (year ++ (dash₁ ++ (month ++ (dash₂ ++ day)))) date

theorem noDigit_of_blanks {bs cs : List Char} (hBlanks : Blanks bs) (h : NoDigit cs) :
    NoDigit (bs ++ cs) := by
  cases bs with
  | nil => exact h
  | cons b bs =>
    intro c hc
    cases hc
    rw [Bool.eq_false_iff]
    intro hDigit
    exact absurd (hBlanks b List.mem_cons_self) (by rw [isBlank_of_isDigit hDigit]; decide)

theorem SaysMark.noDigit {c : Char} {part : List Char} (h : SaysMark c part ())
    (hMark : c.isDigit = false) (rest : List Char) : NoDigit (part ++ rest) := by
  obtain ⟨hBlanks⟩ := h
  rw [List.append_assoc]
  refine noDigit_of_blanks hBlanks ?_
  intro d hd
  cases hd
  exact hMark

theorem dateFields_scans : Scans dateFields SaysDate NoDigit where
  sound := by
    intro cs rest date h
    obtain ⟨⟨year, cs₁⟩, hYear, h⟩ := bind_eq_ok_iff.mp h
    obtain ⟨⟨_, cs₂⟩, hDash₁, h⟩ := bind_eq_ok_iff.mp h
    obtain ⟨⟨month, cs₃⟩, hMonth, h⟩ := bind_eq_ok_iff.mp h
    obtain ⟨⟨_, cs₄⟩, hDash₂, h⟩ := bind_eq_ok_iff.mp h
    obtain ⟨⟨day, cs₅⟩, hDay, h⟩ := bind_eq_ok_iff.mp h
    cases h
    obtain ⟨_, rfl, hYearText⟩ := yearField_scans.sound hYear
    obtain ⟨_, rfl, hDashText₁⟩ := (separator_scans (by decide)).sound hDash₁
    obtain ⟨_, rfl, hMonthText⟩ := (field_scans 1 12).sound hMonth
    obtain ⟨_, rfl, hDashText₂⟩ := (separator_scans (by decide)).sound hDash₂
    obtain ⟨_, rfl, hDayText⟩ := (field_scans 1 31).sound hDay
    refine ⟨_, ?_, .mk hYearText hDashText₁ hMonthText hDashText₂ hDayText⟩
    simp only [List.append_assoc]
  complete := by
    rintro _ rest date ⟨hYear, hDash₁, hMonth, hDash₂, hDay⟩ hRest
    simp only [List.append_assoc]
    rw [dateFields, yearField_scans.complete hYear (hDash₁.noDigit (by decide) _), ok_bind]
    simp only
    rw [(separator_scans (by decide)).complete hDash₁ trivial, ok_bind]
    simp only
    rw [(field_scans 1 12).complete hMonth (hDash₂.noDigit (by decide) _), ok_bind]
    simp only
    rw [(separator_scans (by decide)).complete hDash₂ trivial, ok_bind]
    simp only
    rw [(field_scans 1 31).complete hDay hRest, ok_bind]
    rfl

/-- A time of day, the digits of its fraction, and white space behind it. -/
inductive SaysTime : List Char → ClockTime → List Char → Prop
  | mk {hour minute second colon₁ colon₂ fraction gap ds : List Char} {h m s : Nat}
      (hHour : SaysNumber 0 23 hour h) (hColon₁ : SaysMark ':' colon₁ ())
      (hMinute : SaysNumber 0 59 minute m) (hColon₂ : SaysMark ':' colon₂ ())
      (hSecond : SaysNumber 0 60 second s) (hFraction : SaysFraction fraction ds)
      (hGap : Blanks gap) :
      SaysTime (hour ++ (colon₁ ++ (minute ++ (colon₂ ++ (second ++ (fraction ++ gap))))))
        ⟨h, m, s, nanosOf ds⟩ ds

theorem SaysTime.nanos_eq {part ds : List Char} {time : ClockTime} (h : SaysTime part time ds) :
    time.nanos = nanosOf ds := by
  cases h
  rfl

theorem SaysTime.isDigit {part ds : List Char} {time : ClockTime} (h : SaysTime part time ds) :
    ∀ d ∈ ds, d.isDigit = true := by
  obtain ⟨-, -, -, -, -, hFraction, -⟩ := h
  cases hFraction with
  | none =>
    intro d hMem
    cases hMem
  | some hDigits => exact hDigits.all

theorem SaysFraction.noDigit {part ds rest : List Char} (h : SaysFraction part ds)
    (hRest : NoDigit rest) : NoDigit (part ++ rest) := by
  cases h with
  | none => exact hRest
  | some hDigits =>
    intro c hc
    cases hc
    decide

theorem noFraction_of_blanks {bs cs : List Char} (hBlanks : Blanks bs) (h : NoFraction cs) :
    NoFraction (bs ++ cs) := by
  refine ⟨noDigit_of_blanks hBlanks h.1, ?_⟩
  cases bs with
  | nil => exact h.2
  | cons b bs =>
    intro hPoint
    cases hPoint
    exact absurd (hBlanks '.' List.mem_cons_self) (by decide)

theorem timeFields_scans :
    Scans timeFields (fun part time => ∃ ds, SaysTime part time ds)
      fun rest => NoFraction rest ∧ NoBlank rest where
  sound := by
    intro cs rest time h
    obtain ⟨⟨hour, cs₁⟩, hHour, h⟩ := bind_eq_ok_iff.mp h
    obtain ⟨⟨_, cs₂⟩, hColon₁, h⟩ := bind_eq_ok_iff.mp h
    obtain ⟨⟨minute, cs₃⟩, hMinute, h⟩ := bind_eq_ok_iff.mp h
    obtain ⟨⟨_, cs₄⟩, hColon₂, h⟩ := bind_eq_ok_iff.mp h
    obtain ⟨⟨second, cs₅⟩, hSecond, h⟩ := bind_eq_ok_iff.mp h
    obtain ⟨⟨nanos, cs₆⟩, hFraction, h⟩ := bind_eq_ok_iff.mp h
    cases h
    obtain ⟨_, rfl, hHourText⟩ := (field_scans 0 23).sound hHour
    obtain ⟨_, rfl, hColonText₁⟩ := (separator_scans (by decide)).sound hColon₁
    obtain ⟨_, rfl, hMinuteText⟩ := (field_scans 0 59).sound hMinute
    obtain ⟨_, rfl, hColonText₂⟩ := (separator_scans (by decide)).sound hColon₂
    obtain ⟨_, rfl, hSecondText⟩ := (field_scans 0 60).sound hSecond
    obtain ⟨_, rfl, ds, hFractionText, rfl⟩ := fraction_scans.sound hFraction
    obtain ⟨gap, hGap, hText⟩ := exists_blanks cs₆
    refine ⟨_, ?_, ds, .mk hHourText hColonText₁ hMinuteText hColonText₂ hSecondText hFractionText
      hGap⟩
    conv_lhs => rw [hText]
    simp only [List.append_assoc]
  complete := by
    rintro _ rest _ ⟨ds, hHour, hColon₁, hMinute, hColon₂, hSecond, hFraction, hGap⟩ ⟨hRest, hBlank⟩
    have hBehind := noFraction_of_blanks hGap hRest
    simp only [List.append_assoc]
    rw [timeFields, (field_scans 0 23).complete hHour (hColon₁.noDigit (by decide) _), ok_bind]
    simp only
    rw [(separator_scans (by decide)).complete hColon₁ trivial, ok_bind]
    simp only
    rw [(field_scans 0 59).complete hMinute (hColon₂.noDigit (by decide) _), ok_bind]
    simp only
    rw [(separator_scans (by decide)).complete hColon₂ trivial, ok_bind]
    simp only
    rw [(field_scans 0 60).complete hSecond (hFraction.noDigit hBehind.1), ok_bind]
    simp only
    rw [fraction_scans.complete ⟨ds, hFraction, rfl⟩ hBehind, ok_bind]
    simp only
    rw [trimStart_append hGap hBlank]
    rfl

/-! ## Timestamps -/

structure Stamp where
  date : Date
  hour : Nat
  minute : Nat
  second : Nat
  /-- The digits behind the point. -/
  fraction : List Char
  /-- Seconds east of UTC. -/
  shift : Int

inductive Says : List Char → Stamp → Prop
  | mk {date time zone ending : List Char} {mark : Char} {p : Stamp} (hDate : SaysDate date p.date)
      (hMark : mark = 'T' ∨ mark = 't' ∨ mark = ' ')
      (hTime : SaysTime time ⟨p.hour, p.minute, p.second, nanosOf p.fraction⟩ p.fraction)
      (hZone : SaysZone zone p.shift) (hEnding : Blanks ending) :
      Says (date ++ mark :: (time ++ (zone ++ ending))) p

/-- The date at UTC. -/
def Instant.date (t : Instant) : Date := Date.ofDays (t.seconds / 86400)

/-- The instant that a stamp names. The second 60 is the end of the second 59. -/
def Stamp.instant (p : Stamp) : Instant where
  seconds := p.date.toDays * 86400 + p.hour * 3600 + p.minute * 60 +
    (if p.second = 60 then 59 else p.second : Nat) - p.shift
  nanos := if p.second = 60 then nanosOf p.fraction + 1000000000 else nanosOf p.fraction

theorem Stamp.instant_of_leap {p : Stamp} (h : p.second = 60) :
    p.instant =
      ⟨p.date.toDays * 86400 + p.hour * 3600 + p.minute * 60 + 59 - p.shift,
        nanosOf p.fraction + 1000000000⟩ := by
  rw [instant, if_pos h, if_pos h]
  rfl

theorem Stamp.instant_of_plain {p : Stamp} (h : p.second ≠ 60) :
    p.instant =
      ⟨p.date.toDays * 86400 + p.hour * 3600 + p.minute * 60 + p.second - p.shift,
        nanosOf p.fraction⟩ := by
  rw [instant, if_neg h, if_neg h]

def InYears (date : Date) : Prop := minYear ≤ date.year ∧ date.year ≤ maxYear

structure Stamp.InRange (p : Stamp) : Prop where
  valid : p.date.IsValid
  years : InYears p.date
  shift : p.shift.natAbs < 86400
  years_utc : InYears p.instant.date

theorem ofLocal_eq_ok_iff {p : Stamp} {t : Instant} :
    Instant.ofLocal p.date ⟨p.hour, p.minute, p.second, nanosOf p.fraction⟩ p.shift = .ok t ↔
      p.InRange ∧ t = p.instant := by
  have hSeconds : p.date.toDays * 86400 + p.hour * 3600 + p.minute * 60 +
      (if p.second = 60 then 59 else p.second : Nat) - p.shift = p.instant.seconds := rfl
  have hNanos : (if p.second = 60 then nanosOf p.fraction + 1000000000 else nanosOf p.fraction) =
      p.instant.nanos := rfl
  unfold Instant.ofLocal
  simp only [hSeconds, hNanos]
  constructor
  · intro h
    split at h
    · cases h
    · rename_i hLocal
      split at h
      · cases h
      · rename_i hUtc
        cases h
        simp only [not_or, Decidable.not_not, not_lt, not_le] at hLocal hUtc
        exact ⟨⟨hLocal.1, ⟨hLocal.2.1, hLocal.2.2.1⟩, hLocal.2.2.2, hUtc⟩, rfl⟩
  · rintro ⟨⟨hValid, hYears, hShift, hUtc⟩, rfl⟩
    have hLocal : ¬ (¬ p.date.IsValid ∨ p.date.year < minYear ∨ maxYear < p.date.year ∨
        86400 ≤ p.shift.natAbs) := by
      simp only [not_or, Decidable.not_not, not_lt, not_le]
      exact ⟨hValid, hYears.1, hYears.2, hShift⟩
    rw [if_neg hLocal, if_neg]
    simp only [not_or, not_lt]
    exact hUtc

theorem SaysZone.whole_minutes {part : List Char} {shift : Int} (h : SaysZone part shift) :
    shift % 60 = 0 := by
  rcases h with hUtc | hZulu | ⟨hSign, -, -, -⟩
  · rfl
  · rfl
  · rcases hSign with ⟨-, rfl⟩ | ⟨-, rfl⟩ <;> omega

theorem start_of_zone_letter {c : Char} (h : c.toUpper = 'U') :
    c.isDigit = false ∧ c ≠ '.' ∧ Text.isBlank c = false := by
  have hLetter : c = 'U' ∨ c = 'u' := by
    unfold Char.toUpper at h
    split at h
    · have hValue : c.val = 'U'.val - ('A'.val - 'a'.val) := by
        rw [← congrArg Char.val h, UInt32.add_sub_cancel]
      exact .inr (Char.ext (hValue.trans (by decide)))
    · exact .inl h
  rcases hLetter with rfl | rfl <;> decide

theorem SaysZone.start {part : List Char} {shift : Int} (h : SaysZone part shift)
    (rest : List Char) : NoFraction (part ++ rest) ∧ NoBlank (part ++ rest) := by
  have hOne : ∀ (c : Char) (cs : List Char),
      c.isDigit = false ∧ c ≠ '.' ∧ Text.isBlank c = false →
        NoFraction (c :: cs) ∧ NoBlank (c :: cs) := by
    rintro c cs ⟨hDigit, hPoint, hBlank⟩
    refine ⟨⟨?_, fun hHead => hPoint (Option.some.inj hHead)⟩, noBlank_cons hBlank⟩
    intro d hd
    cases hd
    exact hDigit
  rcases h with hUtc | hZulu | ⟨hSign, -, -, -⟩
  · cases part with
    | nil => cases hUtc
    | cons c cs => exact hOne c _ (start_of_zone_letter (List.cons.inj hUtc).1)
  · rcases hZulu with rfl | rfl <;> exact hOne _ _ (by decide)
  · rcases hSign with ⟨rfl, -⟩ | ⟨rfl | rfl, -⟩ <;> exact hOne _ _ (by decide)

theorem ofText_eq_ok_iff {cs : List Char} {t : Instant} :
    Instant.ofText cs = .ok t ↔ ∃ p, Says cs p ∧ p.InRange ∧ t = p.instant := by
  constructor
  · intro h
    obtain ⟨⟨date, cs₁⟩, hDate, h⟩ := bind_eq_ok_iff.mp h
    simp only at h
    split at h
    · cases h
    · rename_i mark cs₂
      split at h
      · rename_i hMark
        rw [pure_bind] at h
        obtain ⟨⟨time, cs₃⟩, hTime, h⟩ := bind_eq_ok_iff.mp h
        obtain ⟨⟨shift, cs₄⟩, hZone, hLocal⟩ := bind_eq_ok_iff.mp h
        simp only at hLocal
        split at hLocal
        · cases hLocal
        · rename_i hEnd
          have hBlank : Text.trimStart cs₄ = [] := by simpa using hEnd
          obtain ⟨_, rfl, hDateText⟩ := dateFields_scans.sound hDate
          obtain ⟨_, rfl, ds, hTimeText⟩ := timeFields_scans.sound hTime
          obtain ⟨_, rfl, hZoneText⟩ := offset_scans.sound hZone
          obtain ⟨hour, minute, second, nanos⟩ := time
          obtain rfl : nanos = nanosOf ds := hTimeText.nanos_eq
          have hMark' : mark = 'T' ∨ mark = 't' ∨ mark = ' ' := by
            simpa [or_assoc] using hMark
          have hSays := Says.mk (p := ⟨date, hour, minute, second, ds, shift⟩) hDateText hMark'
            hTimeText hZoneText (List.dropWhile_eq_nil_iff.mp hBlank)
          exact ⟨_, hSays, ofLocal_eq_ok_iff.mp hLocal⟩
      · cases h
  · rintro ⟨p, ⟨hDate, hMark, hTime, hZone, hEnding⟩, hRange, rfl⟩
    rename_i date time zone ending mark
    have hMark' : (mark = 'T' || mark = 't' || mark = ' ') = true := by
      rcases hMark with rfl | rfl | rfl <;> decide
    have hMarkDigit : NoDigit (mark :: (time ++ (zone ++ ending))) := by
      intro d hd
      cases hd
      rcases hMark with rfl | rfl | rfl <;> decide
    have hBlank : Text.trimStart ending = [] := List.dropWhile_eq_nil_iff.mpr hEnding
    rw [Instant.ofText, dateFields_scans.complete hDate hMarkDigit, ok_bind]
    simp only [hMark', if_true, pure_bind]
    rw [timeFields_scans.complete ⟨_, hTime⟩ (hZone.start ending), ok_bind]
    simp only
    rw [offset_scans.complete hZone trivial, ok_bind]
    simp only [hBlank]
    exact ofLocal_eq_ok_iff.mpr ⟨hRange, rfl⟩

/-- The text is a timestamp of the instant. -/
def Names (text : String) (t : Instant) : Prop :=
  ∃ p, Says text.toList p ∧ p.InRange ∧ t = p.instant

theorem parse_eq_ok_iff {text : String} {t : Instant} :
    Instant.parse text = .ok t ↔ Names text t := ofText_eq_ok_iff

/-- A text that is accepted names one instant. -/
theorem names_iff_eq_of_parse {text : String} {t : Instant} (h : Instant.parse text = .ok t)
    (t' : Instant) : Names text t' ↔ t' = t := by
  rw [← parse_eq_ok_iff, h, Except.ok.injEq, eq_comm]

end BlobFiles.Time
