import SheaSymphony.RunId

/-!
# The calendar

`civil_from_days` of `lane_claim.rs`, and its copies in `merge_lane.rs` and `rework.rs`,
against the calendar itself: a year has its months and a month its days
(`IsDate`), and one date follows the other (`nextDate`). The conversion counts years from
March; what it makes of a day of such a year is a date (`isDate_marchDate`), and as no two
dates stand for one day (`daysFromCivil_lt`), the dates of two days in a row are two dates
in a row.
-/

namespace SheaSymphony.Calendar

open Lanes (civilFromDays marchDate)

/-! ## The copies -/

/-- `civil_from_days` of `merge_lane.rs`. -/
def mergeLaneCivilFromDays : Int → Int × Nat × Nat := civilFromDays

/-- `civil_from_days` of `rework.rs`. -/
def reworkCivilFromDays : Int → Int × Nat × Nat := civilFromDays

/-- A value that `i64` holds. -/
def i64 (value : Int) : Option Int :=
  if -9223372036854775808 ≤ value ∧ value ≤ 9223372036854775807 then some value else none

/-- `civil_from_days` on machine integers; none where a step overflows. -/
def civilFromDays64 (daysSinceUnixEpoch : Int) : Option (Int × Nat × Nat) := do
  let days ← i64 (daysSinceUnixEpoch + 719468)
  let shifted ← if 0 ≤ days then some days else i64 (days - 146096)
  let era := shifted.tdiv 146097
  let eraStart ← i64 (era * 146097)
  let dayOfEra ← i64 (days - eraStart)
  let yearOfEra := (dayOfEra - dayOfEra.tdiv 1460 + dayOfEra.tdiv 36524
    - dayOfEra.tdiv 146096).tdiv 365
  let eraYear ← i64 (era * 400)
  let year ← i64 (yearOfEra + eraYear)
  let dayOfYear := dayOfEra - (365 * yearOfEra + yearOfEra.tdiv 4 - yearOfEra.tdiv 100)
  let monthPrime := (5 * dayOfYear + 2).tdiv 153
  let day := dayOfYear - (153 * monthPrime + 2).tdiv 5 + 1
  let month := monthPrime + if monthPrime < 10 then 3 else -9
  let year ← i64 (year + if month ≤ 2 then 1 else 0)
  return (year, month.toNat, day.toNat)

/-! ## Dates -/

structure IsDate (date : Int × Nat × Nat) : Prop where
  month : 1 ≤ date.2.1 ∧ date.2.1 ≤ 12
  day : 1 ≤ date.2.2 ∧ date.2.2 ≤ daysInMonth date.1 date.2.1

def nextDate (date : Int × Nat × Nat) : Int × Nat × Nat :=
  if date.2.2 < daysInMonth date.1 date.2.1 then (date.1, date.2.1, date.2.2 + 1)
  else if date.2.1 < 12 then (date.1, date.2.1 + 1, 1)
  else (date.1 + 1, 1, 1)

/-- By year, then by month, then by day. -/
def Earlier (date other : Int × Nat × Nat) : Prop :=
  date.1 < other.1 ∨ (date.1 = other.1
    ∧ (date.2.1 < other.2.1 ∨ (date.2.1 = other.2.1 ∧ date.2.2 < other.2.2)))

def daysOf (date : Int × Nat × Nat) : Int := daysFromCivil date.1 date.2.1 date.2.2

theorem daysInMonth_pos (year : Int) (month : Nat) : 28 ≤ daysInMonth year month := by
  unfold daysInMonth
  split
  · split <;> omega
  · omega
  · omega
  · omega
  · omega
  · omega

theorem isDate_nextDate {date : Int × Nat × Nat} (h : IsDate date) : IsDate (nextDate date) := by
  have hday := h.day
  have hmonth := h.month
  unfold nextDate
  split
  · next hmore => exact ⟨h.month, by simp only; omega, hmore⟩
  · split
    · next hless =>
      have hlong := daysInMonth_pos date.1 (date.2.1 + 1)
      exact ⟨⟨by simp only; omega, by simp only; omega⟩, le_rfl, by simp only; omega⟩
    · have hlong := daysInMonth_pos (date.1 + 1) 1
      exact ⟨⟨le_rfl, by simp only; omega⟩, le_rfl, by simp only; omega⟩

/-! ## The days before a month -/

theorem daysFromCivil_day (year : Int) (month day : Nat) :
    daysFromCivil year month day = daysFromCivil year month 0 + day := by
  simp only [daysFromCivil]
  omega

theorem yearDays_succ (year : Int) :
    year / 400 * 146097 + (year - year / 400 * 400) * 365 + (year - year / 400 * 400) / 4
        - (year - year / 400 * 400) / 100
      = (year - 1) / 400 * 146097 + (year - 1 - (year - 1) / 400 * 400) * 365
        + (year - 1 - (year - 1) / 400 * 400) / 4 - (year - 1 - (year - 1) / 400 * 400) / 100
        + 365 + if isLeapYear year then 1 else 0 := by
  have hleap : (isLeapYear year = true) ↔
      year % 4 = 0 ∧ (year % 100 ≠ 0 ∨ year % 400 = 0) := by
    simp [isLeapYear]
  by_cases h : isLeapYear year = true
  · rw [if_pos h]
    have hyear := hleap.mp h
    omega
  · rw [if_neg h]
    have hyear := mt hleap.mpr h
    omega

theorem daysFromCivil_nextMonth (year : Int) {month : Nat} (h : 1 ≤ month) (hlast : month < 12) :
    daysFromCivil year (month + 1) 0
      = daysFromCivil year month 0 + daysInMonth year month := by
  by_cases hfebruary : month = 2
  · subst hfebruary
    have hyear := yearDays_succ year
    have hmarch : ¬ 2 + 1 ≤ 2 := by decide
    simp only [daysFromCivil, daysInMonth, le_refl, if_true, if_neg hmarch]
    cases hleap : isLeapYear year with
    | true =>
        simp only [hleap, if_true] at hyear ⊢
        omega
    | false =>
        simp only [hleap, Bool.false_eq_true, if_false] at hyear ⊢
        omega
  · have hcases : month = 1 ∨ month = 3 ∨ month = 4 ∨ month = 5 ∨ month = 6 ∨ month = 7 ∨ month = 8
        ∨ month = 9 ∨ month = 10 ∨ month = 11 := by omega
    rcases hcases with rfl | rfl | rfl | rfl | rfl | rfl | rfl | rfl | rfl | rfl
    all_goals
      simp [daysFromCivil, daysInMonth]
      omega

theorem daysFromCivil_nextYear (year : Int) :
    daysFromCivil (year + 1) 1 0 = daysFromCivil year 12 0 + 31 := by
  simp [daysFromCivil]
  omega

theorem daysFromCivil_month_le (year : Int) {month later : Nat} (h : 1 ≤ month)
    (hlater : month < later) (hlast : later ≤ 12) :
    daysFromCivil year month 0 + daysInMonth year month ≤ daysFromCivil year later 0 := by
  induction later, hlater using Nat.le_induction with
  | base => exact (daysFromCivil_nextMonth year h (by omega)).ge
  | succ later hlater ih =>
      have hnext := daysFromCivil_nextMonth year (show 1 ≤ later by omega) (by omega)
      have hbefore := ih (by omega)
      omega

theorem daysFromCivil_year_le {year later : Int} (h : year < later) :
    daysFromCivil year 12 0 + 31 ≤ daysFromCivil later 1 0 := by
  obtain ⟨count, rfl⟩ : ∃ count : Nat, later = year + 1 + count :=
    ⟨(later - year - 1).toNat, by omega⟩
  induction count with
  | zero => exact (daysFromCivil_nextYear year).symm.trans_le (by rw [Int.ofNat_zero, Int.add_zero])
  | succ count ih =>
      have hnext := daysFromCivil_nextYear (year + 1 + count)
      have hmonths := daysFromCivil_month_le (year + 1 + count) le_rfl (show 1 < 12 by decide) le_rfl
      have hbefore := ih (by omega)
      have hyear : year + 1 + ((count + 1 : Nat) : Int) = year + 1 + count + 1 := by omega
      rw [hyear, hnext]
      omega

/-! ## Dates and days -/

variable {date other : Int × Nat × Nat}

theorem daysOf_month_le (h : IsDate date) :
    daysOf date ≤ daysFromCivil date.1 12 0 + 31 := by
  have hday := h.day
  have hmonth := h.month
  rw [daysOf, daysFromCivil_day]
  by_cases hlast : date.2.1 = 12
  · rw [hlast] at hday ⊢
    have hlong : daysInMonth date.1 12 = 31 := rfl
    omega
  · have hmonths := daysFromCivil_month_le date.1 hmonth.1
      (show date.2.1 < 12 by omega) le_rfl
    omega

theorem daysOf_lt (h : IsDate date) (hother : IsDate other) (hearlier : Earlier date other) :
    daysOf date < daysOf other := by
  have hday := h.day
  have hlater := hother.day
  rcases hearlier with hyear | ⟨hyear, hmonth | ⟨hmonth, hless⟩⟩
  · have hfirst := daysFromCivil_year_le hyear
    have hlast := daysOf_month_le h
    have hmonths : daysFromCivil other.1 1 0 ≤ daysFromCivil other.1 other.2.1 0 := by
      by_cases hone : other.2.1 = 1
      · rw [hone]
      · have hmonths := daysFromCivil_month_le other.1 le_rfl
          (show 1 < other.2.1 by have := hother.month; omega) hother.month.2
        omega
    have hsplit : daysOf other = daysFromCivil other.1 other.2.1 0 + other.2.2 :=
      daysFromCivil_day _ _ _
    omega
  · have hmonths := daysFromCivil_month_le date.1 h.month.1 hmonth hother.month.2
    rw [daysOf, daysOf, daysFromCivil_day, daysFromCivil_day other.1, ← hyear]
    omega
  · rw [daysOf, daysOf, daysFromCivil_day, daysFromCivil_day other.1, ← hyear, ← hmonth]
    omega

theorem earlier_trichotomy (date other : Int × Nat × Nat) :
    date = other ∨ Earlier date other ∨ Earlier other date := by
  obtain ⟨year, month, day⟩ := date
  obtain ⟨year', month', day'⟩ := other
  simp only [Earlier, Prod.mk.injEq]
  omega

theorem daysOf_inj (h : IsDate date) (hother : IsDate other) (heq : daysOf date = daysOf other) :
    date = other := by
  rcases earlier_trichotomy date other with hsame | hless | hless
  · exact hsame
  · exact absurd (daysOf_lt h hother hless) (by omega)
  · exact absurd (daysOf_lt hother h hless) (by omega)

theorem earlier_of_daysOf_lt (h : IsDate date) (hother : IsDate other)
    (hless : daysOf date < daysOf other) : Earlier date other := by
  rcases earlier_trichotomy date other with rfl | hearlier | hlater
  · exact absurd hless (lt_irrefl _)
  · exact hearlier
  · exact absurd (daysOf_lt hother h hlater) (by omega)

theorem daysOf_nextDate (h : IsDate date) : daysOf (nextDate date) = daysOf date + 1 := by
  have hday := h.day
  have hmonth := h.month
  rw [nextDate, daysOf, daysOf, daysFromCivil_day date.1]
  split
  · simp only
    rw [daysFromCivil_day]
    omega
  · split
    · next hless =>
      simp only
      rw [daysFromCivil_day, daysFromCivil_nextMonth date.1 hmonth.1 hless]
      omega
    · have hlast : date.2.1 = 12 := by omega
      have hlong : daysInMonth date.1 date.2.1 = 31 := by rw [hlast]; rfl
      simp only
      rw [daysFromCivil_day, daysFromCivil_nextYear, hlast]
      omega

/-! ## The conversion -/

/-- The days of a year that begins in March; its last month is the February of the next. -/
structure InYear (year dayOfYear : Int) : Prop where
  first : 0 ≤ dayOfYear
  last : dayOfYear ≤ 365
  leap : dayOfYear = 365 → isLeapYear (year + 1) = true

theorem isDate_marchDate {year dayOfYear : Int} (h : InYear year dayOfYear) :
    IsDate (marchDate year dayOfYear) := by
  have hfirst := h.first
  have hlast := h.last
  have hcases : (5 * dayOfYear + 2) / 153 = 0 ∨ (5 * dayOfYear + 2) / 153 = 1
      ∨ (5 * dayOfYear + 2) / 153 = 2 ∨ (5 * dayOfYear + 2) / 153 = 3
      ∨ (5 * dayOfYear + 2) / 153 = 4 ∨ (5 * dayOfYear + 2) / 153 = 5
      ∨ (5 * dayOfYear + 2) / 153 = 6 ∨ (5 * dayOfYear + 2) / 153 = 7
      ∨ (5 * dayOfYear + 2) / 153 = 8 ∨ (5 * dayOfYear + 2) / 153 = 9
      ∨ (5 * dayOfYear + 2) / 153 = 10 ∨ (5 * dayOfYear + 2) / 153 = 11 := by omega
  have hleap : 28 ≤ daysInMonth (year + 1) 2
      ∧ (dayOfYear = 365 → daysInMonth (year + 1) 2 = 29) :=
    ⟨daysInMonth_pos _ _, fun hday => if_pos (h.leap hday)⟩
  rcases hcases with hm | hm | hm | hm | hm | hm | hm | hm | hm | hm | hm | hm
  case inr.inr.inr.inr.inr.inr.inr.inr.inr.inr.inr =>
    constructor
    · simp [marchDate, hm]
    · simp [marchDate, hm]
      omega
  all_goals
    constructor
    · simp [marchDate, hm]
    · simp [marchDate, hm, daysInMonth]
      omega

theorem inYear_of_dayOfEra {dayOfEra yearOfEra : Int} (h0 : 0 ≤ dayOfEra) (h1 : dayOfEra ≤ 146096)
    (hy : yearOfEra
      = (dayOfEra - dayOfEra / 1460 + dayOfEra / 36524 - dayOfEra / 146096) / 365) (era : Int) :
    InYear (yearOfEra + era * 400)
      (dayOfEra - (365 * yearOfEra + yearOfEra / 4 - yearOfEra / 100)) := by
  obtain ⟨hfirst, hlast⟩ := Lanes.dayOfYear_bounds h0 h1 hy
  refine ⟨hfirst, hlast, fun hday => ?_⟩
  have hleap : isLeapYear (yearOfEra + era * 400 + 1) = true ↔
      (yearOfEra + 1) % 4 = 0 ∧ ((yearOfEra + 1) % 100 ≠ 0 ∨ (yearOfEra + 1) % 400 = 0) := by
    simp only [isLeapYear, Bool.and_eq_true, Bool.or_eq_true, decide_eq_true_eq, ne_eq]
    omega
  rw [hleap]
  -- the last day of a century is no leap day, that of the era is one
  rcases Int.lt_or_eq_of_le h1 with h1 | rfl
  · obtain ⟨hcentury, hyear⟩ := Lanes.century_of_dayOfEra h0 h1 hy
    rw [hcentury] at hday
    have hq : dayOfEra / 36524 = 0 ∨ dayOfEra / 36524 = 1 ∨ dayOfEra / 36524 = 2
        ∨ dayOfEra / 36524 = 3 := by omega
    have hk : yearOfEra % 4 = 0 ∨ yearOfEra % 4 = 1 ∨ yearOfEra % 4 = 2 ∨ yearOfEra % 4 = 3 := by
      omega
    rcases hq with hq | hq | hq | hq
    all_goals
      rw [hq] at hday hyear
      rcases hk with hk | hk | hk | hk
      all_goals omega
  · omega

theorem civilFromDays_eq_marchDate {days : Int} (h : 0 ≤ days) :
    ∃ year dayOfYear, InYear year dayOfYear ∧ civilFromDays days = marchDate year dayOfYear := by
  obtain ⟨era, dayOfEra, yearOfEra, -, -, h0, h1, hy, hdate⟩ := Lanes.civilFromDays_march h
  exact ⟨_, _, inYear_of_dayOfEra h0 h1 hy era, hdate⟩

theorem isDate_civilFromDays (n : Nat) : IsDate (civilFromDays n) := by
  obtain ⟨year, dayOfYear, hinYear, heq⟩ := civilFromDays_eq_marchDate (Int.natCast_nonneg n)
  exact heq ▸ isDate_marchDate hinYear

theorem daysOf_civilFromDays (n : Nat) : daysOf (civilFromDays n) = n :=
  (Lanes.daysFromCivil_civilFromDays (Int.natCast_nonneg n)).2

/-! ## Machine integers -/

theorem i64_eq_some {value : Int} (h : -9223372036854775808 ≤ value)
    (h' : value ≤ 9223372036854775807) : i64 value = some value := if_pos ⟨h, h'⟩

theorem i64_eq_none {value : Int} (h : 9223372036854775807 < value) : i64 value = none :=
  if_neg fun hfits => absurd hfits.2 (by omega)

theorem civilFromDays64_eq {daysSinceUnixEpoch : Int} (h : 0 ≤ daysSinceUnixEpoch) :
    civilFromDays64 daysSinceUnixEpoch =
      if daysSinceUnixEpoch + 719468 ≤ 9223372036854775807 then
        some (civilFromDays daysSinceUnixEpoch)
      else none := by
  have hshifted : 0 ≤ daysSinceUnixEpoch + 719468 := by omega
  simp only [civilFromDays64, civilFromDays]
  generalize daysSinceUnixEpoch + 719468 = days at hshifted
  by_cases hfits : days ≤ 9223372036854775807
  · have hera : days.tdiv 146097 = days / 146097 := Int.tdiv_eq_ediv_of_nonneg hshifted
    have hstart : i64 (days.tdiv 146097 * 146097) = some (days.tdiv 146097 * 146097) :=
      i64_eq_some (by omega) (by omega)
    have hdoe : i64 (days - days.tdiv 146097 * 146097) = some (days - days.tdiv 146097 * 146097) :=
      i64_eq_some (by omega) (by omega)
    have heraYear : i64 (days.tdiv 146097 * 400) = some (days.tdiv 146097 * 400) :=
      i64_eq_some (by omega) (by omega)
    simp only [if_pos hfits, i64_eq_some (show -9223372036854775808 ≤ days by omega) hfits,
      if_pos hshifted, hstart, hdoe, heraYear, Option.bind_eq_bind, Option.bind_some,
      Option.pure_def]
    obtain ⟨dayOfEra, hdayOfEra⟩ : ∃ dayOfEra, dayOfEra = days - days.tdiv 146097 * 146097 :=
      ⟨_, rfl⟩
    rw [← hdayOfEra]
    have hdoe0 : 0 ≤ dayOfEra := by omega
    have hdoe1 : dayOfEra ≤ 146096 := by omega
    obtain ⟨yearOfEra, hyearOfEra⟩ : ∃ yearOfEra, yearOfEra = (dayOfEra - dayOfEra.tdiv 1460
        + dayOfEra.tdiv 36524 - dayOfEra.tdiv 146096).tdiv 365 := ⟨_, rfl⟩
    have hyoe : 0 ≤ yearOfEra ∧ yearOfEra ≤ 399 := by
      rw [hyearOfEra, Int.tdiv_eq_ediv_of_nonneg hdoe0, Int.tdiv_eq_ediv_of_nonneg hdoe0,
        Int.tdiv_eq_ediv_of_nonneg hdoe0, Int.tdiv_eq_ediv_of_nonneg (by omega)]
      omega
    rw [← hyearOfEra]
    have hwhole : ∀ extra : Int, 0 ≤ extra → extra ≤ 1 →
        i64 (yearOfEra + days.tdiv 146097 * 400 + extra)
          = some (yearOfEra + days.tdiv 146097 * 400 + extra) :=
      fun extra h0 h1 => i64_eq_some (by omega) (by omega)
    have hplain := hwhole 0 le_rfl zero_le_one
    rw [Int.add_zero] at hplain
    rw [hplain, Option.bind_some]
    have hextra : ∀ month : Int, 0 ≤ (if month ≤ 2 then 1 else 0 : Int)
        ∧ (if month ≤ 2 then 1 else 0 : Int) ≤ 1 := by
      intro month
      split
      · exact ⟨zero_le_one, le_rfl⟩
      · exact ⟨le_rfl, zero_le_one⟩
    rw [hwhole _ (hextra _).1 (hextra _).2, Option.bind_some]
  · rw [if_neg hfits, i64_eq_none (by omega)]
    rfl

/-! ## The calendar of the conversion -/

/-- The days from the first on become the dates of the calendar, one after the other. -/
structure FollowsCalendar (convert : Int → Int × Nat × Nat) : Prop where
  isDate : ∀ n : Nat, IsDate (convert n)
  epoch : convert 0 = (1970, 1, 1)
  successor : ∀ n : Nat, convert (n + 1 : Nat) = nextDate (convert n)
  injective : Function.Injective fun n : Nat => convert n
  increasing : ∀ m n : Nat, m < n → Earlier (convert m) (convert n)

theorem followsCalendar_civilFromDays : FollowsCalendar civilFromDays where
  isDate := isDate_civilFromDays
  epoch := by decide
  successor := by
    intro n
    refine daysOf_inj (isDate_civilFromDays _) (isDate_nextDate (isDate_civilFromDays n)) ?_
    rw [daysOf_civilFromDays, daysOf_nextDate (isDate_civilFromDays n), daysOf_civilFromDays]
    exact Int.natCast_succ n
  injective := by
    intro m n heq
    have hdays := congrArg daysOf heq
    simp only [daysOf_civilFromDays] at hdays
    exact Int.natCast_inj.mp hdays
  increasing := by
    intro m n hless
    refine earlier_of_daysOf_lt (isDate_civilFromDays m) (isDate_civilFromDays n) ?_
    rw [daysOf_civilFromDays, daysOf_civilFromDays]
    exact Int.ofNat_lt.mpr hless

/-- All three copies follow the calendar, and on machine integers the conversion gives the same
date wherever the days since the epoch leave room for those before it. -/
theorem civilFromDays_followsCalendar :
    (∀ convert ∈ [civilFromDays, mergeLaneCivilFromDays, reworkCivilFromDays],
        FollowsCalendar convert)
      ∧ ∀ n : Nat, civilFromDays64 n =
        if (n : Int) + 719468 ≤ 9223372036854775807 then some (civilFromDays n) else none := by
  refine ⟨fun convert hmem => ?_, fun n => civilFromDays64_eq (Int.natCast_nonneg n)⟩
  have hsame : convert = civilFromDays := by
    simpa [mergeLaneCivilFromDays, reworkCivilFromDays] using hmem
  exact hsame ▸ followsCalendar_civilFromDays

end SheaSymphony.Calendar
