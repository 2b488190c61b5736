import SheaSymphony.DateTime
import SheaSymphony.LaneClaim

/-!
# Run ids

`generate_run_id` of `lane_claim.rs` writes the minute of the run as a calendar
stamp, the issue, the lane, and the low sixteen bits of the millisecond clock.
The stamp pins the minute, for the calendar conversion is undone by the one that
counts days (`daysFromCivil_civilFromDays`); two moments of one minute differ by
less than the sixteen bits can show, so that no two runs share an id
(`generateRunId_eq_iff`).

The conversion runs on `i64`, which no time in milliseconds of `u64` can
overflow; its divisions truncate.
-/

namespace SheaSymphony.Lanes

open Codes

/-- Year, month and day, counted from March of the year 0 in eras of 400 years. -/
def civilFromDays (daysSinceUnixEpoch : Int) : Int × Nat × Nat :=
  let days := daysSinceUnixEpoch + 719468
  let era := (if 0 ≤ days then days else days - 146096).tdiv 146097
  let dayOfEra := days - era * 146097
  let yearOfEra := (dayOfEra - dayOfEra.tdiv 1460 + dayOfEra.tdiv 36524
    - dayOfEra.tdiv 146096).tdiv 365
  let year := yearOfEra + era * 400
  let dayOfYear := dayOfEra - (365 * yearOfEra + yearOfEra.tdiv 4 - yearOfEra.tdiv 100)
  let monthPrime := (5 * dayOfYear + 2).tdiv 153
  let day := dayOfYear - (153 * monthPrime + 2).tdiv 5 + 1
  let month := monthPrime + if monthPrime < 10 then 3 else -9
  (year + (if month ≤ 2 then 1 else 0), month.toNat, day.toNat)

def formatUtcCompact (secondsSinceUnixEpoch : Nat) : String :=
  let days : Int := (secondsSinceUnixEpoch / 86400 : Nat)
  let secondsOfDay := secondsSinceUnixEpoch % 86400
  let (year, month, day) := civilFromDays days
  let hour := secondsOfDay / 3600
  let minute := secondsOfDay % 3600 / 60
  String.ofList (Codes.padded 4 year.toNat ++ Codes.padded 2 month ++ Codes.padded 2 day
    ++ 'T' :: Codes.padded 2 hour ++ Codes.padded 2 minute ++ ['Z'])

/-- The issue as a run id shows it. -/
def runIssue (issue : String) : String := Text.trimStartMatches '#' (Text.trim issue)

def generateRunId (nowMs : UInt64) (issue : String) (lane : LaneClaimLane) : String :=
  let seconds := nowMs.toNat / 1000
  let suffix := nowMs.toNat % 65536
  formatUtcCompact seconds ++ "-issue" ++ runIssue issue ++ "-" ++ lane.asStr ++ "-"
    ++ String.ofList (Codes.hexDigits 4 suffix)

/-! ## The calendar -/

theorem century_of_dayOfEra {dayOfEra yearOfEra : Int} (h0 : 0 ≤ dayOfEra) (h1 : dayOfEra < 146096)
    (hy : yearOfEra
      = (dayOfEra - dayOfEra / 1460 + dayOfEra / 36524 - dayOfEra / 146096) / 365) :
    yearOfEra / 100 = dayOfEra / 36524
      ∧ yearOfEra = (dayOfEra - dayOfEra / 1460 + dayOfEra / 36524) / 365 := by
  have hlast : dayOfEra / 146096 = 0 := by omega
  rw [hlast, Int.sub_zero] at hy
  have hq : dayOfEra / 36524 = 0 ∨ dayOfEra / 36524 = 1 ∨ dayOfEra / 36524 = 2
      ∨ dayOfEra / 36524 = 3 := by omega
  refine ⟨?_, hy⟩
  rcases hq with hq | hq | hq | hq <;> omega

theorem dayOfYear_bounds {dayOfEra yearOfEra : Int} (h0 : 0 ≤ dayOfEra) (h1 : dayOfEra ≤ 146096)
    (hy : yearOfEra
      = (dayOfEra - dayOfEra / 1460 + dayOfEra / 36524 - dayOfEra / 146096) / 365) :
    0 ≤ dayOfEra - (365 * yearOfEra + yearOfEra / 4 - yearOfEra / 100)
      ∧ dayOfEra - (365 * yearOfEra + yearOfEra / 4 - yearOfEra / 100) ≤ 365 := by
  rcases Int.lt_or_eq_of_le h1 with h1 | rfl
  · obtain ⟨hcentury, hyear⟩ := century_of_dayOfEra h0 h1 hy
    rw [hcentury]
    omega
  · omega

/-- A date that fits its digits. -/
structure IsCivil (year : Int) (month day : Nat) : Prop where
  year : 0 ≤ year
  month : month < 13
  day : day < 32

/-- The date of a day of a year that begins in March. -/
def marchDate (year dayOfYear : Int) : Int × Nat × Nat :=
  let monthPrime := (5 * dayOfYear + 2) / 153
  let day := dayOfYear - (153 * monthPrime + 2) / 5 + 1
  let month := monthPrime + if monthPrime < 10 then 3 else -9
  (year + (if month ≤ 2 then 1 else 0), month.toNat, day.toNat)

theorem daysFromCivil_march {year dayOfYear : Int} (hyear : 0 ≤ year) (h0 : 0 ≤ dayOfYear)
    (h1 : dayOfYear ≤ 365) {date : Int × Nat × Nat} (hdate : marchDate year dayOfYear = date) :
    IsCivil date.1 date.2.1 date.2.2
      ∧ daysFromCivil date.1 date.2.1 date.2.2
        = year / 400 * 146097 + (year - year / 400 * 400) * 365
          + (year - year / 400 * 400) / 4 - (year - year / 400 * 400) / 100 + dayOfYear
          - 719468 := by
  subst hdate
  simp only [marchDate]
  generalize hprime : (5 * dayOfYear + 2) / 153 = monthPrime
  generalize hday : dayOfYear - (153 * monthPrime + 2) / 5 + 1 = day
  have hdays : 1 ≤ day ∧ day ≤ 31 := by omega
  have hdayOfYear : (153 * monthPrime + 2) / 5 + day - 1 = dayOfYear := by omega
  have hdayNat : (day.toNat : Int) = day := Int.toNat_of_nonneg (by omega)
  by_cases hp : monthPrime < 10
  · have hlate : ¬ monthPrime + 3 ≤ 2 := by omega
    have hmonthNat : ((monthPrime + 3).toNat : Int) = monthPrime + 3 :=
      Int.toNat_of_nonneg (by omega)
    rw [if_pos hp, if_neg hlate, Int.add_zero]
    refine ⟨⟨hyear, by omega, by omega⟩, ?_⟩
    simp only [daysFromCivil, if_neg (show ¬ (monthPrime + 3).toNat ≤ 2 by omega), hmonthNat,
      hdayNat, Int.add_sub_cancel]
    omega
  · have hearly : monthPrime + -9 ≤ 2 := by omega
    have hmonthNat : ((monthPrime + -9).toNat : Int) = monthPrime + -9 :=
      Int.toNat_of_nonneg (by omega)
    rw [if_neg hp, if_pos hearly]
    refine ⟨⟨by omega, by omega, by omega⟩, ?_⟩
    simp only [daysFromCivil, if_pos (show (monthPrime + -9).toNat ≤ 2 by omega), hmonthNat,
      hdayNat, Int.add_sub_cancel, Int.neg_add_cancel_right]
    omega

theorem civilFromDays_march {days : Int} (h : 0 ≤ days) :
    ∃ era dayOfEra yearOfEra : Int, days + 719468 = era * 146097 + dayOfEra ∧ 0 ≤ era
      ∧ 0 ≤ dayOfEra ∧ dayOfEra ≤ 146096
      ∧ yearOfEra = (dayOfEra - dayOfEra / 1460 + dayOfEra / 36524 - dayOfEra / 146096) / 365
      ∧ civilFromDays days = marchDate (yearOfEra + era * 400)
        (dayOfEra - (365 * yearOfEra + yearOfEra / 4 - yearOfEra / 100)) := by
  have hera : (if 0 ≤ days + 719468 then days + 719468 else days + 719468 - 146096).tdiv 146097
      = (days + 719468) / 146097 := by
    rw [if_pos (by omega), Int.tdiv_eq_ediv_of_nonneg (by omega)]
  obtain ⟨dayOfEra, hdoe⟩ : ∃ dayOfEra, dayOfEra
      = days + 719468 - (days + 719468) / 146097 * 146097 := ⟨_, rfl⟩
  have hdoe0 : 0 ≤ dayOfEra := by omega
  have hdoe1 : dayOfEra ≤ 146096 := by omega
  obtain ⟨yearOfEra, hyoe⟩ : ∃ yearOfEra, yearOfEra
      = (dayOfEra - dayOfEra / 1460 + dayOfEra / 36524 - dayOfEra / 146096) / 365 := ⟨_, rfl⟩
  have hyoe0 : 0 ≤ yearOfEra := by omega
  have hfirst := (dayOfYear_bounds hdoe0 hdoe1 hyoe).1
  refine ⟨(days + 719468) / 146097, dayOfEra, yearOfEra, by omega, by omega, hdoe0, hdoe1, hyoe, ?_⟩
  simp only [civilFromDays, hera, ← hdoe]
  rw [Int.tdiv_eq_ediv_of_nonneg hdoe0, Int.tdiv_eq_ediv_of_nonneg hdoe0,
    Int.tdiv_eq_ediv_of_nonneg hdoe0, Int.tdiv_eq_ediv_of_nonneg (by omega), ← hyoe,
    Int.tdiv_eq_ediv_of_nonneg hyoe0, Int.tdiv_eq_ediv_of_nonneg hyoe0,
    Int.tdiv_eq_ediv_of_nonneg (by omega), Int.tdiv_eq_ediv_of_nonneg (by omega)]
  rfl

theorem daysFromCivil_civilFromDays {days : Int} (h : 0 ≤ days) :
    IsCivil (civilFromDays days).1 (civilFromDays days).2.1 (civilFromDays days).2.2
      ∧ daysFromCivil (civilFromDays days).1 (civilFromDays days).2.1 (civilFromDays days).2.2
        = days := by
  obtain ⟨era, dayOfEra, yearOfEra, hdays, hera, hdoe0, hdoe1, hyoe, hdate⟩ := civilFromDays_march h
  obtain ⟨hdoy0, hdoy1⟩ := dayOfYear_bounds hdoe0 hdoe1 hyoe
  have hyears : 0 ≤ yearOfEra ∧ yearOfEra ≤ 399 := by omega
  obtain ⟨hcivil, hinverse⟩ := daysFromCivil_march (by omega) hdoy0 hdoy1 hdate.symm
  refine ⟨hcivil, hinverse.trans ?_⟩
  have hyearEra : (yearOfEra + era * 400) / 400 = era := by omega
  rw [hyearEra, Int.add_sub_cancel]
  omega

theorem civilFromDays_inj {days days' : Int} (h : 0 ≤ days) (h' : 0 ≤ days')
    (heq : civilFromDays days = civilFromDays days') : days = days' := by
  rw [← (daysFromCivil_civilFromDays h).2, heq, (daysFromCivil_civilFromDays h').2]

/-! ## The parts of an id -/

/-- The digits of the stamp's date. -/
def stampDate (date : Int × Nat × Nat) : List Char :=
  Codes.padded 4 date.1.toNat ++ (Codes.padded 2 date.2.1 ++ Codes.padded 2 date.2.2)

theorem toList_formatUtcCompact (seconds : Nat) :
    (formatUtcCompact seconds).toList
      = stampDate (civilFromDays (seconds / 86400 : Nat)) ++ 'T'
        :: (Codes.padded 2 (seconds % 86400 / 3600)
          ++ (Codes.padded 2 (seconds % 86400 % 3600 / 60) ++ ['Z'])) := by
  simp [formatUtcCompact, stampDate]

theorem isDigit_of_mem_stampDate {date : Int × Nat × Nat} {c : Char} (h : c ∈ stampDate date) :
    c.isDigit = true := by
  simp only [stampDate, List.mem_append] at h
  rcases h with h | h | h <;> exact isDigit_of_mem_padded h

theorem stampDate_inj {date date' : Int × Nat × Nat} (h : IsCivil date.1 date.2.1 date.2.2)
    (h' : IsCivil date'.1 date'.2.1 date'.2.2) (heq : stampDate date = stampDate date') :
    date = date' := by
  have hlength : ∀ {date : Int × Nat × Nat}, IsCivil date.1 date.2.1 date.2.2 →
      (padded 2 date.2.1 ++ padded 2 date.2.2).length = 4 := by
    intro date hdate
    have := hdate.month
    have := hdate.day
    rw [List.length_append, length_padded (by decide) (by omega),
      length_padded (by decide) (by omega)]
  obtain ⟨hyear, hrest⟩ := List.append_inj' heq (by rw [hlength h, hlength h'])
  have hmonth := h.month
  have hmonth' := h'.month
  obtain ⟨hmonth, hday⟩ := padded_append_inj (by decide) (by omega) (by omega) hrest
  have hyearNat := padded_injective 4 hyear
  have hyear0 := h.year
  have hyear0' := h'.year
  obtain ⟨year, month, day⟩ := date
  obtain ⟨year', month', day'⟩ := date'
  simp only [Prod.mk.injEq]
  exact ⟨by omega, hmonth, padded_injective 2 hday⟩

theorem formatUtcCompact_inj {seconds seconds' : Nat}
    (h : formatUtcCompact seconds = formatUtcCompact seconds') : seconds / 60 = seconds' / 60 := by
  have hlist := congrArg String.toList h
  rw [toList_formatUtcCompact, toList_formatUtcCompact] at hlist
  have hT : ∀ date, 'T' ∉ stampDate date := by
    intro date hmem
    have hdigit := isDigit_of_mem_stampDate hmem
    revert hdigit
    decide
  obtain ⟨hdate, htime⟩ := terminated_inj (hT _) (hT _) hlist
  obtain ⟨hhour, htime⟩ := padded_append_inj (by decide) (by omega) (by omega) htime
  obtain ⟨hminute, -⟩ := padded_append_inj (by decide) (by omega) (by omega) htime
  have hdays0 : ∀ n : Nat, (0 : Int) ≤ n := fun n => by omega
  have hdays := civilFromDays_inj (hdays0 _) (hdays0 _)
    (stampDate_inj (daysFromCivil_civilFromDays (hdays0 _)).1
      (daysFromCivil_civilFromDays (hdays0 _)).1 hdate)
  omega

theorem dash_not_mem_formatUtcCompact (seconds : Nat) :
    '-' ∉ (formatUtcCompact seconds).toList := by
  rw [toList_formatUtcCompact]
  intro h
  have hdigit : ∀ {c : Char}, c.isDigit = true → c ≠ '-' := by
    rintro c hc rfl
    cases hc
  simp only [List.mem_append, List.mem_cons, List.not_mem_nil, or_false] at h
  rcases h with h | h | h | h | h
  · exact hdigit (isDigit_of_mem_stampDate h) rfl
  · cases h
  · exact hdigit (isDigit_of_mem_padded h) rfl
  · exact hdigit (isDigit_of_mem_padded h) rfl
  · cases h

theorem dash_not_mem_hexDigits (w n : Nat) : '-' ∉ Codes.hexDigits w n := by
  intro h
  have halnum := isAlphanum_of_mem_hexDigits h
  revert halnum
  decide

theorem dash_not_mem_asStr (lane : LaneClaimLane) : '-' ∉ lane.asStr.toList := by
  cases lane <;> decide

theorem laneClaimLane_asStr_injective : Function.Injective LaneClaimLane.asStr := by
  intro lane lane' h
  cases lane <;> cases lane' <;> first | rfl | exact absurd h (by decide)

theorem toList_generateRunId (nowMs : UInt64) (issue : String) (lane : LaneClaimLane) :
    (generateRunId nowMs issue lane).toList
      = (formatUtcCompact (nowMs.toNat / 1000)).toList ++ '-' :: ("issue".toList
        ++ (((runIssue issue).toList ++ '-' :: lane.asStr.toList)
          ++ '-' :: Codes.hexDigits 4 (nowMs.toNat % 65536))) := by
  simp [generateRunId]

/-- Two runs share an id only if they are of one millisecond, issue and lane. -/
theorem generateRunId_eq_iff (nowMs nowMs' : UInt64) (issue issue' : String)
    (lane lane' : LaneClaimLane) :
    generateRunId nowMs issue lane = generateRunId nowMs' issue' lane' ↔
      nowMs = nowMs' ∧ runIssue issue = runIssue issue' ∧ lane = lane' := by
  constructor
  · intro h
    have hlist := congrArg String.toList h
    rw [toList_generateRunId, toList_generateRunId] at hlist
    obtain ⟨hstamp, hrest⟩ := Codes.terminated_inj (dash_not_mem_formatUtcCompact _)
      (dash_not_mem_formatUtcCompact _) hlist
    have hrest := List.append_cancel_left hrest
    obtain ⟨hfront, hsuffix⟩ := Codes.terminated_inj_last (dash_not_mem_hexDigits _ _)
      (dash_not_mem_hexDigits _ _) hrest
    obtain ⟨hissue, hlane⟩ := Codes.terminated_inj_last (dash_not_mem_asStr _)
      (dash_not_mem_asStr _) hfront
    -- one minute is shorter than the suffix can count
    have hminute := formatUtcCompact_inj (String.toList_inj.mp hstamp)
    have hbits := Codes.hexDigits_inj hsuffix
    refine ⟨UInt64.toNat_inj.mp (by omega), String.toList_inj.mp hissue,
      laneClaimLane_asStr_injective (String.toList_inj.mp hlane)⟩
  · rintro ⟨rfl, hissue, rfl⟩
    rw [generateRunId, generateRunId, hissue]

example : generateRunId 1778904900123 "#244" .main = "20260516T0415Z-issue244-main-a21b" := by
  decide

end SheaSymphony.Lanes
