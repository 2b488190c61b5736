import SheaSymphony.Codes

/-!
# Date-times with an offset

A civil date and time with a UTC offset, as the `time` crate stores them; two
values are the same moment when their `unixNanos` agree, whatever their
offsets. RFC 3339 text is that crate's business: `Rfc3339` is its formatter
and parser, of which only one documented fact is used - text written by the
formatter parses back to the moment it was written for.
-/

def isLeapYear (year : Int) : Bool :=
  year % 4 = 0 && (year % 100 ≠ 0 || year % 400 = 0)

def daysInMonth (year : Int) : Nat → Nat
  | 2 => if isLeapYear year then 29 else 28
  | 4 | 6 | 9 | 11 => 30
  | _ => 31

/-- Days from 1970-01-01 to a civil date; March is the first month of the
shifted year, so the leap day is its last. -/
def daysFromCivil (year : Int) (month day : Nat) : Int :=
  let y := if month ≤ 2 then year - 1 else year
  let m : Int := if month ≤ 2 then month + 9 else month - 3
  let era := y / 400
  let yearOfEra := y - era * 400
  let dayOfYear := (153 * m + 2) / 5 + day - 1
  era * 146097 + yearOfEra * 365 + yearOfEra / 4 - yearOfEra / 100 + dayOfYear - 719468

/-- A civil date and time at a UTC offset in seconds. -/
structure OffsetDateTime where
  year : Int
  month : Nat
  day : Nat
  hour : Nat
  minute : Nat
  second : Nat
  nanosecond : Nat
  offset : Int
  month_valid : 1 ≤ month ∧ month ≤ 12
  day_valid : 1 ≤ day ∧ day ≤ daysInMonth year month
  time_valid : hour < 24 ∧ minute < 60 ∧ second < 60 ∧ nanosecond < 1000000000
deriving DecidableEq

namespace OffsetDateTime

def unixNanos (t : OffsetDateTime) : Int :=
  (daysFromCivil t.year t.month t.day * 86400 + t.hour * 3600 + t.minute * 60 + t.second
    - t.offset) * 1000000000 + t.nanosecond

end OffsetDateTime

/-- RFC 3339 as the `time` crate writes and reads it. `format` is given the
moment of a value already moved to the UTC offset; it fails outside the years
0 to 9999, and moments beyond the crate's date range, where moving to UTC
panics, are failures too. -/
structure Rfc3339 where
  format : Int → Except String String
  parse : String → Except String OffsetDateTime
  parse_format : ∀ {moment : Int} {text : String}, format moment = .ok text →
    ∃ t, parse text = .ok t ∧ t.unixNanos = moment

namespace Rfc3339

/-! ## The first minute of 1970

A formatter and parser for the sixty whole seconds from 1970-01-01T00:00:00Z,
on which it writes and reads exactly RFC 3339. -/

def epochSecondText (second : Nat) : String :=
  String.ofList ("1970-01-01T00:00:".toList ++ (Codes.padded 2 second ++ ['Z']))

example : epochSecondText 7 = "1970-01-01T00:00:07Z" := by decide

def epochSecond (second : Nat) : OffsetDateTime :=
  { year := 1970, month := 1, day := 1, hour := 0, minute := 0, second := second % 60
    nanosecond := 0, offset := 0
    month_valid := by decide
    day_valid := by decide
    time_valid := ⟨by decide, by decide, Nat.mod_lt _ (by decide), by decide⟩ }

theorem epochSecondText_injective : Function.Injective epochSecondText := fun m n h => by
  have hl := String.ofList_injective h
  exact Codes.padded_injective 2 (List.append_cancel_right (List.append_cancel_left hl))

theorem unixNanos_epochSecond {n : Nat} (h : n < 60) :
    (epochSecond n).unixNanos = n * 1000000000 := by
  simp [epochSecond, OffsetDateTime.unixNanos, daysFromCivil, Nat.mod_eq_of_lt h]

def epochMinute : Rfc3339 where
  format moment :=
    if 0 ≤ moment ∧ moment < 60000000000 ∧ moment % 1000000000 = 0 then
      .ok (epochSecondText (moment / 1000000000).toNat)
    else .error "outside the first minute of 1970"
  parse text :=
    match (List.range 60).find? fun n => epochSecondText n = text with
    | some n => .ok (epochSecond n)
    | none => .error "outside the first minute of 1970"
  parse_format := by
    intro moment text h
    split at h
    · next hm =>
      obtain rfl := Except.ok.inj h
      have hlt : (moment / 1000000000).toNat < 60 := by omega
      cases hf : (List.range 60).find? fun n =>
          epochSecondText n = epochSecondText (moment / 1000000000).toNat with
      | none =>
          have := List.find?_eq_none.mp hf _ (List.mem_range.mpr hlt)
          simp at this
      | some n =>
          have hn : n = (moment / 1000000000).toNat :=
            epochSecondText_injective (by simpa using List.find?_some hf)
          refine ⟨epochSecond n, rfl, ?_⟩
          rw [unixNanos_epochSecond (hn ▸ hlt), hn]
          omega
    · cases h

end Rfc3339
