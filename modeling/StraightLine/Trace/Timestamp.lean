/-! Points in time as text: date and time of day with microseconds, and the zone as `Z` or as hours and
minutes from it. The calendar is the Gregorian one, carried on in both directions. -/

namespace StraightLine.Trace

structure Timestamp where
  /-- Seconds since the start of 1970. -/
  seconds : Int := 0
  /-- Nanoseconds on top of the seconds. -/
  nanos : Int := 0
  /-- Seconds that the local clock is ahead. -/
  offset : Int := 0
  deriving DecidableEq, Repr

structure Date where
  year : Int
  month : Nat
  day : Nat
  deriving DecidableEq, Repr

/-- The day that comes `days` days after the first day of 1970. Years are counted from March here, so
that the leap day is the last one, and in periods of 400 years. -/
def Date.ofDays (days : Int) : Date :=
  let z := days + 719468
  let era := Int.fdiv z 146097
  let dayOfEra := (z - era * 146097).toNat
  let yearOfEra :=
    (dayOfEra - dayOfEra / 1460 + dayOfEra / 36524 - dayOfEra / 146096) / 365
  let dayOfYear := dayOfEra - (365 * yearOfEra + yearOfEra / 4 - yearOfEra / 100)
  let m := (5 * dayOfYear + 2) / 153
  let month := if m < 10 then m + 3 else m - 9
  { year := era * 400 + yearOfEra + (if month ≤ 2 then 1 else 0)
    month := month
    day := dayOfYear - (153 * m + 2) / 5 + 1 }

namespace Timestamp

/-- `n` with zeros in front up to `width` digits. -/
def padded (width n : Nat) : String :=
  let digits := toString n
  String.ofList (List.replicate (width - digits.length) '0') ++ digits

/-- A year has four digits at least and a minus sign if it is negative. -/
def yearText (y : Int) : String := (if y < 0 then "-" else "") ++ padded 4 y.natAbs

/-- The zone: seconds of the offset are dropped toward zero. -/
def zoneText (offset : Int) : String :=
  if offset = 0 then "Z"
  else
    let minutes := Int.tdiv offset 60
    (if minutes < 0 then "-" else "+") ++ padded 2 (minutes.natAbs / 60) ++ ":"
      ++ padded 2 (minutes.natAbs % 60)

/-- The first second that the calendar shows, the start of March in the year -292277022400. -/
def firstSecond : Int := -9223372028741760000

/-- The calendar has two to the power of 64 seconds. -/
def secondCount : Int := 18446744073709551616

/-- The second that is shown for a second: behind its last one the calendar starts again. -/
def shownSecond (s : Int) : Int := firstSecond + Int.fmod (s - firstSecond) secondCount

/-- Every second is shown as one of the calendar's. -/
theorem shownSecond_bounds (s : Int) :
    firstSecond ≤ shownSecond s ∧ shownSecond s < firstSecond + secondCount := by
  have h0 := Int.fmod_nonneg_of_pos (s - firstSecond) (b := secondCount) (by decide)
  have h1 := Int.fmod_lt_of_pos (s - firstSecond) (b := secondCount) (by decide)
  unfold shownSecond
  omega

/-- The seconds of the calendar are shown as they are. -/
theorem shownSecond_of_bounds {s : Int} (h0 : firstSecond ≤ s)
    (h1 : s < firstSecond + secondCount) : shownSecond s = s := by
  unfold shownSecond
  rw [Int.fmod_eq_emod_of_nonneg _ (by decide), Int.emod_eq_of_lt (by omega) (by omega)]
  omega

/-- The text of a point in time. Microseconds are cut, not rounded. -/
def text (t : Timestamp) : String :=
  let seconds := shownSecond (t.seconds + Int.fdiv t.nanos 1000000000 + t.offset)
  let nanos := (Int.fmod t.nanos 1000000000).toNat
  let d := Date.ofDays (Int.fdiv seconds 86400)
  let s := (Int.fmod seconds 86400).toNat
  yearText d.year ++ "-" ++ padded 2 d.month ++ "-" ++ padded 2 d.day ++ "T"
    ++ padded 2 (s / 3600) ++ ":" ++ padded 2 (s % 3600 / 60) ++ ":" ++ padded 2 (s % 60)
    ++ "." ++ padded 6 (nanos / 1000) ++ zoneText t.offset

end Timestamp

end StraightLine.Trace
