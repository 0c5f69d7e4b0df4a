import MediaVault.Text.Numeral
import MediaVault.Time.Duration

/-!
# Points in time and their two written forms

A timestamp counts seconds since the start of 1970 in UTC.  Its fraction may
reach past one second; such a moment lies inside a leap second and is written
with second 60.  JSON uses the form `2024-03-01T12:30:00.5Z`, response headers
the form `Fri, 01 Mar 2024 12:30:00 GMT`.
-/

namespace MediaVault

/-- A moment: whole seconds since 1970 and a fraction, which passes one second
only inside a leap second. -/
structure Timestamp where
  seconds : Int
  nanoseconds : Nat
deriving Repr, DecidableEq, Inhabited

/-- A calendar day of the proleptic Gregorian calendar. -/
structure CivilDay where
  year : Int
  month : Nat
  day : Nat
deriving Repr, DecidableEq

/-- The calendar day that lies `days` days after 1 January 1970.  Years are
counted from March, so that the leap day ends the year, in eras of 400 years. -/
def CivilDay.ofDays (days : Int) : CivilDay :=
  let shifted := days + 719468
  let era := shifted.fdiv 146097
  let dayOfEra := (shifted.fmod 146097).toNat
  let yearOfEra := (dayOfEra - dayOfEra / 1460 + dayOfEra / 36524 - dayOfEra / 146096) / 365
  let dayOfYear := dayOfEra - (365 * yearOfEra + yearOfEra / 4 - yearOfEra / 100)
  let marchMonth := (5 * dayOfYear + 2) / 153
  let month := if marchMonth < 10 then marchMonth + 3 else marchMonth - 9
  { year := era * 400 + yearOfEra + (if month ≤ 2 then 1 else 0)
    month := month
    day := dayOfYear - (153 * marchMonth + 2) / 5 + 1 }

/-- Years from 0 to 9999 have four digits; others a sign and at least four. -/
def CivilDay.yearText (year : Int) : String :=
  if 0 ≤ year ∧ year ≤ 9999 then Text.padLeft 4 year.toNat
  else (if year < 0 then "-" else "+") ++ Text.padLeft 4 year.natAbs

/-- English names of the days of the week, beginning with Thursday, the first
day of 1970. -/
def weekdayName (days : Int) : String :=
  match (days.fmod 7).toNat with
  | 0 => "Thu" | 1 => "Fri" | 2 => "Sat" | 3 => "Sun" | 4 => "Mon" | 5 => "Tue" | _ => "Wed"

/-- English names of the months. -/
def monthName : Nat → String
  | 1 => "Jan" | 2 => "Feb" | 3 => "Mar" | 4 => "Apr" | 5 => "May" | 6 => "Jun"
  | 7 => "Jul" | 8 => "Aug" | 9 => "Sep" | 10 => "Oct" | 11 => "Nov" | _ => "Dec"

namespace Timestamp

/-- The start of 1970. -/
def epoch : Timestamp := ⟨0, 0⟩

/-- The moment `ms` milliseconds after the start of 1970. -/
def ofMilliseconds (ms : Int) : Timestamp :=
  ⟨ms.fdiv 1000, (ms.fmod 1000).toNat * 1000000⟩

/-- Whole milliseconds since the start of 1970. -/
def milliseconds (t : Timestamp) : Int :=
  t.seconds * 1000 + t.nanoseconds / 1000000

/-- Days since the start of 1970. -/
def days (t : Timestamp) : Int := t.seconds.fdiv 86400

/-- Seconds since midnight. -/
def secondOfDay (t : Timestamp) : Nat := (t.seconds.fmod 86400).toNat

/-- The moment lies inside a leap second. -/
def inLeapSecond (t : Timestamp) : Bool := Duration.perSecond ≤ t.nanoseconds

/-- Hours, minutes and seconds, two digits each. -/
def clockText (t : Timestamp) : String :=
  let s := t.secondOfDay
  let second := s % 60 + (if t.inLeapSecond then 1 else 0)
  Text.padLeft 2 (s / 3600) ++ ":" ++ Text.padLeft 2 (s / 60 % 60) ++ ":" ++
    Text.padLeft 2 second

/-- The fraction of the second: nothing when it is zero, else the fewest of 3,
6 or 9 digits that give it exactly. -/
def fractionText (t : Timestamp) : String :=
  let nanos := t.nanoseconds % Duration.perSecond
  if nanos = 0 then ""
  else if nanos % 1000000 = 0 then "." ++ Text.padLeft 3 (nanos / 1000000)
  else if nanos % 1000 = 0 then "." ++ Text.padLeft 6 (nanos / 1000)
  else "." ++ Text.padLeft 9 nanos

/-- The form used in JSON. -/
def iso (t : Timestamp) : String :=
  let day := CivilDay.ofDays t.days
  CivilDay.yearText day.year ++ "-" ++ Text.padLeft 2 day.month ++ "-" ++
    Text.padLeft 2 day.day ++ "T" ++ t.clockText ++ t.fractionText ++ "Z"

/-- The form used in response headers. -/
def httpDate (t : Timestamp) : String :=
  let day := CivilDay.ofDays t.days
  weekdayName t.days ++ ", " ++ Text.padLeft 2 day.day ++ " " ++ monthName day.month ++ " " ++
    CivilDay.yearText day.year ++ " " ++ t.clockText ++ " GMT"

end Timestamp

end MediaVault
