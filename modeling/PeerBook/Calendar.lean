/-!
# Calendar time

Seconds since the Unix epoch as a UTC date and time in RFC 3339 form, on the proleptic
Gregorian calendar. Seconds are 64-bit: they are counted from a day aligned to a 400-year cycle
as an unsigned 64-bit number, so that the whole range has a date; past its ends the count wraps.
Years are written with at least four digits and a minus sign when negative.

A time given as seconds and nanoseconds is first normalized: nanoseconds outside `[0, 10⁹)`
carry into the seconds, in 64-bit arithmetic that wraps.
-/

namespace PeerBook.Calendar

/-- Days in a cycle of 400, 100 and 4 years. -/
def daysPer400Years : Nat := 146097
def daysPer100Years : Nat := 36524
def daysPer4Years : Nat := 1461

/-- The year of day zero of the count. -/
def countStartYear : Int := -292277022399

/-- What the count adds to Unix seconds. -/
def countOffset : Nat := 9223372028715321600

/-- The seconds of the count for Unix seconds, wrapped to 64 bits. -/
def countSeconds (seconds : Int64) : Nat :=
  ((seconds.toInt + countOffset) % Int.ofNat (Nat.pow 2 64)).toNat

/-- Whether a year of the proleptic Gregorian calendar has 366 days. -/
def isLeapYear (year : Int) : Bool :=
  year % 4 == 0 && (year % 100 != 0 || year % 400 == 0)

/-- The year and the zero-based day in the year of a day of the count. -/
def yearAndDay (day : Nat) : Int × Nat :=
  let cycles400 := day / daysPer400Years
  let day := day - daysPer400Years * cycles400
  let cycles100 := day / daysPer100Years
  -- the last century of a cycle has one day more: its last day counts into the third century
  let cycles100 := cycles100 - cycles100 / 4
  let day := day - daysPer100Years * cycles100
  let cycles4 := day / daysPer4Years
  let day := day - daysPer4Years * cycles4
  let years := day / 365
  -- likewise the leap year that ends a four-year cycle
  let years := years - years / 4
  let day := day - 365 * years
  (countStartYear + (400 * cycles400 + 100 * cycles100 + 4 * cycles4 + years : Nat), day)

/-- Days before the first of each month in a year of 365 days, and the days of the year. -/
def daysBefore : List Nat := [0, 31, 59, 90, 120, 151, 181, 212, 243, 273, 304, 334, 365]

/-- The month (from 1) and day (from 1) of a zero-based day in a year. -/
def monthAndDay (year : Int) (yearDay : Nat) : Nat × Nat :=
  if isLeapYear year && yearDay = 59 then (2, 29)
  else
    let day := if isLeapYear year && 59 < yearDay then yearDay - 1 else yearDay
    let estimate := day / 31
    let finish := daysBefore.getD (estimate + 1) 365
    if finish ≤ day then (estimate + 2, day - finish + 1)
    else (estimate + 1, day - daysBefore.getD estimate 0 + 1)

/-- A number in decimal, padded with zeros to `width` digits. -/
def padded (width value : Nat) : String :=
  let digits := toString value
  String.ofList (List.replicate (width - digits.length) '0') ++ digits

/-- The RFC 3339 text, in UTC, of Unix seconds. -/
def rfc3339 (seconds : Int64) : String :=
  let count := countSeconds seconds
  let (year, yearDay) := yearAndDay (count / 86400)
  let (month, day) := monthAndDay year yearDay
  let clock := count % 86400
  let yearText := if year < 0 then "-" ++ padded 4 year.natAbs else padded 4 year.toNat
  yearText ++ "-" ++ padded 2 month ++ "-" ++ padded 2 day ++ "T" ++ padded 2 (clock / 3600) ++
    ":" ++ padded 2 (clock / 60 % 60) ++ ":" ++ padded 2 (clock % 60) ++ "Z"

/-- Unix seconds of a time given as seconds and nanoseconds, nanoseconds outside `[0, 10⁹)`
carried into the seconds. -/
def unixSeconds (seconds nanos : Int64) : Int64 :=
  if nanos < 0 || 1000000000 ≤ nanos then
    let carry := nanos / 1000000000
    let seconds := seconds + carry
    let nanos := nanos - carry * 1000000000
    if nanos < 0 then seconds - 1 else seconds
  else seconds

end PeerBook.Calendar
