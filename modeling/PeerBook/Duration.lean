import PeerBook.Numeral.Binary64
import PeerBook.Text.Quoted

/-!
# Durations

A duration is a signed 64-bit count of nanoseconds.

Its text gives hours, minutes and seconds (`1h2m3.5s`, `5m0s`, `10s`), leading zero units left
out; below one second it uses the largest of milliseconds, microseconds (`µs`) and nanoseconds
that keeps a whole part (`300ms`, `1.5µs`). Fractions carry no trailing zeros, and zero is `0s`.

Reading accepts an optional sign and one or more numbers, each with a unit: `ns`, `us`, `µs`,
`μs`, `ms`, `s`, `m` or `h`. A number may have a fraction. The fraction of a number is scaled
to its unit through binary64 arithmetic and truncated, so `0.1s` is 100000000 nanoseconds.
A lone `0` needs no unit. A value beyond 64 bits is refused.
-/

namespace PeerBook

/-- A signed count of nanoseconds. -/
structure Duration where
  nanos : Int64
  deriving DecidableEq, Repr, Inhabited

namespace Duration

def nanosecond : Nat := 1
def microsecond : Nat := 1000
def millisecond : Nat := 1000000
def second : Nat := 1000000000
def minute : Nat := 60000000000
def hour : Nat := 3600000000000

/-- The duration of a number of nanoseconds, wrapped to 64 bits. -/
def ofNanos (nanos : Int) : Duration := ⟨Int64.ofInt nanos⟩

/-- The nanoseconds of a duration. -/
def toInt (duration : Duration) : Int := duration.nanos.toInt

/-- The duration of a number of milliseconds. -/
def ofMillis (millis : Int) : Duration := ofNanos (millis * millisecond)

/-- `.` and the digits of `value`, a fraction of `10 ^ places`, without trailing zeros; nothing
when the fraction is zero. -/
def fractionText (places value : Nat) : String :=
  let digits := (toString (Nat.pow 10 places + value)).toList.drop 1
  let kept := (digits.reverse.dropWhile (· == '0')).reverse
  if kept.isEmpty then "" else "." ++ String.ofList kept

/-- A magnitude in a unit of `10 ^ places` nanoseconds: whole part and fraction. -/
def inUnit (places magnitude : Nat) : String :=
  toString (magnitude / Nat.pow 10 places) ++ fractionText places (magnitude % Nat.pow 10 places)

/-- The text of a nonnegative number of nanoseconds. -/
def magnitudeText (magnitude : Nat) : String :=
  if magnitude = 0 then "0s"
  else if magnitude < microsecond then toString magnitude ++ "ns"
  else if magnitude < millisecond then inUnit 3 magnitude ++ "µs"
  else if magnitude < second then inUnit 6 magnitude ++ "ms"
  else
    let seconds := magnitude / second
    let secondsText := toString (seconds % 60) ++ fractionText 9 (magnitude % second) ++ "s"
    let minutes := seconds / 60
    if minutes = 0 then secondsText
    else
      let minutesText := toString (minutes % 60) ++ "m" ++ secondsText
      let hours := minutes / 60
      if hours = 0 then minutesText else toString hours ++ "h" ++ minutesText

/-- The text of a duration. -/
def render (duration : Duration) : String :=
  let value := duration.toInt
  if value < 0 then "-" ++ magnitudeText value.natAbs else magnitudeText value.toNat

/-- Why a text is not a duration. -/
inductive ParseError where
  /-- A malformed or too large duration. -/
  | invalid (text : String)
  /-- A number without a unit. -/
  | missingUnit (text : String)
  /-- A unit that is none of the known ones. -/
  | unknownUnit (unitText text : String)
  deriving DecidableEq, Repr

/-- The message of a refused text. -/
def ParseError.message : ParseError → String
  | .invalid text => "time: invalid duration " ++ Text.quoteAscii text
  | .missingUnit text => "time: missing unit in duration " ++ Text.quoteAscii text
  | .unknownUnit unitText text =>
    "time: unknown unit " ++ Text.quoteAscii unitText ++ " in duration " ++ Text.quoteAscii text

/-- The nanoseconds of a unit. -/
def unitValue? : String → Option Nat
  | "ns" => some nanosecond
  | "us" | "µs" | "μs" => some microsecond
  | "ms" => some millisecond
  | "s" => some second
  | "m" => some minute
  | "h" => some hour
  | _ => none

/-- The largest magnitude a duration may reach before its sign is applied. -/
def limit : Nat := Nat.pow 2 63

/-- Reads leading digits; `none` when their value passes `limit`. -/
def leadingInteger (chars : List Char) : Option (Nat × List Char) :=
  let digits := chars.takeWhile Char.isDigit
  let value := digits.foldl (fun value c => value * 10 + (c.toNat - 48)) 0
  if limit < value then none else some (value, chars.dropWhile Char.isDigit)

/-- Reads the digits of a fraction as far as they keep below `limit`: the value kept and its
scale, a power of ten; later digits are read and dropped. -/
def leadingFraction (chars : List Char) : Nat × Nat × List Char :=
  let digits := chars.takeWhile Char.isDigit
  let step (state : Nat × Nat × Bool) (c : Char) : Nat × Nat × Bool :=
    let (value, scale, overflow) := state
    if overflow then state
    else if (limit - 1) / 10 < value then (value, scale, true)
    else
      let next := value * 10 + (c.toNat - 48)
      if limit < next then (value, scale, true) else (next, scale * 10, false)
  let (value, scale, _) := digits.foldl step (0, 1, false)
  (value, scale, chars.dropWhile Char.isDigit)

/-- The nanoseconds of a fraction `fraction / scale` of a unit: the fraction and the ratio of
unit to scale are rounded to binary64, their product rounded again and truncated. -/
def fractionNanos (fraction unitNanos scale : Nat) : Nat :=
  Binary64.truncate (Binary64.mul (Binary64.ofNat fraction) (Binary64.ofFraction unitNanos scale))

/-- Reads the numbers and units of a duration, adding their nanoseconds to `total`; `fuel`
bounds the number of parts. -/
def readParts (text : String) (fuel : Nat) (total : Nat) (chars : List Char) :
    Except ParseError Nat :=
  match fuel, chars with
  | _, [] => .ok total
  | 0, _ => .error (.invalid text)
  | fuel + 1, first :: _ => do
    unless first == '.' || first.isDigit do throw (.invalid text)
    let some (whole, afterWhole) := leadingInteger chars | throw (.invalid text)
    let hasWhole := afterWhole.length != chars.length
    let (fraction, scale, afterFraction, hasFraction) := match afterWhole with
      | '.' :: rest =>
        let (fraction, scale, after) := leadingFraction rest
        (fraction, scale, after, after.length != rest.length)
      | _ => (0, 1, afterWhole, false)
    unless hasWhole || hasFraction do throw (.invalid text)
    let unitChars := afterFraction.takeWhile fun c => !(c == '.' || c.isDigit)
    if unitChars.isEmpty then throw (.missingUnit text)
    let unitText := String.ofList unitChars
    let some unitNanos := unitValue? unitText | throw (.unknownUnit unitText text)
    if limit / unitNanos < whole then throw (.invalid text)
    let value := whole * unitNanos +
      (if 0 < fraction then fractionNanos fraction unitNanos scale else 0)
    if limit < value then throw (.invalid text)
    let total := total + value
    if limit < total then throw (.invalid text)
    readParts text fuel total (afterFraction.drop unitChars.length)

/-- Reads a duration from its text. -/
def parse (text : String) : Except ParseError Duration := do
  let (negative, body) := match text.toList with
    | '-' :: rest => (true, rest)
    | '+' :: rest => (false, rest)
    | chars => (false, chars)
  if body == ['0'] then return ⟨0⟩
  if body.isEmpty then throw (.invalid text)
  let magnitude ← readParts text body.length 0 body
  if negative then return ofNanos (-(magnitude : Int))
  if limit - 1 < magnitude then throw (.invalid text)
  return ofNanos magnitude

end Duration

end PeerBook
