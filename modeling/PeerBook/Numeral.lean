import PeerBook.Text.Quoted

/-!
# Integer numerals

Reading integers from text. The base is either fixed, or read off a prefix: `0b` binary, `0o`
octal, `0x` hexadecimal (each with either case of letter and at least one character after it),
a lone leading `0` octal, and decimal otherwise. A prefixed numeral may separate digits by single
underscores, each between two digits or between the prefix and a digit.

A numeral is refused as malformed or as out of range for a bit width. Digits are read from the
left, and a value that leaves the range is refused at that digit, before any later character is
looked at; a misplaced underscore is found only once all digits are read.
-/

namespace PeerBook.Numeral

/-- Why a numeral was refused. -/
inductive Fault where
  /-- A character that is no digit of the base, a misplaced underscore, or no digit at all. -/
  | malformed
  /-- A value that does not fit the bit width. -/
  | outOfRange
  deriving DecidableEq, Repr

/-- The words that end the report of a refusal. -/
def Fault.text : Fault → String
  | .malformed => "invalid syntax"
  | .outOfRange => "value out of range"

/-- How the base of a numeral is found. -/
inductive Radix where
  /-- Read off a prefix, with underscores allowed between digits. -/
  | prefixed
  /-- One base from 2 to 36, without prefix or underscores. -/
  | fixed (base : Nat)
  deriving DecidableEq, Repr

/-- The value of a character as a digit of a base up to 36: `0`–`9`, then the letters of
either case. -/
def digitValue (c : Char) : Option Nat :=
  if '0' ≤ c ∧ c ≤ '9' then some (c.toNat - 48)
  else if 'a' ≤ c ∧ c ≤ 'z' then some (c.toNat - 87)
  else if 'A' ≤ c ∧ c ≤ 'Z' then some (c.toNat - 55)
  else none

/-- The base a prefix announces, for the character after a leading `0`. -/
def prefixBase (marker : Char) : Option Nat :=
  if marker = 'b' ∨ marker = 'B' then some 2
  else if marker = 'o' ∨ marker = 'O' then some 8
  else if marker = 'x' ∨ marker = 'X' then some 16
  else none

/-- The base of a numeral and the characters that hold its digits. -/
def splitRadix : Radix → List Char → Nat × List Char
  | .fixed base, chars => (base, chars)
  | .prefixed, '0' :: marker :: next :: rest =>
    match prefixBase marker with
    | some base => (base, next :: rest)
    | none => (8, marker :: next :: rest)
  | .prefixed, '0' :: rest => (8, rest)
  | .prefixed, chars => (10, chars)

/-- Reads digits of `base` onto `value`, skipping underscores when `separators` holds. The value
may not pass `bound`; the digit that would take it past is refused as out of range. -/
def accumulate (base bound : Nat) (separators : Bool) : Nat → List Char → Except Fault Nat
  | value, [] => .ok value
  | value, c :: rest =>
    if separators && c == '_' then accumulate base bound separators value rest
    else
      match digitValue c with
      | some digit =>
        if digit < base then
          if bound < value * base + digit then .error .outOfRange
          else accumulate base bound separators (value * base + digit) rest
        else .error .malformed
      | none => .error .malformed

/-- What the underscore check last saw. -/
inductive SeparatorState where
  | start
  | digit
  | underscore
  | other
  deriving DecidableEq, Repr

/-- One step of the underscore check; `none` refuses the numeral. -/
def separatorStep (hexadecimal : Bool) (state : SeparatorState) (c : Char) :
    Option SeparatorState :=
  if c.isDigit || (hexadecimal && (('a' ≤ c && c ≤ 'f') || ('A' ≤ c && c ≤ 'F'))) then
    some .digit
  else if c = '_' then
    if state = .digit then some .underscore else none
  else if state = .underscore then none
  else some .other

/-- Whether every underscore of a numeral stands between two digits, or between the base
prefix and a digit. A sign in front is passed over. -/
def separatorsWellPlaced (chars : List Char) : Bool :=
  let unsigned := match chars with
    | '+' :: rest => rest
    | '-' :: rest => rest
    | rest => rest
  let (hexadecimal, state, body) := match unsigned with
    | '0' :: marker :: rest =>
      if (prefixBase marker).isSome then (marker == 'x' || marker == 'X', SeparatorState.digit, rest)
      else (false, SeparatorState.start, unsigned)
    | _ => (false, SeparatorState.start, unsigned)
  match body.foldlM (separatorStep hexadecimal) state with
  | some .underscore => false
  | some _ => true
  | none => false

/-- Reads an unsigned numeral whose value fits in `width` bits. -/
def readNat (radix : Radix) (width : Nat) (text : String) : Except Fault Nat :=
  let chars := text.toList
  if chars.isEmpty then .error .malformed
  else
    let (base, digits) := splitRadix radix chars
    let separators := radix == .prefixed
    match accumulate base (Nat.pow 2 width - 1) separators 0 digits with
    | .error fault => .error fault
    | .ok value =>
      if separators && digits.contains '_' && !separatorsWellPlaced chars then .error .malformed
      else .ok value

/-- Reads a signed numeral, with an optional `+` or `-` in front, whose value fits in `width`
bits as two's complement. -/
def readInt (radix : Radix) (width : Nat) (text : String) : Except Fault Int :=
  let (negative, body) := match text.toList with
    | '+' :: rest => (false, rest)
    | '-' :: rest => (true, rest)
    | chars => (false, chars)
  if text.isEmpty then .error .malformed
  else
    match readNat radix width (String.ofList body) with
    | .error fault => .error fault
    | .ok magnitude =>
      if negative then
        if Nat.pow 2 (width - 1) < magnitude then .error .outOfRange else .ok (-(magnitude : Int))
      else
        if Nat.pow 2 (width - 1) ≤ magnitude then .error .outOfRange else .ok magnitude

/-- Reads a decimal integer of 64 bits, with an optional sign. -/
def readDecimal (text : String) : Except Fault Int :=
  readInt (.fixed 10) 64 text

/-- The two readings whose refusals are reported by name. -/
inductive Reading where
  /-- An unsigned numeral. -/
  | unsigned
  /-- A signed decimal integer. -/
  | decimal
  deriving DecidableEq, Repr

/-- The name under which a reading reports a refusal. -/
def Reading.name : Reading → String
  | .unsigned => "ParseUint"
  | .decimal => "Atoi"

/-- A refused numeral: the reading, the text it was given, and the fault. -/
structure Refusal where
  reading : Reading
  text : String
  fault : Fault
  deriving DecidableEq, Repr

/-- The report of a refusal, naming the reading and quoting the text. -/
def Refusal.message (refusal : Refusal) : String :=
  "strconv." ++ refusal.reading.name ++ ": parsing " ++ Text.quote refusal.text ++ ": " ++
    refusal.fault.text

/-- Reads an unsigned numeral, reporting a refusal with the text. -/
def readNatReported (radix : Radix) (width : Nat) (text : String) : Except Refusal Nat :=
  (readNat radix width text).mapError fun fault => ⟨.unsigned, text, fault⟩

/-- Reads a decimal integer, reporting a refusal with the text. -/
def readDecimalReported (text : String) : Except Refusal Int :=
  (readDecimal text).mapError fun fault => ⟨.decimal, text, fault⟩

end PeerBook.Numeral
