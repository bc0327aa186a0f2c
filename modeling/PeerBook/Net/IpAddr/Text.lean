import PeerBook.Net.IpAddr
import PeerBook.Numeral

/-!
# Text of IP addresses

Reading and writing IP addresses.

An IPv4 address is four decimal fields joined by dots, each from 0 to 255 and without a leading
zero. An IPv6 address is up to eight groups of one to four hexadecimal digits joined by colons,
with at most one `::` standing for one or more zero groups; its last two groups may be written
as an IPv4 address, and `%` followed by a non-empty zone may end it. Which reading applies is
decided by the first dot, colon or percent sign of the text.

An IPv4 address is written in decimal. An IPv6 address is written in lower-case hexadecimal
without leading zeros, with the first longest run of two or more zero groups written as `::`;
a mapped address is written `::ffff:` and the IPv4 address it carries. The zone follows a `%`,
and the absent address is written `invalid IP`.
-/

namespace PeerBook.IpAddr

/-- The value of a decimal field of an IPv4 address: digits only, no leading zero, at most
255. -/
def octetOf? (field : List Char) : Option UInt8 :=
  match field with
  | [] => none
  | first :: rest =>
    if field.all Char.isDigit && (first != '0' || rest.isEmpty) then
      let value := field.foldl (fun value c => value * 10 + (c.toNat - 48)) 0
      if value ≤ 255 then some value.toUInt8 else none
    else none

/-- Reads four dotted decimal fields. -/
def octetsOf? (chars : List Char) : Option (Vector UInt8 4) :=
  match chars.splitOn '.' with
  | [a, b, c, d] => do
    return octets (← octetOf? a) (← octetOf? b) (← octetOf? c) (← octetOf? d)
  | _ => none

/-- A group's value with one more hexadecimal digit after it. -/
def groupStep (value : UInt16) (c : Char) : Option UInt16 :=
  (Numeral.digitValue c).bind fun digit =>
    if digit < 16 then some (value * 16 + digit.toUInt16) else none

/-- The value of a hexadecimal group: one to four digits. -/
def groupValue? (field : List Char) : Option UInt16 :=
  if field.isEmpty || 4 < field.length then none
  else field.foldlM groupStep 0

/-- The groups that a colon-separated list of fields stands for; the last field may be an
IPv4 address, which stands for two groups. -/
def groupsOf? (fields : List (List Char)) : Option (List UInt16) :=
  match fields with
  | [] => some []
  | [last] =>
    if last.contains '.' then
      (octetsOf? last).map fun octets => (mappedGroups octets).toList.drop 6
    else (groupValue? last).map fun group => [group]
  | field :: rest => do
    let group ← groupValue? field
    let others ← groupsOf? rest
    return group :: others

/-- The fields between the colons of one side of a `::`, none for an empty side. -/
def fieldsOf (side : List Char) : List (List Char) :=
  if side.isEmpty then [] else side.splitOn ':'

/-- Reads the groups of an IPv6 address without its zone. -/
def groupVectorOf? (chars : List Char) : Option (Vector UInt16 8) := do
  let groups ← match splitDoubleColon chars with
    | none => do
      let groups ← groupsOf? (chars.splitOn ':')
      if groups.length = 8 then some groups else none
    | some (front, back) => do
      if containsDoubleColon back then none
      let head ← if front.contains '.' then none else groupsOf? (fieldsOf front)
      let tail ← groupsOf? (fieldsOf back)
      if head.length + tail.length < 8 then
        some (head ++ List.replicate (8 - head.length - tail.length) 0 ++ tail)
      else none
  if h : groups.length = 8 then some ⟨groups.toArray, by simpa using h⟩ else none
where
  /-- Whether a text holds `::`. -/
  containsDoubleColon : List Char → Bool
    | ':' :: ':' :: _ => true
    | _ :: rest => containsDoubleColon rest
    | [] => false
  /-- The text before and after the first `::`. -/
  splitDoubleColon : List Char → Option (List Char × List Char)
    | ':' :: ':' :: rest => some ([], rest)
    | c :: rest => (splitDoubleColon rest).map fun (front, back) => (c :: front, back)
    | [] => none

/-- Reads an IPv6 address with an optional zone. -/
def v6Of? (chars : List Char) : Option IpAddr :=
  match chars.span (· != '%') with
  | (body, []) => (groupVectorOf? body).map fun groups => .v6 groups ""
  | (body, _ :: zone) =>
    if zone.isEmpty then none else (groupVectorOf? body).map fun groups => .v6 groups (String.ofList zone)

/-- Reads an IP address; the first dot, colon or percent sign decides how. -/
def parse? (text : String) : Option IpAddr :=
  let chars := text.toList
  match chars.find? (fun c => c == '.' || c == ':' || c == '%') with
  | some '.' => (octetsOf? chars).map .v4
  | some ':' => v6Of? chars
  | _ => none

/-- Reads an IP address that has no zone. -/
def parseUnzoned? (text : String) : Option IpAddr :=
  match parse? text with
  | some (.v6 groups zone) => if zone.isEmpty then some (.v6 groups zone) else none
  | result => result

/-- The dotted decimal text of four octets. -/
def octetsText (octets : Vector UInt8 4) : String :=
  ".".intercalate (octets.toList.map fun octet => toString octet.toNat)

/-- The start and end of the first longest run of two or more zero groups, if there is one. -/
def zeroRun (groups : List UInt16) : Option (Nat × Nat) :=
  let runLength (start : Nat) : Nat := ((groups.drop start).takeWhile (· == 0)).length
  let better (best : Option (Nat × Nat)) (start : Nat) : Option (Nat × Nat) :=
    let length := runLength start
    if length < 2 then best
    else match best with
      | some (bestStart, bestEnd) =>
        if bestEnd - bestStart < length then some (start, start + length) else best
      | none => some (start, start + length)
  (List.range groups.length).foldl better none

/-- The text of IPv6 groups, with the first longest run of zeros written as `::`. -/
def groupsText (groups : List UInt16) : String :=
  let hex (group : UInt16) : String := String.ofList (Nat.toDigits 16 group.toNat)
  match zeroRun groups with
  | none => ":".intercalate (groups.map hex)
  | some (start, stop) =>
    ":".intercalate ((groups.take start).map hex) ++ "::" ++
      ":".intercalate ((groups.drop stop).map hex)

/-- The text of an address. -/
def render : IpAddr → String
  | .absent => "invalid IP"
  | .v4 octets => octetsText octets
  | .v6 groups zone =>
    let body := match carriedOctets? groups with
      | some octets => "::ffff:" ++ octetsText octets
      | none => groupsText groups.toList
    if zone.isEmpty then body else body ++ "%" ++ zone

end PeerBook.IpAddr
