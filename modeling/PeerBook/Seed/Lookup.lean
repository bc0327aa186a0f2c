import PeerBook.Net.IpAddr.Text

/-!
# Name lookups for DNS seeds

A lookup turns a host name into IP addresses or an error, on behalf of a request that may end:
cancelled by its owner, or past its deadline. A lookup may itself end the request.

Two lookups are given here. A lookup table answers from a fixed table of hosts: an entry may
list addresses, fail with a message, cancel the request, or block until the request ends. A DNS
lookup asks a zone for the A records and then the AAAA records of the host made fully qualified
(a final dot added unless one is there); it fails only when it found no address and a query
failed, and then reports the last failure as the host, the record type and the response code.
-/

namespace PeerBook.Seed

/-- How a request ended. -/
inductive Ending where
  | cancelled
  | deadlineExceeded
  deriving DecidableEq, Repr

/-- The message of a request that ended. -/
def Ending.message : Ending → String
  | .cancelled => "context canceled"
  | .deadlineExceeded => "context deadline exceeded"

/-- The request a lookup works for: whether it has ended, and whether it has a deadline. -/
structure Context where
  ended : Option Ending := none
  hasDeadline : Bool := false
  deriving DecidableEq, Repr

/-- The answer of a lookup, and the request after it. -/
structure LookupResult where
  answer : Except String (List IpAddr)
  context : Context
  deriving Repr

/-- A lookup: host name and request in, answer and request out. -/
abbrev Lookup := String → Context → LookupResult

/-- What a lookup table holds for one host. -/
structure LookupEntry where
  addrs : List IpAddr := []
  error : String := ""
  cancel : Bool := false
  block : Bool := false
  deriving DecidableEq, Repr

/-- The lookup that answers from a table. A missing host is not found. An entry that cancels
ends the request first; one that blocks waits for the request to end and fails with how it
ended, or, when no deadline can end it, gives up with its own message. -/
def LookupEntry.lookup (table : List (String × LookupEntry)) : Lookup := fun host context =>
  match table.lookup host with
  | none => ⟨.error ("lookup " ++ host ++ ": no such host"), context⟩
  | some entry =>
    let context := if entry.cancel && context.ended.isNone then
      { context with ended := some .cancelled } else context
    if entry.block then
      match context.ended with
      | some ending => ⟨.error ending.message, context⟩
      | none =>
        if context.hasDeadline then
          ⟨.error Ending.deadlineExceeded.message, { context with ended := some .deadlineExceeded }⟩
        else ⟨.error "lookup blocked without deadline", context⟩
    else if entry.error.isEmpty then ⟨.ok entry.addrs, context⟩
    else ⟨.error entry.error, context⟩

/-- The two record types a DNS lookup asks for. -/
inductive RecordType where
  | a
  | aaaa
  deriving DecidableEq, Repr

/-- The name of a record type. -/
def RecordType.name : RecordType → String
  | .a => "A"
  | .aaaa => "AAAA"

/-- A DNS zone: the addresses of each fully qualified name, and response codes forced for a name
(`name`) or for one record type of it (`name/A`, `name/AAAA`). -/
structure Zone where
  names : List (String × List IpAddr) := []
  codes : List (String × String) := []
  deriving DecidableEq, Repr

/-- The fully qualified form of a host name: with a final dot that is not escaped. -/
def fullyQualified (host : String) : String :=
  let chars := host.toList
  let backslashes := ((chars.dropLast).reverse.takeWhile (· == '\\')).length
  if chars.getLast? == some '.' && backslashes % 2 == 0 then host else host ++ "."

/-- A zone's answer to one query: the response code, and the addresses of that type. A forced
code answers without addresses; an unknown name is `NXDOMAIN`. -/
def Zone.answer (zone : Zone) (name : String) (type : RecordType) : String × List IpAddr :=
  match zone.codes.lookup (name ++ "/" ++ type.name) <|> zone.codes.lookup name with
  | some code => (code, [])
  | none =>
    match zone.names.lookup name with
    | none => ("NXDOMAIN", [])
    | some addresses =>
      ("NOERROR", addresses.filter fun address =>
        match type with
        | .a => address.is4
        | .aaaa => address.is6)

/-- The addresses a record carries: an A record's address as IPv4, an AAAA record's as IPv6. -/
def recordAddress (type : RecordType) (address : IpAddr) : IpAddr :=
  match type with
  | .a => address.withoutZone.unmap
  | .aaaa => address.withoutZone

/-- The lookup that asks a zone for A and then AAAA records. -/
def Zone.lookup (zone : Zone) : Lookup := fun host context =>
  let name := fullyQualified host
  let step (found : List IpAddr × Option String) (type : RecordType) :
      List IpAddr × Option String :=
    let (code, addresses) := zone.answer name type
    if code == "NOERROR" then (found.1 ++ addresses.map (recordAddress type), found.2)
    else (found.1, some (host ++ " " ++ type.name ++ ": " ++ code))
  let (addresses, failure) := [RecordType.a, .aaaa].foldl step ([], none)
  match addresses, failure with
  | [], some message => ⟨.error message, context⟩
  | _, _ => ⟨.ok addresses, context⟩

end PeerBook.Seed
