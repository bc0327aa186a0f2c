import PeerBook.Net.Endpoint
import PeerBook.Text.Quoted
import PeerBook.Text.CaseMap
import PeerBook.Multiformat.Multihash
import PeerBook.Multiaddr.Library

/-!
# Multiaddresses

A multiaddress is a path of components, each a protocol name and, for most protocols, a value:
`/ip4/203.0.113.5/tcp/8333`. Reading a text drops its trailing slashes, cuts it at every slash,
and asks that it start with one and hold at least one component. Each name must be a known
protocol; a protocol with a value takes the next piece as its value, except that a path protocol
takes all the rest of the text, slashes included. The first fault found is reported, quoting the
text without its trailing slashes.

Values are read by kind: IPv4 and IPv6 addresses without zone (an IPv4 value may also be written
as a mapped IPv6 address), ports and prefix lengths as decimal numbers below 2^16 and 2^8, a
non-empty zone, non-empty domain names, peer identities, Tor onion addresses (a base32 host of
16 or 56 characters and a non-zero port), I2P garlic addresses (base64 of 516 to 616 characters,
or base32 of 52 or at least 55), certificate hashes (a multihash in multibase text), and free
text for paths. Most refused values are reported with the value and protocol; a value that reads
but fails its check, such as an empty domain name, is reported alone.

These multiaddresses make the library that the command line reads and writes endpoints with
(`library`): the value of a protocol is written by its kind, and a protocol's transcoder reads a
value by its kind and writes what it read.
-/

namespace PeerBook.Multiaddr

/-- What kind of value a protocol carries. -/
inductive ValueKind where
  /-- No value. -/
  | none
  /-- An IPv4 address. -/
  | ip4
  /-- An IPv6 address. -/
  | ip6
  /-- A port, below 2^16. -/
  | port
  /-- A prefix length, below 2^8. -/
  | prefixLength
  /-- An IPv6 zone, not empty. -/
  | zone
  /-- A domain name, not empty. -/
  | domain
  /-- A peer identity. -/
  | peerId
  /-- A Tor onion address of the second version, with its port. -/
  | onion
  /-- A Tor onion address of the third version, with its port. -/
  | onion3
  /-- An I2P address in base64. -/
  | garlic64
  /-- An I2P address in base32. -/
  | garlic32
  /-- A certificate hash: a multihash in multibase text. -/
  | certhash
  /-- A path that runs to the end of the multiaddress. -/
  | path
  deriving DecidableEq, Repr

/-- A protocol a component may name. -/
structure Protocol where
  name : String
  kind : ValueKind
  deriving DecidableEq, Repr

/-- The protocols that have names, with the kinds of their values. -/
def protocols : List Protocol := [
  ⟨"ip4", .ip4⟩, ⟨"tcp", .port⟩, ⟨"dns", .domain⟩, ⟨"dns4", .domain⟩, ⟨"dns6", .domain⟩,
  ⟨"dnsaddr", .domain⟩, ⟨"udp", .port⟩, ⟨"dccp", .port⟩, ⟨"ip6", .ip6⟩, ⟨"ip6zone", .zone⟩,
  ⟨"ipcidr", .prefixLength⟩, ⟨"sctp", .port⟩, ⟨"p2p-circuit", .none⟩, ⟨"onion", .onion⟩,
  ⟨"onion3", .onion3⟩, ⟨"garlic64", .garlic64⟩, ⟨"garlic32", .garlic32⟩, ⟨"utp", .none⟩,
  ⟨"udt", .none⟩, ⟨"quic", .none⟩, ⟨"quic-v1", .none⟩, ⟨"webtransport", .none⟩,
  ⟨"certhash", .certhash⟩, ⟨"http", .none⟩, ⟨"https", .none⟩, ⟨"p2p", .peerId⟩,
  ⟨"unix", .path⟩, ⟨"p2p-webrtc-direct", .none⟩, ⟨"tls", .none⟩, ⟨"sni", .domain⟩,
  ⟨"noise", .none⟩,
  ⟨"ws", .none⟩, ⟨"wss", .none⟩, ⟨"plaintextv2", .none⟩, ⟨"webrtc-direct", .none⟩,
  ⟨"webrtc", .none⟩]

/-- The protocol with this name; `ipfs` is another name of `p2p`. -/
def Protocol.ofName? (name : String) : Option Protocol :=
  if name = "ipfs" then some ⟨"p2p", .peerId⟩ else protocols.find? (·.name == name)

/-- The value of a component. -/
inductive Value where
  | ip4 (octets : Vector UInt8 4)
  | ip6 (groups : Vector UInt16 8)
  | number (value : Nat)
  | text (value : String)
  deriving DecidableEq, Repr

/-- The text of a value: an IPv6 value that carries an IPv4 address is written as a mapped
address. -/
def Value.render : Value → String
  | .ip4 octets => IpAddr.octetsText octets
  | .ip6 groups => (IpAddr.v6 groups "").render
  | .number value => toString value
  | .text value => value

/-- A protocol and its value, if it has one. -/
structure Component where
  protocol : Protocol
  value : Option Value
  deriving DecidableEq, Repr

end Multiaddr

/-- A multiaddress: its components in order. -/
structure Multiaddr where
  components : List Multiaddr.Component
  deriving DecidableEq, Repr

namespace Multiaddr

/-- Why a value was refused: it could not be read, or it was read and failed its check. -/
inductive ValueError where
  | unreadable (reason : String)
  | rejected (reason : String)
  deriving DecidableEq, Repr

/-- The text of bytes, each byte that is not part of a character shown as U+FFFD. -/
def bytesText (bytes : List UInt8) : String :=
  match String.fromUTF8? ⟨bytes.toArray⟩ with
  | some text => text
  | none => String.ofList (bytes.map fun byte => if byte.toNat < 128 then Char.ofNat byte.toNat else '\uFFFD')

/-- Reads a Tor onion address: a base32 host of `hostLength` characters and a non-zero port. -/
def readOnion (hostLength : Nat) (text : String) : Except String Unit := do
  let failed (why : String) : String := "failed to parse onion addr: " ++ why
  match text.splitOn ":" with
  | [host, port] =>
    if host.utf8ByteSize != hostLength then
      if hostLength == 16 then throw (failed (text ++ " not a Tor onion address"))
      else throw (failed (text ++ " not a Tor onionv3 address. len == " ++ toString host.utf8ByteSize))
    if let .error error := BaseN.decode32 BaseN.base32Upper (Text.upperCase host) then
      throw ("failed to decode base32 onion addr: " ++ text ++ " " ++ error.message)
    match Numeral.readNatReported (.fixed 10) 16 port with
    | .error refusal => throw (failed refusal.message)
    | .ok 0 => throw (failed "non-zero port")
    | .ok _ => pure ()
  | _ => throw (failed (text ++ " does not contain a port number"))

/-- The base64 alphabet of I2P. -/
def garlic64Alphabet : BaseN.Alphabet :=
  ⟨"base64", "ABCDEFGHIJKLMNOPQRSTUVWXYZabcdefghijklmnopqrstuvwxyz0123456789-~", false, true⟩

/-- The base32 alphabet of I2P. -/
def garlic32Alphabet : BaseN.Alphabet :=
  ⟨"base32", "abcdefghijklmnopqrstuvwxyz234567", false, true⟩

/-- Reads an I2P address in base64. -/
def readGarlic64 (text : String) : Except ValueError Unit := do
  let length := text.utf8ByteSize
  if length < 516 || 616 < length then
    throw (.unreadable ("failed to parse garlic addr: " ++ text ++
      " not an i2p base64 address. len: " ++ toString length))
  match BaseN.decode64 garlic64Alphabet text with
  | .error error => throw (.unreadable ("failed to decode base64 i2p addr: " ++ text ++ " " ++
      error.message))
  | .ok bytes =>
    if bytes.length < 386 then
      throw (.rejected ("failed to validate garlic addr: " ++ bytesText bytes ++
        " not an i2p base64 address. len: " ++ toString bytes.length))

/-- Reads an I2P address in base32, padded to whole groups of eight. -/
def readGarlic32 (text : String) : Except ValueError Unit := do
  let length := text.utf8ByteSize
  if length < 55 && length != 52 then
    throw (.unreadable ("failed to parse garlic addr: " ++ text ++
      " not a i2p base32 address. len: " ++ toString length))
  let padded := text ++ String.ofList (List.replicate ((8 - length % 8) % 8) '=')
  match BaseN.decode32 garlic32Alphabet padded with
  | .error error => throw (.unreadable ("failed to decode base32 garlic addr: " ++ padded ++
      ", err: " ++ error.message ++ " len: " ++ toString padded.utf8ByteSize))
  | .ok bytes =>
    if bytes.length < 35 && bytes.length != 32 then
      throw (.rejected ("failed to validate garlic addr: " ++ bytesText bytes ++
        " not an i2p base32 address. len: " ++ toString bytes.length))

/-- Reads a certificate hash: a multihash in multibase text. -/
def readCerthash (text : String) : Except String Unit := do
  let bytes ← (Multibase.decode text).mapError (·.message)
  let _ ← (Multihash.decode bytes).mapError (·.message)

/-- Reads the value of a component by its kind. -/
def readValue (kind : ValueKind) (text : String) : Except ValueError Value :=
  let unreadable (reason : String) : Except ValueError Value := .error (.unreadable reason)
  let asText {ε : Type} (check : Except ε Unit) (wrap : ε → ValueError) : Except ValueError Value :=
    match check with
    | .ok () => .ok (.text text)
    | .error error => .error (wrap error)
  match kind with
  | .ip4 =>
    match IpAddr.parseUnzoned? text with
    | some (.v4 octets) => .ok (.ip4 octets)
    | some (.v6 groups _) =>
      match IpAddr.carriedOctets? groups with
      | some octets => .ok (.ip4 octets)
      | none => unreadable ("failed to parse ip4 addr: " ++ text)
    | _ => unreadable ("failed to parse ip4 addr: " ++ text)
  | .ip6 =>
    match IpAddr.parseUnzoned? text with
    | some (.v4 octets) => .ok (.ip6 (IpAddr.mappedGroups octets))
    | some (.v6 groups _) => .ok (.ip6 groups)
    | _ => unreadable ("failed to parse ip6 addr: " ++ text)
  | .port =>
    match Numeral.readNatReported (.fixed 10) 16 text with
    | .ok value => .ok (.number value)
    | .error refusal => unreadable ("failed to parse port addr: " ++ refusal.message)
  | .prefixLength =>
    match Numeral.readNatReported (.fixed 10) 8 text with
    | .ok value => .ok (.number value)
    | .error refusal => unreadable refusal.message
  | .zone => if text.isEmpty then unreadable "empty ip6zone" else .ok (.text text)
  | .domain => if text.isEmpty then .error (.rejected "empty domain name") else .ok (.text text)
  | .peerId => asText ((PeerId.read text).map fun _ => ()) .unreadable
  | .onion => asText (readOnion 16 text) .unreadable
  | .onion3 => asText (readOnion 56 text) .unreadable
  | .garlic64 => asText (readGarlic64 text) id
  | .garlic32 => asText (readGarlic32 text) id
  | .certhash => asText (readCerthash text) .unreadable
  | .path | .none => .ok (.text text)

/-- Why a text is not a multiaddress. -/
inductive Fault where
  | mustBeginWithSlash
  | empty
  | unknownProtocol (name : String)
  | unexpectedEnd
  | invalidValue (value : String) (protocol : String) (reason : String)
  | rejectedValue (reason : String)
  deriving DecidableEq, Repr

/-- A refused text, without its trailing slashes, and the first fault found in it. -/
structure ParseError where
  text : String
  fault : Fault
  deriving DecidableEq, Repr

/-- The report of a refused text. A value that reads but fails its check is reported by the
check's reason alone; every other fault names the text. -/
def ParseError.message (error : ParseError) : String :=
  let named (why : String) : String := "failed to parse multiaddr " ++ Text.quote error.text ++ ": " ++ why
  match error.fault with
  | .mustBeginWithSlash => named "must begin with /"
  | .empty => named "empty multiaddr"
  | .unknownProtocol name => named ("unknown protocol " ++ name)
  | .unexpectedEnd => named "unexpected end of multiaddr"
  | .invalidValue value protocol reason =>
    named ("invalid value " ++ Text.quote value ++ " for protocol " ++ protocol ++ ": " ++ reason)
  | .rejectedValue reason => reason

/-- Reads the components from the pieces between slashes. -/
def componentsOf : List String → Except Fault (List Component)
  | [] => .ok []
  | name :: rest =>
    match Protocol.ofName? name with
    | none => .error (.unknownProtocol name)
    | some protocol =>
      if protocol.kind = .none then (componentsOf rest).map (⟨protocol, none⟩ :: ·)
      else
        match rest with
        | [] => .error .unexpectedEnd
        | piece :: more =>
          let fault (value : String) : ValueError → Fault
            | .unreadable reason => .invalidValue value protocol.name reason
            | .rejected reason => .rejectedValue reason
          if protocol.kind = .path then
            let value := "/" ++ "/".intercalate (piece :: more)
            match readValue protocol.kind value with
            | .ok read => .ok [⟨protocol, some read⟩]
            | .error error => .error (fault value error)
          else
            match readValue protocol.kind piece with
            | .ok read => (componentsOf more).map (⟨protocol, some read⟩ :: ·)
            | .error error => .error (fault piece error)

/-- Reads a multiaddress from its text. -/
def parse (text : String) : Except ParseError Multiaddr :=
  let trimmed := String.ofList (text.toList.reverse.dropWhile (· == '/')).reverse
  let refuse (fault : Fault) : Except ParseError Multiaddr := .error ⟨trimmed, fault⟩
  match (trimmed.toList.splitOn '/').map String.ofList with
  | "" :: [] => refuse .empty
  | "" :: pieces =>
    match componentsOf pieces with
    | .ok components => .ok ⟨components⟩
    | .error fault => refuse fault
  | _ => refuse .mustBeginWithSlash

/-- The text of a multiaddress. -/
def render (address : Multiaddr) : String :=
  String.join <| address.components.map fun component =>
    "/" ++ component.protocol.name ++
      match component.value with
      | none => ""
      | some value =>
        let text := value.render
        if component.protocol.kind = .path && text.startsWith "/" then text else "/" ++ text

/-- The value of the first component of a protocol. -/
def valueOf? (address : Multiaddr) (name : String) : Option Value :=
  (address.components.find? (·.protocol.name == name)).bind (·.value)

/-- The multiaddress library of the command line. -/
def library : Library Multiaddr where
  read text := (parse text).mapError ParseError.message
  text := render
  valueFor address name := (address.valueOf? name).map Value.render
  transcode name value := (Protocol.ofName? name).bind fun protocol =>
    (readValue protocol.kind value).toOption.map Value.render

end PeerBook.Multiaddr
