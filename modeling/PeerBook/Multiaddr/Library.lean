import PeerBook.Net.Endpoint
import PeerBook.Text.Quoted

/-!
# Endpoints as multiaddresses

A peer's endpoint is written as a multiaddress `/ip4/<address>/tcp/<port>` or
`/ip6/<address>/tcp/<port>`, and read back from one. Multiaddresses belong to a library, taken
here as a parameter: the three calls endpoints make of it (reading a text, writing a
multiaddress, the text of the first value of a protocol) and the transcoders of its protocols,
which read the text of a value into bytes and write bytes back as text.

`Library.Transcodes` is what endpoints rely on in such a library. A text of an address
component and a `tcp` component is read through the transcoders of the two protocols, as exactly
those components, and written back with each value as its transcoder writes it. The `ip4`,
`ip6` and `tcp` transcoders give back unchanged the text of an IPv4 address, of an IPv6 address
that carries none, and of a port below 2^16. No `ip4` or `ip6` value is written with a zone.

Writing an endpoint unmaps its address, drops its zone and has the library read
`/ip4/<address>/tcp/<port>`, or `/ip6/...` for an IPv6 address. Reading one takes the first `ip4`
value, else the first `ip6` value, and the first `tcp` value; it reads the address from its
text, the port as a decimal number below 2^16, and unmaps the address. Each step that can fail
has its own report.
-/

namespace PeerBook.Multiaddr

/-- The calls endpoints make of a multiaddress library, over its type of multiaddresses. -/
structure Library (Address : Type) where
  /-- Reads a text into a multiaddress, or says why it cannot. -/
  read : String → Except String Address
  /-- The text of a multiaddress. -/
  text : Address → String
  /-- The text of the value of the first component of a protocol, by the protocol's name. -/
  valueFor : Address → String → Option String
  /-- What the transcoder of a protocol, by name, writes back for the bytes it reads from the
  text of a value, if it reads it. -/
  transcode : String → String → Option String

variable {Address : Type}

/-- What endpoints rely on in a multiaddress library: how it reads and writes an address
component and a `tcp` component, what its `ip4`, `ip6` and `tcp` transcoders make of the texts
endpoints give them, and that its address values carry no zone. -/
structure Library.Transcodes (library : Library Address) : Prop where
  readsHostTcp : ∀ {name value port shownValue shownPort : String},
    (name = "ip4" ∨ name = "ip6") → '/' ∉ value.toList → '/' ∉ port.toList →
    library.transcode name value = some shownValue → library.transcode "tcp" port = some shownPort →
    ∃ address, library.read ("/" ++ name ++ "/" ++ value ++ "/tcp/" ++ port) = .ok address ∧
      library.text address = "/" ++ name ++ "/" ++ shownValue ++ "/tcp/" ++ shownPort ∧
      ∀ protocol, library.valueFor address protocol =
        if protocol = name then some shownValue
        else if protocol = "tcp" then some shownPort else none
  ip4 : ∀ octets,
    library.transcode "ip4" (IpAddr.octetsText octets) = some (IpAddr.octetsText octets)
  ip6 : ∀ groups, IpAddr.carriedOctets? groups = none →
    library.transcode "ip6" (IpAddr.groupsText groups.toList) =
      some (IpAddr.groupsText groups.toList)
  tcp : ∀ port, port < 65536 → library.transcode "tcp" (toString port) = some (toString port)
  unzoned : ∀ {text address protocol value}, library.read text = .ok address →
    (protocol = "ip4" ∨ protocol = "ip6") → library.valueFor address protocol = some value →
    '%' ∉ value.toList

/-- Why a multiaddress text gives no endpoint. -/
inductive EndpointError where
  /-- The library cannot read the text, for the reason it gives. -/
  | malformed (reason : String)
  | noAddress
  | noTcpPort
  /-- The address value is not the text of an IP address. -/
  | badAddress (host : String)
  /-- The port value is not a decimal number below 2^16. -/
  | badPort (refusal : Numeral.Refusal)
  deriving DecidableEq, Repr

/-- The report of a text that gives no endpoint. -/
def EndpointError.message (text : String) : EndpointError → String
  | .malformed reason => "parse multiaddr " ++ Text.quote text ++ ": " ++ reason
  | .noAddress => "multiaddr " ++ Text.quote text ++ ": no ip4 or ip6 component"
  | .noTcpPort => "multiaddr " ++ Text.quote text ++ ": no tcp component"
  | .badAddress host =>
    "multiaddr " ++ Text.quote text ++ ": ParseAddr(" ++ Text.quote host ++ "): unable to parse IP"
  | .badPort refusal => "multiaddr " ++ Text.quote text ++ ": bad port: " ++ refusal.message

/-- The multiaddress of an endpoint: its address unmapped and without zone, then its port. -/
def ofEndpoint (library : Library Address) (endpoint : Endpoint) : Except String Address :=
  let address := endpoint.addr.unmap
  let kind := if address.is4 then "ip4" else "ip6"
  library.read ("/" ++ kind ++ "/" ++ address.withoutZone.render ++ "/tcp/" ++
    toString endpoint.port.toNat)

/-- The endpoint a multiaddress text names. -/
def endpointOf (library : Library Address) (text : String) : Except EndpointError Endpoint := do
  let address ← (library.read text).mapError .malformed
  let some host := library.valueFor address "ip4" <|> library.valueFor address "ip6"
    | throw .noAddress
  let some portText := library.valueFor address "tcp" | throw .noTcpPort
  let some ip := IpAddr.parse? host | throw (.badAddress host)
  let port ← (Numeral.readNatReported (.fixed 10) 16 portText).mapError .badPort
  return ⟨ip.unmap, port.toUInt16⟩

end PeerBook.Multiaddr
