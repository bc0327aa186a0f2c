import PeerBook.Net.IpAddr.Text

/-!
# Endpoints

An endpoint is an IP address and a port. Its text is the address, a colon and the port, with an
IPv6 address (zone included) between square brackets; an endpoint with the absent address is
written `invalid AddrPort`.

Reading an endpoint cuts its text at the last colon. The port is a decimal number below 65536.
The address is bracketed exactly when it is an IPv6 address, mapped ones included.
-/

namespace PeerBook

/-- An IP address and a port. -/
structure Endpoint where
  addr : IpAddr
  port : UInt16
  deriving DecidableEq, Repr, Inhabited, Hashable

namespace Endpoint

/-- The endpoint a peer is known by: its address normalized, its port kept. -/
def normalize (endpoint : Endpoint) : Endpoint :=
  ⟨endpoint.addr.normalize, endpoint.port⟩

/-- The text of an endpoint. -/
def render (endpoint : Endpoint) : String :=
  match endpoint.addr with
  | .absent => "invalid AddrPort"
  | .v4 _ => endpoint.addr.render ++ ":" ++ toString endpoint.port.toNat
  | .v6 _ _ => "[" ++ endpoint.addr.render ++ "]:" ++ toString endpoint.port.toNat

/-- Reads an endpoint from its text. -/
def parse? (text : String) : Option Endpoint := do
  let chars := text.toList
  let colon ← (List.range chars.length).reverse.find? fun index => chars[index]? == some ':'
  let host := chars.take colon
  let portText := chars.drop (colon + 1)
  if host.isEmpty || portText.isEmpty then none
  let port ← (Numeral.readNat (.fixed 10) 16 (String.ofList portText)).toOption
  let (bracketed, inner) := match host with
    | '[' :: rest =>
      if rest.getLast? == some ']' then (true, some rest.dropLast) else (true, none)
    | _ => (false, some host)
  let address ← IpAddr.parse? (String.ofList (← inner))
  if bracketed == address.is6 then some ⟨address, port.toUInt16⟩ else none

end Endpoint

end PeerBook
