/-!
# IP addresses

An IP address is absent (the zero address, which no text denotes), an IPv4 address of four
octets, or an IPv6 address of eight 16-bit groups with a zone, the empty zone meaning none.

An IPv6 address whose first five groups are zero and whose sixth is `ffff` carries an IPv4
address. Unmapping turns such an address into the IPv4 address it carries and drops its zone;
normalizing unmaps and then drops any zone, so that the normal form of an address is what a
peer is known by.
-/

namespace PeerBook

/-- An IP address: none, four octets, or eight groups with a zone. -/
inductive IpAddr where
  /-- The zero address, which is not valid. -/
  | absent
  /-- An IPv4 address, most significant octet first. -/
  | v4 (octets : Vector UInt8 4)
  /-- An IPv6 address, most significant group first, and its zone (empty for none). -/
  | v6 (groups : Vector UInt16 8) (zone : String)
  deriving DecidableEq, Repr, Inhabited

namespace IpAddr

/-- Addresses hash by their octets or groups and zone, so that endpoints can key a hash map. -/
instance : Hashable IpAddr where
  hash
    | .absent => 0
    | .v4 octets => mixHash 4 (hash octets.toArray)
    | .v6 groups zone => mixHash (hash groups.toArray) (hash zone)

/-- The four octets of an IPv4 address, in order. -/
def octets (a b c d : UInt8) : Vector UInt8 4 := #v[a, b, c, d]

/-- The group made of two octets, the first the more significant. -/
def groupOf (high low : UInt8) : UInt16 :=
  high.toUInt16 * 256 + low.toUInt16

/-- The IPv6 groups that carry an IPv4 address. -/
def mappedGroups (octets : Vector UInt8 4) : Vector UInt16 8 :=
  #v[0, 0, 0, 0, 0, 0xFFFF, groupOf octets[0] octets[1], groupOf octets[2] octets[3]]

/-- The IPv4 address that IPv6 groups carry, if they carry one. -/
def carriedOctets? (groups : Vector UInt16 8) : Option (Vector UInt8 4) :=
  if groups[0] = 0 ∧ groups[1] = 0 ∧ groups[2] = 0 ∧ groups[3] = 0 ∧ groups[4] = 0 ∧
      groups[5] = 0xFFFF then
    some #v[(groups[6] >>> 8).toUInt8, groups[6].toUInt8, (groups[7] >>> 8).toUInt8,
      groups[7].toUInt8]
  else none

/-- The IPv6 form of an IPv4 address, without zone. -/
def mapped (octets : Vector UInt8 4) : IpAddr := .v6 (mappedGroups octets) ""

/-- Whether an address is present. -/
def isValid : IpAddr → Bool
  | .absent => false
  | _ => true

/-- Whether an address is an IPv4 address (a mapped IPv6 address is not). -/
def is4 : IpAddr → Bool
  | .v4 _ => true
  | _ => false

/-- Whether an address is an IPv6 address, mapped or not. -/
def is6 : IpAddr → Bool
  | .v6 _ _ => true
  | _ => false

/-- The IPv4 address a mapped IPv6 address carries, with the zone dropped; other addresses stay
as they are. -/
def unmap : IpAddr → IpAddr
  | .v6 groups zone =>
    match carriedOctets? groups with
    | some octets => .v4 octets
    | none => .v6 groups zone
  | address => address

/-- The address without its zone. -/
def withoutZone : IpAddr → IpAddr
  | .v6 groups _ => .v6 groups ""
  | address => address

/-- The form a peer is known by: unmapped, without zone. -/
def normalize (address : IpAddr) : IpAddr :=
  address.unmap.withoutZone

/-- Whether an address is a loopback address: `127.0.0.0/8`, or `::1` in any zone. A mapped
address is judged by the IPv4 address it carries. -/
def isLoopback (address : IpAddr) : Bool :=
  match address.unmap with
  | .v4 octets => octets[0] = 127
  | .v6 groups _ => groups = #v[0, 0, 0, 0, 0, 0, 0, 1]
  | .absent => false

/-- Whether an address is the unspecified address `0.0.0.0`, or `::` without zone. -/
def isUnspecified : IpAddr → Bool
  | .v4 octets => octets = #v[0, 0, 0, 0]
  | .v6 groups zone => groups = #v[0, 0, 0, 0, 0, 0, 0, 0] && zone.isEmpty
  | .absent => false

/-- The octets of a group, most significant first. -/
def groupOctets (group : UInt16) : List UInt8 :=
  [(group >>> 8).toUInt8, group.toUInt8]

/-- The bytes of an address, without its zone: four for IPv4, sixteen for IPv6, none for the
absent address. -/
def toBytes : IpAddr → List UInt8
  | .absent => []
  | .v4 octets => octets.toList
  | .v6 groups _ => groups.toList.flatMap groupOctets

/-- The address of four or sixteen bytes, without zone. -/
def ofBytes? : List UInt8 → Option IpAddr
  | [a, b, c, d] => some (.v4 (octets a b c d))
  | [a0, a1, b0, b1, c0, c1, d0, d1, e0, e1, f0, f1, g0, g1, h0, h1] =>
    some (.v6 #v[groupOf a0 a1, groupOf b0 b1, groupOf c0 c1, groupOf d0 d1, groupOf e0 e1,
      groupOf f0 f1, groupOf g0 g1, groupOf h0 h1] "")
  | _ => none

end IpAddr

end PeerBook
