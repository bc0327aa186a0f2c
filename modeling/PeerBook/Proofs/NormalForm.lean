import PeerBook.PeerRecord

/-!
# Normal forms of addresses, endpoints and records

Normalizing an address unmaps it and drops its zone. The normal form is a fixed point: it is
neither mapped nor zoned, and normalizing it again changes nothing. Validity and loopback are
judged on the unmapped address, so normalizing keeps them, and an admissible record stays
admissible once normalized. These are the facts that let the book, the served set and the peer
file compare endpoints by their normal forms.
-/

namespace PeerBook

namespace IpAddr

/-- Whether an address is an IPv6 address that carries an IPv4 address. -/
def isMapped : IpAddr → Bool
  | .v6 groups _ => (carriedOctets? groups).isSome
  | _ => false

/-- The zone of an address, empty for none; only IPv6 addresses have one. -/
def zone : IpAddr → String
  | .v6 _ zone => zone
  | _ => ""

/-- What the book may keep of an address: valid, not loopback, not mapped and without zone. -/
structure IsStorable (address : IpAddr) : Prop where
  valid : address.isValid = true
  notLoopback : address.isLoopback = false
  notMapped : address.isMapped = false
  noZone : address.zone = ""

@[simp]
theorem unmap_unmap (address : IpAddr) : address.unmap.unmap = address.unmap := by
  cases address with
  | absent => rfl
  | v4 octets => rfl
  | v6 groups zone =>
      cases carried : carriedOctets? groups with
      | none => simp [unmap, carried]
      | some octets => simp [unmap, carried]

@[simp]
theorem isMapped_unmap (address : IpAddr) : address.unmap.isMapped = false := by
  cases address with
  | absent => rfl
  | v4 octets => rfl
  | v6 groups zone =>
      cases carried : carriedOctets? groups with
      | none => simp [unmap, isMapped, carried]
      | some octets => simp [unmap, isMapped, carried]

@[simp]
theorem unmap_withoutZone (address : IpAddr) :
    address.withoutZone.unmap = address.unmap.withoutZone := by
  cases address with
  | absent => rfl
  | v4 octets => rfl
  | v6 groups zone =>
      cases carried : carriedOctets? groups with
      | none => simp [unmap, withoutZone, carried]
      | some octets => simp [unmap, withoutZone, carried]

@[simp]
theorem isValid_withoutZone (address : IpAddr) :
    address.withoutZone.isValid = address.isValid := by
  cases address <;> rfl

@[simp]
theorem isMapped_withoutZone (address : IpAddr) :
    address.withoutZone.isMapped = address.isMapped := by
  cases address <;> rfl

@[simp]
theorem zone_withoutZone (address : IpAddr) : address.withoutZone.zone = "" := by
  cases address <;> rfl

/-- An address that is not mapped unmaps to itself. -/
theorem unmap_eq_self {address : IpAddr} (notMapped : address.isMapped = false) :
    address.unmap = address := by
  cases address with
  | absent => rfl
  | v4 octets => rfl
  | v6 groups zone =>
      have none : carriedOctets? groups = none := by
        simpa [isMapped] using notMapped
      simp [unmap, none]

@[simp]
theorem isLoopback_unmap (address : IpAddr) :
    address.unmap.isLoopback = address.isLoopback := by
  simp [isLoopback]

@[simp]
theorem isLoopback_withoutZone (address : IpAddr) :
    address.withoutZone.isLoopback = address.isLoopback := by
  unfold isLoopback
  rw [unmap_withoutZone]
  cases address.unmap <;> rfl

@[simp]
theorem unmap_normalize (address : IpAddr) : address.normalize.unmap = address.normalize := by
  simp [normalize]

@[simp]
theorem isMapped_normalize (address : IpAddr) : address.normalize.isMapped = false := by
  simp [normalize]

@[simp]
theorem zone_normalize (address : IpAddr) : address.normalize.zone = "" := by
  simp [normalize]

@[simp]
theorem isValid_normalize (address : IpAddr) :
    address.normalize.isValid = address.unmap.isValid := by
  simp [normalize]

@[simp]
theorem isLoopback_normalize (address : IpAddr) :
    address.normalize.isLoopback = address.isLoopback := by
  simp [normalize]

/-- An address is its own normal form exactly when it is neither mapped nor zoned. -/
theorem normalize_eq_self_iff (address : IpAddr) :
    address.normalize = address ↔ address.isMapped = false ∧ address.zone = "" := by
  constructor
  · intro fixed
    rw [← fixed]
    exact ⟨isMapped_normalize address, zone_normalize address⟩
  · rintro ⟨notMapped, noZone⟩
    rw [normalize, unmap_eq_self notMapped]
    cases address with
    | absent => rfl
    | v4 octets => rfl
    | v6 groups zone =>
        have empty : zone = "" := noZone
        simp [withoutZone, empty]

@[simp]
theorem normalize_normalize (address : IpAddr) :
    address.normalize.normalize = address.normalize :=
  (normalize_eq_self_iff _).mpr ⟨isMapped_normalize address, zone_normalize address⟩

end IpAddr

namespace Endpoint

@[simp]
theorem normalize_addr (endpoint : Endpoint) :
    endpoint.normalize.addr = endpoint.addr.normalize := rfl

@[simp]
theorem normalize_port (endpoint : Endpoint) : endpoint.normalize.port = endpoint.port := rfl

/-- An endpoint is its own normal form exactly when its address is neither mapped nor
zoned. -/
theorem normalize_eq_self_iff (endpoint : Endpoint) :
    endpoint.normalize = endpoint ↔
      endpoint.addr.isMapped = false ∧ endpoint.addr.zone = "" := by
  rw [← IpAddr.normalize_eq_self_iff]
  constructor
  · intro fixed
    exact congrArg Endpoint.addr fixed
  · intro fixed
    simp [normalize, fixed]

@[simp]
theorem normalize_normalize (endpoint : Endpoint) :
    endpoint.normalize.normalize = endpoint.normalize := by
  simp [normalize]

end Endpoint

namespace PeerRecord

@[simp]
theorem normalize_addr (record : PeerRecord) :
    record.normalize.addr = record.addr.normalize := rfl

@[simp]
theorem normalize_port (record : PeerRecord) : record.normalize.port = record.port := rfl

@[simp]
theorem normalize_services (record : PeerRecord) :
    record.normalize.services = record.services := rfl

@[simp]
theorem normalize_lastSeen (record : PeerRecord) :
    record.normalize.lastSeen = record.lastSeen := rfl

/-- The key of a normalized record is the normal form of the record's endpoint. -/
theorem endpoint_normalize (record : PeerRecord) :
    record.normalize.endpoint = record.endpoint.normalize := rfl

/-- The normal form of an admissible record is what the book may keep. -/
theorem isStorable_normalize {record : PeerRecord} (admissible : record.isAdmissible = true) :
    record.normalize.addr.IsStorable := by
  simp only [isAdmissible, Bool.and_eq_true, Bool.not_eq_eq_eq_not, Bool.not_true] at admissible
  obtain ⟨valid, notLoopback⟩ := admissible
  refine ⟨?_, ?_, ?_, ?_⟩
  · simpa using valid
  · simpa using notLoopback
  · simp
  · simp

end PeerRecord

end PeerBook
