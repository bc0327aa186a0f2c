import PeerBook.Calendar
import PeerBook.Net.Endpoint
import PeerBook.Services

/-!
# Peer records

A peer record is what the book knows of a peer: address, port, offered services, and when it was
last seen, in Unix seconds. A record is admissible when its unmapped address is valid and not a
loopback address; only admissible records enter the book or the peer file. The normal form of a
record has its address normalized (unmapped, zone dropped), and its key is its normalized
endpoint.

An advertisement is what a peer says of another: the same fields, with the time given as seconds
and nanoseconds. It becomes a normalized record.
-/

namespace PeerBook

/-- What the book knows of a peer. -/
structure PeerRecord where
  addr : IpAddr
  port : UInt16
  services : ServiceMask
  lastSeen : Int64
  deriving DecidableEq, Repr, Inhabited

namespace PeerRecord

/-- The endpoint of a record. -/
def endpoint (record : PeerRecord) : Endpoint := ⟨record.addr, record.port⟩

/-- Whether a record may enter the book: its unmapped address is valid and not loopback. -/
def isAdmissible (record : PeerRecord) : Bool :=
  record.addr.unmap.isValid && !record.addr.unmap.isLoopback

/-- The record with its address normalized. -/
def normalize (record : PeerRecord) : PeerRecord :=
  { record with addr := record.addr.normalize }

/-- Whether a record offers every required service. -/
def hasServices (record : PeerRecord) (required : ServiceMask) : Bool :=
  record.services.covers required

/-- When a record was last seen, in RFC 3339 UTC. -/
def timeText (record : PeerRecord) : String :=
  Calendar.rfc3339 record.lastSeen

end PeerRecord

/-- What a peer says of another peer, with the time in seconds and nanoseconds. -/
structure Advertisement where
  addr : IpAddr
  port : UInt16
  services : ServiceMask
  seconds : Int64
  nanos : Int64
  deriving DecidableEq, Repr, Inhabited

/-- The normalized record an advertisement stands for. -/
def Advertisement.toRecord (advertisement : Advertisement) : PeerRecord :=
  PeerRecord.normalize
    { addr := advertisement.addr, port := advertisement.port, services := advertisement.services,
      lastSeen := Calendar.unixSeconds advertisement.seconds advertisement.nanos }

end PeerBook
