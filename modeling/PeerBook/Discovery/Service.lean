import PeerBook.Book
import PeerBook.PeerFile
import PeerBook.Store.Blob
import PeerBook.Discovery.Seeds

/-!
# The discovery service

A discovery service owns an address book, a blob that keeps the book between runs, and a source
of peers to fall back on; each of the last two may be missing.

Address messages are merged into the book. Loading replaces the book's records with the saved
ones, put in a new order by the service's shuffle; nothing saved gives an empty book, and the
endpoints already handed out stay handed out. Storing saves the encoded book. Asking for peers
hands out the unserved book records that offer the required services; when there is none, the
fallback is asked once, for any services, and its valid, non-loopback endpoints are handed out
as they came, marked served but not added to the book. Without a fallback the answer is empty.
Shutting down releases the fallback once, however often it is asked.

A failure leaves the book as it was.
-/

namespace PeerBook.Discovery

open Store Seed

/-- Why a request to the service failed. -/
inductive ServiceError where
  /-- The service has no blob. -/
  | noBackend
  /-- The blob could not be read or written. -/
  | storage (message : String)
  /-- The saved bytes are not a peer file. -/
  | corrupt (error : PeerFile.DecodeError)
  /-- The fallback source failed. -/
  | unavailable (message : String)
  deriving DecidableEq, Repr

/-- The message of a failure. -/
def ServiceError.message : ServiceError → String
  | .noBackend => "peer address persistence failed: no backend configured"
  | .storage message => "peer address persistence failed: " ++ message
  | .corrupt error => "load peers: " ++ error.message
  | .unavailable message => "peer discovery unavailable: " ++ message

/-- The kinds of failure that callers tell service errors apart by. -/
inductive Sentinel where
  /-- The blob is missing or failed. -/
  | persistenceIO
  /-- The saved bytes are not a peer file. -/
  | corruptState
  /-- The fallback source failed. -/
  | discoveryUnavailable
  deriving DecidableEq, Repr

/-- The kind of failure an error is. -/
def ServiceError.sentinel : ServiceError → Sentinel
  | .noBackend | .storage _ => .persistenceIO
  | .corrupt _ => .corruptState
  | .unavailable _ => .discoveryUnavailable

/-- Exchanges the items at two positions of a list; a position past the end changes nothing. -/
def swapAt {α : Type} (items : List α) (first second : Nat) : List α :=
  match items[first]?, items[second]? with
  | some one, some other => (items.set first other).set second one
  | _, _ => items

/-- The order a shuffle gives to `count` items: the swaps it makes, in turn. -/
abbrev Shuffle := Nat → List (Nat × Nat)

/-- The shuffle that keeps the order. -/
def Shuffle.keep : Shuffle := fun _ => []

/-- The shuffle that reverses the order, swapping each item of the first half with the item as
far from the end. -/
def Shuffle.reverse : Shuffle := fun count =>
  (List.range (count / 2)).map fun index => (index, count - 1 - index)

/-- Items put in order by a shuffle. -/
def Shuffle.apply {α : Type} (shuffle : Shuffle) (items : List α) : List α :=
  (shuffle items.length).foldl (fun items (first, second) => swapAt items first second) items

/-- A book with its blob and fallback source. -/
structure Service (σ τ : Type) where
  book : Book := Book.empty
  blob : Option σ
  seeds : Option τ
  shuffle : Shuffle := Shuffle.keep
  /-- Whether the service was shut down. -/
  isShutDown : Bool := false

namespace Service

variable {σ τ : Type}

/-- Merges the records of an address message into the book. -/
def process (service : Service σ τ) (advertisements : List Advertisement) : Service σ τ :=
  { service with book := (service.book.mergeAll (advertisements.map (·.toRecord))).1 }

/-- The saved records, decoded and put in order by the shuffle: what loading puts in the book.
Nothing saved gives no records. -/
def readSaved [Blob σ] (service : Service σ τ) : Except ServiceError (List PeerRecord) :=
  match service.blob with
  | none => .error .noBackend
  | some blob =>
    match Blob.load blob with
    | .error message => .error (.storage message)
    | .ok none => .ok []
    | .ok (some bytes) =>
      match PeerFile.decode bytes with
      | .error error => .error (.corrupt error)
      | .ok records => .ok (service.shuffle.apply records)

/-- Replaces the book's records with the saved ones; the count is the new number of records. -/
def load [Blob σ] (service : Service σ τ) : Except ServiceError Nat × Service σ τ :=
  match service.readSaved with
  | .error error => (.error error, service)
  | .ok records =>
    let (book, count) := service.book.replace records
    (.ok count, { service with book := book })

/-- Saves the encoding of records in a blob, which becomes the service's. -/
def saveEncoded [Blob σ] (service : Service σ τ) (blob : σ) (records : List PeerRecord) :
    Except ServiceError Unit × Service σ τ :=
  match Blob.save blob (PeerFile.encode records) with
  | .error message => (.error (.storage message), service)
  | .ok blob => (.ok (), { service with blob := some blob })

/-- Saves the encoded book. -/
def store [Blob σ] (service : Service σ τ) : Except ServiceError Unit × Service σ τ :=
  match service.blob with
  | none => (.error .noBackend, service)
  | some blob => service.saveEncoded blob service.book.records

/-- Whether an endpoint from the fallback may be handed out: valid and not loopback. -/
def isUsable (endpoint : Endpoint) : Bool :=
  endpoint.addr.unmap.isValid && !endpoint.addr.unmap.isLoopback

/-- Asks the fallback for peers offering any services: its usable endpoints, as they came, or
why it failed; the fallback keeps what the question left in it. -/
def askSeeds [PeerSource τ] (service : Service σ τ) (seeds : τ) (context : Context)
    (timeout : Duration) : Except ServiceError (List Endpoint) × Service σ τ :=
  let (answer, seeds) := PeerSource.getPeers seeds context ServiceMask.empty timeout
  let service := { service with seeds := some seeds }
  match answer with
  | .error message => (.error (.unavailable message), service)
  | .ok endpoints => (.ok (endpoints.filter isUsable), service)

/-- Hands out peers offering the required services, from the book or else from the fallback. -/
def getPeers [PeerSource τ] (service : Service σ τ) (context : Context)
    (required : ServiceMask) (timeout : Duration) :
    Except ServiceError (List Endpoint) × Service σ τ :=
  let (book, taken) := service.book.takeMatching required
  if !taken.isEmpty then (.ok taken, { service with book := book })
  else
    match service.seeds with
    | none => (.ok [], service)
    | some seeds =>
      match service.askSeeds seeds context timeout with
      | (.error error, service) => (.error error, service)
      | (.ok usable, service) => (.ok usable, { service with book := service.book.markServed usable })

/-- Releases the fallback, the first time only. -/
def shutdown [PeerSource τ] (service : Service σ τ) : Service σ τ :=
  if service.isShutDown then service
  else { service with seeds := service.seeds.map PeerSource.shutdown, isShutDown := true }

end Service

end PeerBook.Discovery
