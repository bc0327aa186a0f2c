import PeerBook.Discovery.Service

/-!
# Calls of the discovery service in flight

Callers may use one discovery service at once. A call takes the book's lock once for each book
method it uses and calls the blob and the fallback source outside that lock, so a call in
flight is a short program of atomic steps:

* handling an address message merges its records (the size read after it only feeds the logs);
* loading reads, decodes and shuffles the saved records, then replaces the book's records;
* storing takes a snapshot of the records, then saves their encoding;
* a request for peers takes the unserved matching records; when there is none and there is a
  fallback, it asks the fallback, then marks the usable answer served and hands it out.

A schedule picks, step after step, which call moves. The steps are the service's own parts
(`Service.readSaved`, `Service.saveEncoded`, `Service.askSeeds` and the book's methods), and a
ghost history keeps what requests for peers handed out, in the order of the steps that did.
-/

namespace PeerBook.Discovery

open Store Seed

/-- A call of the discovery service, as its caller makes it. -/
inductive Call where
  | process (advertisements : List Advertisement)
  | load
  | store
  | getPeers (context : Context) (required : ServiceMask) (timeout : Duration)

/-- How far a call in flight has got. -/
inductive Progress where
  | start (call : Call)
  /-- A load that read its records, before it replaces the book's with them. -/
  | replacing (records : List PeerRecord)
  /-- A store that took a snapshot of the records, before it saves their encoding. -/
  | saving (records : List PeerRecord)
  /-- A request for peers that found no unserved match, before it asks the fallback. -/
  | asking (context : Context) (timeout : Duration)
  /-- A request for peers holding the fallback's usable answer, before it marks it served. -/
  | marking (endpoints : List Endpoint)
  | finished

/-- Endpoints a request for peers handed out: taken from the book, or the fallback's answer. -/
inductive Handout where
  | cache (endpoints : List Endpoint)
  | seeds (endpoints : List Endpoint)

/-- The endpoints handed out. -/
def Handout.endpoints : Handout → List Endpoint
  | .cache endpoints => endpoints
  | .seeds endpoints => endpoints

namespace Service

variable {σ τ : Type} [Blob σ] [PeerSource τ]

/-- One atomic step of a call in flight: the service after it, how far the call got, and what
it handed out. -/
def advance (service : Service σ τ) : Progress → Service σ τ × Progress × List Handout
  | .start (.process advertisements) => (service.process advertisements, .finished, [])
  | .start .load =>
    match service.readSaved with
    | .error _ => (service, .finished, [])
    | .ok records => (service, .replacing records, [])
  | .replacing records =>
    ({ service with book := (service.book.replace records).1 }, .finished, [])
  | .start .store =>
    match service.blob with
    | none => (service, .finished, [])
    | some _ => (service, .saving service.book.records, [])
  | .saving records =>
    match service.blob with
    | none => (service, .finished, [])
    | some blob => ((service.saveEncoded blob records).2, .finished, [])
  | .start (.getPeers context required timeout) =>
    let (book, taken) := service.book.takeMatching required
    if !taken.isEmpty then ({ service with book := book }, .finished, [.cache taken])
    else
      match service.seeds with
      | none => (service, .finished, [])
      | some _ => (service, .asking context timeout, [])
  | .asking context timeout =>
    match service.seeds with
    | none => (service, .finished, [])
    | some seeds =>
      match service.askSeeds seeds context timeout with
      | (.error _, service) => (service, .finished, [])
      | (.ok usable, service) => (service, .marking usable, [])
  | .marking endpoints =>
    ({ service with book := service.book.markServed endpoints }, .finished, [.seeds endpoints])
  | .finished => (service, .finished, [])

end Service

/-- Calls in flight on one service, and what requests for peers handed out so far. -/
structure Concurrent (σ τ : Type) where
  service : Service σ τ
  calls : List Progress
  /-- Everything handed out so far, in the order of the steps that handed it out. -/
  handedOut : List Handout := []

namespace Concurrent

variable {σ τ : Type} [Blob σ] [PeerSource τ]

/-- A service with calls just made, none of them begun. -/
def start (service : Service σ τ) (calls : List Call) : Concurrent σ τ :=
  { service := service, calls := calls.map .start }

/-- One atomic step of the call at `index`; an index with no call changes nothing. -/
def step (system : Concurrent σ τ) (index : Nat) : Concurrent σ τ :=
  match system.calls[index]? with
  | none => system
  | some progress =>
    let (service, progress, handed) := system.service.advance progress
    { service := service, calls := system.calls.set index progress,
      handedOut := system.handedOut ++ handed }

/-- The calls in flight after the steps a schedule picks, in turn. -/
def run (system : Concurrent σ τ) (schedule : List Nat) : Concurrent σ τ :=
  schedule.foldl step system

end Concurrent

end PeerBook.Discovery
