import PeerBook.Seed.Resolver
import PeerBook.Services

/-!
# Peer sources

A peer source answers a request for peers that offer some services within a timeout: a list of
endpoints or a failure. Asking may change the source, which keeps what it needs to answer later
requests, and a source can be shut down.

Two sources are given. Scripted seeds answer from a list of prepared answers, one per request
and then empty lists, and keep every request and shutdown they saw. Resolver seeds ask DNS
seeds through a lookup and keep every host they looked up.
-/

namespace PeerBook.Discovery

open Seed

/-- A source of peers. -/
class PeerSource (τ : Type) where
  /-- The peers for a request, or why there are none, and the source after it. -/
  getPeers : τ → Context → ServiceMask → Duration → Except String (List Endpoint) × τ
  /-- The source once released. -/
  shutdown : τ → τ

/-- A request seen by scripted seeds. -/
structure SeedCall where
  services : ServiceMask
  timeout : Duration
  deriving DecidableEq, Repr

/-- Seeds that answer from a script, keeping what they are asked. -/
structure ScriptedSeeds where
  /-- The answer to each request in turn. -/
  script : List (Except String (List Endpoint))
  /-- The requests so far, in order. -/
  calls : List SeedCall := []
  /-- How many times the seeds were shut down. -/
  shutdowns : Nat := 0

instance : PeerSource ScriptedSeeds where
  getPeers seeds _ services timeout :=
    (seeds.script.getD seeds.calls.length (.ok []),
      { seeds with calls := seeds.calls ++ [⟨services, timeout⟩] })
  shutdown seeds := { seeds with shutdowns := seeds.shutdowns + 1 }

/-- A resolver of DNS seeds with the lookup it uses, keeping the hosts looked up. -/
structure ResolverSeeds where
  resolver : Resolver
  lookup : Lookup
  /-- The hosts looked up so far, in order. -/
  lookups : List String := []

instance : PeerSource ResolverSeeds where
  getPeers seeds context _ timeout :=
    let (answer, tried) := seeds.resolver.getPeers seeds.lookup context timeout
    (answer.mapError ResolveError.message, { seeds with lookups := seeds.lookups ++ tried })
  shutdown seeds := seeds

/-- A peer source of either kind. -/
inductive SeedSource where
  | scripted (seeds : ScriptedSeeds)
  | resolving (seeds : ResolverSeeds)

instance : PeerSource SeedSource where
  getPeers
    | .scripted seeds, context, services, timeout =>
      let (answer, seeds) := PeerSource.getPeers seeds context services timeout
      (answer, .scripted seeds)
    | .resolving seeds, context, services, timeout =>
      let (answer, seeds) := PeerSource.getPeers seeds context services timeout
      (answer, .resolving seeds)
  shutdown
    | .scripted seeds => .scripted (PeerSource.shutdown seeds)
    | .resolving seeds => .resolving (PeerSource.shutdown seeds)

end PeerBook.Discovery
