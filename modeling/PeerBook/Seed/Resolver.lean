import PeerBook.Duration
import PeerBook.Net.Endpoint
import PeerBook.Seed.Lookup

/-!
# Seed resolver

A resolver asks its DNS seeds, in order, for peers, and gives each address it learns the
network's port. A positive timeout gives the request a deadline. Before each seed it checks the
request: once the request has ended it stops.
A seed whose lookup fails is passed over. The answer is an error when no seed was looked up
with success, counting the seeds that were never tried too, and it names the last failure, or
how the request ended when that stopped the round. Otherwise it is every address learned,
normalized, without invalid, loopback and unspecified ones, each endpoint once, in the order
first learned.
-/

namespace PeerBook.Seed

/-- DNS seeds and the port given to what they return. -/
structure Resolver where
  seeds : List String
  port : UInt16
  deriving DecidableEq, Repr

/-- Why a resolver found no peers. -/
inductive ResolveError where
  /-- There are no seeds to ask. -/
  | noSeeds
  /-- Every seed tried failed, or none could be tried; `seedCount` counts all seeds. -/
  | allFailed (seedCount : Nat) (lastError : String)
  deriving DecidableEq, Repr

/-- The message of a failed resolution. -/
def ResolveError.message : ResolveError → String
  | .noSeeds => "no dns seeds configured"
  | .allFailed seedCount lastError => s!"{seedCount} dns seeds failed: {lastError}"

/-- The resolver as it describes itself: its seeds, in brackets, separated by spaces. -/
def Resolver.name (resolver : Resolver) : String :=
  "DNS seeds [" ++ " ".intercalate resolver.seeds ++ "]"

/-- What a round of lookups has gathered so far. -/
structure Round where
  context : Context
  tried : List String := []
  failures : Nat := 0
  lastError : String := ""
  peers : List Endpoint := []
  deriving Repr

/-- Adds the usable addresses of one answer, each endpoint once. -/
def Round.learn (round : Round) (port : UInt16) (addresses : List IpAddr) : Round :=
  addresses.foldl (fun round address =>
    let address := address.normalize
    let endpoint : Endpoint := ⟨address, port⟩
    if !address.isValid || address.isLoopback || address.isUnspecified ||
        round.peers.contains endpoint then round
    else { round with peers := round.peers ++ [endpoint] }) round

/-- Asks the seeds in order until they run out or the request ends. -/
def Round.run (lookup : Lookup) (port : UInt16) : Round → List String → Round
  | round, [] => round
  | round, host :: rest =>
    match round.context.ended with
    | some ending => { round with lastError := ending.message }
    | none =>
      let result := lookup host round.context
      let round := { round with context := result.context, tried := round.tried ++ [host] }
      match result.answer with
      | .error message =>
        Round.run lookup port { round with failures := round.failures + 1, lastError := message } rest
      | .ok addresses => Round.run lookup port (round.learn port addresses) rest

/-- The peers the seeds give, and the hosts looked up, in order. -/
def Resolver.getPeers (resolver : Resolver) (lookup : Lookup) (context : Context)
    (timeout : Duration) : Except ResolveError (List Endpoint) × List String :=
  if resolver.seeds.isEmpty then (.error .noSeeds, [])
  else
    let context := if 0 < timeout.toInt then { context with hasDeadline := true } else context
    let round := Round.run lookup resolver.port { context := context } resolver.seeds
    if round.failures == round.tried.length then
      (.error (.allFailed resolver.seeds.length round.lastError), round.tried)
    else (.ok round.peers, round.tried)

end PeerBook.Seed
