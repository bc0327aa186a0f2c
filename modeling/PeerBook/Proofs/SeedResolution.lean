import PeerBook.Seed.Resolver

/-!
# What a seed resolver answers

A resolver keeps three counters while it asks its seeds: the hosts tried, the failures, and the
last error, and it learns endpoints one address at a time, skipping unusable addresses and
endpoints it already has. This module describes the answer without the counters. The lookups a
round makes are the seeds taken in order, each looked up in the request as the lookup before it
left it, until the seeds run out or the request has ended before a seed (`attempts`). From them:
the request fails when no lookup succeeded, none attempted included, naming every configured
seed and how the request ended, if that stopped the round, or else the last lookup's failure;
otherwise it answers the usable endpoints of all answers in the order of the lookups, each
endpoint once, at its first place (`Resolver.resolution`).

Main statement (`Resolver.getPeers_eq_resolution`): the resolver answers exactly that, for every
list of seeds, port, lookup, request and timeout. It rests on one description of learning
(`Round.learn_eq`: the endpoints learned so far, with duplicates erased) and one of a whole round
(`Round.run_gathers`), proved by induction over the seeds.
-/

namespace PeerBook.Seed

/-- The endpoints at a port of the addresses worth handing out: each address normalized, and kept
when it is valid, not loopback and not unspecified. -/
def usableEndpoints (port : UInt16) (addresses : List IpAddr) : List Endpoint :=
  ((addresses.map IpAddr.normalize).filter fun address =>
    address.isValid && !address.isLoopback && !address.isUnspecified).map (Endpoint.mk · port)

@[simp]
theorem usableEndpoints_nil (port : UInt16) : usableEndpoints port [] = [] := rfl

@[simp]
theorem usableEndpoints_append (port : UInt16) (first second : List IpAddr) :
    usableEndpoints port (first ++ second) =
      usableEndpoints port first ++ usableEndpoints port second := by
  simp [usableEndpoints]

/-- The lookups of a round in the order made, each with its answer, and how the request had ended
when that stopped the round before a seed. -/
structure Attempts where
  calls : List (String × Except String (List IpAddr))
  stop : Option Ending

/-- The lookups made for the seeds: each seed in turn is looked up in the request as the lookup
before it left it, until the seeds run out or the request has ended before a seed. -/
def attempts (lookup : Lookup) : Context → List String → Attempts
  | _, [] => ⟨[], none⟩
  | context, host :: rest =>
    match context.ended with
    | some ending => ⟨[], some ending⟩
    | none =>
      let result := lookup host context
      let later := attempts lookup result.context rest
      ⟨(host, result.answer) :: later.calls, later.stop⟩

namespace Attempts

/-- The hosts looked up, in order. -/
def hosts (made : Attempts) : List String := made.calls.map Prod.fst

/-- The addresses of the lookups that succeeded, in order. -/
def learned (made : Attempts) : List IpAddr :=
  made.calls.flatMap fun call => call.2.toOption.getD []

/-- How many lookups failed. -/
def failureCount (made : Attempts) : Nat := made.calls.countP fun call => !call.2.isOk

/-- The failures of the lookups that failed, in order. -/
def failures (made : Attempts) : List String :=
  made.calls.filterMap fun call =>
    match call.2 with
    | .error message => some message
    | .ok _ => none

/-- The error the round ends on: how the request ended, if that stopped the round, or else the
last failure, or `before` when no lookup failed. -/
def lastError (made : Attempts) (before : String) : String :=
  match made.stop with
  | some ending => ending.message
  | none => made.failures.getLast?.getD before

end Attempts

/-- What asking the seeds should answer, read off the lookups made: with no seeds, that there are
none, and nothing looked up. Otherwise the request gets a deadline when the timeout is positive,
and the answer is a failure counting every seed and naming the round's last error when no lookup
succeeded, or else the usable endpoints of the successful lookups at the resolver's port, each
endpoint once and in the order first learned; with the hosts looked up. -/
def Resolver.resolution (resolver : Resolver) (lookup : Lookup) (context : Context)
    (timeout : Duration) : Except ResolveError (List Endpoint) × List String :=
  if resolver.seeds = [] then (.error .noSeeds, [])
  else
    let made := attempts lookup
      (if 0 < timeout.toInt then { context with hasDeadline := true } else context) resolver.seeds
    if made.calls.any (·.2.isOk) then
      (.ok (usableEndpoints resolver.port made.learned).eraseDups, made.hosts)
    else (.error (.allFailed resolver.seeds.length (made.lastError "")), made.hosts)

private theorem eraseDups_append_singleton {α : Type} [BEq α] [LawfulBEq α] (items : List α)
    (item : α) :
    (items ++ [item]).eraseDups =
      if item ∈ items then items.eraseDups else items.eraseDups ++ [item] := by
  rw [List.eraseDups_append]
  by_cases held : item ∈ items
  · simp [held, List.removeAll]
  · simp [held, List.removeAll, List.eraseDups_cons]

private theorem countP_not_eq_length {α : Type} (test : α → Bool) (items : List α) :
    (items.countP (fun item => !test item) == items.length) = !items.any test := by
  rw [Bool.eq_iff_iff, beq_iff_eq, List.countP_eq_length]
  simp

namespace Round

/-- One address's turn in learning. -/
theorem learn_cons (round : Round) (port : UInt16) (address : IpAddr) (addresses : List IpAddr) :
    round.learn port (address :: addresses) =
      (if !address.normalize.isValid || address.normalize.isLoopback ||
          address.normalize.isUnspecified || round.peers.contains ⟨address.normalize, port⟩ then
        round
      else { round with peers := round.peers ++ [⟨address.normalize, port⟩] }).learn port
        addresses := rfl

private theorem skipped_eq_not_usable (valid loopback unspecified : Bool) :
    (!valid || loopback || unspecified) = !(valid && !loopback && !unspecified) := by
  cases valid <;> cases loopback <;> cases unspecified <;> rfl

/-- Learning from addresses whose round holds the endpoints `seen` with duplicates erased holds
the endpoints seen and the usable endpoints of the addresses, with duplicates erased; nothing
else of the round changes. -/
theorem learn_eq (round : Round) (port : UInt16) (addresses : List IpAddr) (seen : List Endpoint)
    (deduplicated : round.peers = seen.eraseDups) :
    round.learn port addresses =
      { round with peers := (seen ++ usableEndpoints port addresses).eraseDups } := by
  induction addresses generalizing round seen with
  | nil =>
      rw [← List.append_nil seen] at deduplicated
      rw [usableEndpoints_nil, ← deduplicated]
      rfl
  | cons address addresses induction =>
      rw [learn_cons, skipped_eq_not_usable]
      cases usable : (address.normalize.isValid && !address.normalize.isLoopback &&
          !address.normalize.isUnspecified) with
      | true =>
          -- A usable address adds its endpoint unless the round already has it; either way the
          -- round holds the endpoints seen and this one, with duplicates erased.
          have further : seen ++ usableEndpoints port (address :: addresses) =
              (seen ++ [⟨address.normalize, port⟩]) ++ usableEndpoints port addresses := by
            simp [usableEndpoints, usable]
          rw [Bool.not_true, Bool.false_or, further]
          by_cases known : (⟨address.normalize, port⟩ : Endpoint) ∈ seen
          · have contained : round.peers.contains ⟨address.normalize, port⟩ = true := by
              simpa [deduplicated, List.mem_eraseDups] using known
            rw [contained, if_pos rfl]
            refine induction round _ ?_
            rw [eraseDups_append_singleton, if_pos known, deduplicated]
          · have absent : round.peers.contains ⟨address.normalize, port⟩ = false := by
              simpa [deduplicated, List.mem_eraseDups] using known
            rw [absent, if_neg Bool.false_ne_true]
            refine induction _ _ ?_
            rw [eraseDups_append_singleton, if_neg known, deduplicated]
      | false =>
          -- An unusable address changes nothing.
          have dropped : usableEndpoints port (address :: addresses) =
              usableEndpoints port addresses := by
            simp [usableEndpoints, usable]
          rw [Bool.not_false, Bool.true_or, if_pos rfl, dropped]
          exact induction round seen deduplicated

/-- What a round `finished` holds after the lookups `made`, against the round `start` it began
as: the hosts tried, the failures counted, the last error, and the usable endpoints learned, with
`seen` the endpoints `start` had learned. -/
structure Gathers (start finished : Round) (port : UInt16) (seen : List Endpoint)
    (made : Attempts) : Prop where
  tried : finished.tried = start.tried ++ made.hosts
  failures : finished.failures = start.failures + made.failureCount
  lastError : finished.lastError = made.lastError start.lastError
  peers : finished.peers = (seen ++ usableEndpoints port made.learned).eraseDups

/-- A round that makes no lookup gathers nothing, and ends on how the request ended, if it did. -/
theorem Gathers.nil {start : Round} {port : UInt16} {seen : List Endpoint}
    (deduplicated : start.peers = seen.eraseDups) (stop : Option Ending) :
    Gathers start { start with lastError := (⟨[], stop⟩ : Attempts).lastError start.lastError }
      port seen ⟨[], stop⟩ where
  tried := by simp [Attempts.hosts]
  failures := by simp [Attempts.failureCount]
  lastError := rfl
  peers := by simp [Attempts.learned, deduplicated]

/-- One lookup's turn: a round that gathers the later lookups from where the lookup of `host`
left it gathers them all, that lookup first. -/
theorem Gathers.cons {start next finished : Round} {port : UInt16} {seen : List Endpoint}
    {host : String} {answer : Except String (List IpAddr)} {later : Attempts}
    (gathered : Gathers next finished port
      (seen ++ usableEndpoints port (answer.toOption.getD [])) later)
    (tried : next.tried = start.tried ++ [host])
    (failures : next.failures = start.failures + if answer.isOk then 0 else 1)
    (lastError : next.lastError = match answer with
      | .error message => message
      | .ok _ => start.lastError) :
    Gathers start finished port seen ⟨(host, answer) :: later.calls, later.stop⟩ where
  tried := by
    rw [gathered.tried, tried]
    simp [Attempts.hosts]
  failures := by
    rw [gathered.failures, failures]
    cases answer <;>
      simp [Attempts.failureCount, Except.isOk, Except.toBool, Nat.add_assoc, Nat.add_comm]
  lastError := by
    rw [gathered.lastError]
    unfold Attempts.lastError
    cases later.stop with
    | some ending => rfl
    | none => cases answer <;> simp [Attempts.failures, List.getLast?_cons, lastError]
  peers := by
    rw [gathered.peers]
    simp [Attempts.learned]

/-- A whole round gathers what the lookups it makes give. -/
theorem run_gathers (lookup : Lookup) (port : UInt16) (hosts : List String) (start : Round)
    (seen : List Endpoint) (deduplicated : start.peers = seen.eraseDups) :
    Gathers start (Round.run lookup port start hosts) port seen
      (attempts lookup start.context hosts) := by
  induction hosts generalizing start seen with
  | nil => exact Gathers.nil deduplicated none
  | cons host rest induction =>
      cases ended : start.context.ended with
      | some ending =>
          -- The request has ended: the round stops here and names how.
          simp only [run, attempts, ended]
          exact Gathers.nil deduplicated (some ending)
      | none =>
          simp only [run, attempts, ended]
          cases answered : (lookup host start.context).answer with
          | error message =>
              -- A failed lookup is counted and becomes the last error; nothing is learned.
              refine Gathers.cons (induction _ _ ?_) rfl rfl rfl
              simpa [Except.toOption] using deduplicated
          | ok addresses =>
              -- The answer's usable endpoints are learned before the later seeds are asked.
              have learning := learn_eq
                { start with
                  context := (lookup host start.context).context
                  tried := start.tried ++ [host] } port addresses seen deduplicated
              dsimp only
              rw [learning]
              refine Gathers.cons (induction _ _ ?_) ?_ ?_ ?_
              all_goals simp [Except.isOk, Except.toBool, Except.toOption]

end Round

/-- For every list of seeds, port, lookup, request and timeout, the resolver answers what its
lookups give: with no seeds, that there are none, having looked nothing up. Otherwise it looks
the seeds up in order, in the request as each lookup leaves it, stopping before the first seed
at which the request has ended; it fails exactly when no lookup succeeded, none attempted
included, counting every configured seed and naming how the request ended if that stopped it,
or else the last lookup's failure; and otherwise it answers the normalized, valid, non-loopback,
specified addresses of the successful lookups, in the order looked up, at its port, each
endpoint once at its first place. The hosts looked up are reported in order. -/
theorem Resolver.getPeers_eq_resolution (resolver : Resolver) (lookup : Lookup)
    (context : Context) (timeout : Duration) :
    resolver.getPeers lookup context timeout = resolver.resolution lookup context timeout := by
  unfold getPeers resolution
  by_cases none : resolver.seeds = []
  · simp [none]
  · have notEmpty : resolver.seeds.isEmpty = false := by simpa using none
    rw [if_neg none, notEmpty]
    simp only [Bool.false_eq_true, if_false]
    generalize (if 0 < timeout.toInt then { context with hasDeadline := true } else context) =
      start
    have gathered := Round.run_gathers lookup resolver.port resolver.seeds { context := start } []
      rfl
    -- The round fails exactly when every lookup it made failed.
    have allFailed : ((Round.run lookup resolver.port { context := start } resolver.seeds).failures ==
        (Round.run lookup resolver.port { context := start } resolver.seeds).tried.length) =
        !(attempts lookup start resolver.seeds).calls.any (·.2.isOk) := by
      rw [gathered.failures, gathered.tried]
      simp only [Attempts.failureCount, Attempts.hosts, Nat.zero_add, List.nil_append,
        List.length_map]
      exact countP_not_eq_length _ _
    rw [allFailed]
    cases (attempts lookup start resolver.seeds).calls.any (·.2.isOk) with
    | true => simp [gathered.peers, gathered.tried]
    | false => simp [gathered.lastError, gathered.tried]

end PeerBook.Seed
