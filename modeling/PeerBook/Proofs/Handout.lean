import PeerBook.Discovery.Interleaving
import PeerBook.Proofs.BookInvariant

/-!
# Requests for peers hand out each endpoint from the book at most once

Whatever calls of the discovery service are in flight and however their steps interleave,
endpoints are compared by their normal forms. An answer taken from the book never repeats an
endpoint, and shares none with anything handed out before it: not with an earlier answer from
the book, not with a fallback's answer marked served before it, and loading saved records in
between changes nothing to that. The number of endpoints served is the number of distinct
endpoints handed out. Answers of the fallback are handed out as they came, so they may repeat.

Run alone, a call's steps do what the service's own function does (`Concurrent.run_alone`).
Each step of a call changes the served set in one of three ways (`Service.advance_cases`):
not at all, by taking the matching records, or by marking the fallback's answer. From these,
`Concurrent.Accounted` holds of every reachable state: the served set is exactly the normal
forms of what was handed out, and every answer from the book was fresh when handed out.
-/

namespace PeerBook.Discovery

open Store Seed

variable {σ τ : Type} [Blob σ] [PeerSource τ]

namespace Service

omit [PeerSource τ] in
@[simp]
theorem book_saveEncoded (service : Service σ τ) (blob : σ) (records : List PeerRecord) :
    (service.saveEncoded blob records).2.book = service.book := by
  unfold saveEncoded
  split <;> rfl

omit [Blob σ] in
@[simp]
theorem book_askSeeds (service : Service σ τ) (seeds : τ) (context : Context)
    (timeout : Duration) : (service.askSeeds seeds context timeout).2.book = service.book := by
  dsimp only [askSeeds]
  split <;> rfl

/-- A request for peers first takes the matching records; it hands them out when there are
some, and otherwise goes on to the fallback, if there is one. -/
theorem advance_getPeers (service : Service σ τ) (context : Context) (required : ServiceMask)
    (timeout : Duration) :
    service.advance (.start (.getPeers context required timeout)) =
      if (service.book.takeMatching required).2.isEmpty then
        match service.seeds with
        | none => (service, .finished, [])
        | some _ => (service, .asking context timeout, [])
      else
        ({ service with book := (service.book.takeMatching required).1 }, .finished,
          [.cache (service.book.takeMatching required).2]) := by
  simp only [advance]
  cases (service.book.takeMatching required).2.isEmpty <;> rfl

/-- A step changes the served set in one of three ways: not at all, handing out nothing; by
taking the matching records and handing them out from the book; or by marking the fallback's
answer and handing it out. -/
theorem advance_cases (service : Service σ τ) (progress : Progress) :
    ((service.advance progress).1.book.served = service.book.served ∧
        (service.advance progress).2.2 = []) ∨
      (∃ required, (service.advance progress).1.book.served =
          (service.book.takeMatching required).1.served ∧
        (service.advance progress).2.2 = [.cache (service.book.takeMatching required).2]) ∨
      (∃ endpoints, (service.advance progress).1.book.served =
          service.book.served.markAll endpoints ∧
        (service.advance progress).2.2 = [.seeds endpoints]) := by
  cases progress with
  | start call =>
      cases call with
      | process advertisements =>
          left
          simp [advance, process]
      | load =>
          left
          simp only [advance]
          split <;> simp
      | store =>
          left
          simp only [advance]
          split <;> simp
      | getPeers context required timeout =>
          rw [advance_getPeers]
          split
          · left
            split <;> simp
          · right
            left
            exact ⟨required, rfl, rfl⟩
  | replacing records =>
      left
      simp [advance]
  | saving records =>
      left
      simp only [advance]
      split <;> simp
  | asking context timeout =>
      left
      simp only [advance]
      split
      · simp
      · -- Asking the fallback leaves the book as it is, whatever it answers.
        rename_i seeds _
        have unchanged := book_askSeeds service seeds context timeout
        split
        all_goals
          rename_i asked
          rw [asked] at unchanged
          exact ⟨congrArg Book.served unchanged, rfl⟩
  | marking endpoints =>
      right
      right
      exact ⟨endpoints, rfl, rfl⟩
  | finished =>
      left
      exact ⟨rfl, rfl⟩

end Service

/-- A call made by the service's own functions: the service after it, and the endpoints it
hands out. -/
def Call.perform (service : Service σ τ) : Call → Service σ τ × List Endpoint
  | .process advertisements => (service.process advertisements, [])
  | .load => (service.load.2, [])
  | .store => (service.store.2, [])
  | .getPeers context required timeout =>
    match service.getPeers context required timeout with
    | (.ok endpoints, service) => (service, endpoints)
    | (.error _, service) => (service, [])

namespace Concurrent

theorem step_alone (service : Service σ τ) (progress : Progress) (handedOut : List Handout) :
    (⟨service, [progress], handedOut⟩ : Concurrent σ τ).step 0 =
      ⟨(service.advance progress).1, [(service.advance progress).2.1],
        handedOut ++ (service.advance progress).2.2⟩ := rfl

/-- A call made alone finishes within three steps, and its steps do what the service's own
function does: the same service after it, and the same endpoints handed out. -/
theorem run_alone (service : Service σ τ) (call : Call) :
    let final := (start service [call]).run [0, 0, 0]
    final.calls = [.finished] ∧
      (final.service, final.handedOut.flatMap Handout.endpoints) = call.perform service := by
  intro final
  simp only [final, start, run, List.map, List.foldl, step_alone]
  cases call with
  | process advertisements =>
      simp [Service.advance, Call.perform]
  | load =>
      cases saved : service.readSaved with
      | error problem => simp [Service.advance, Call.perform, Service.load, saved]
      | ok records => simp [Service.advance, Call.perform, Service.load, saved]
  | store =>
      cases kept : service.blob with
      | none => simp [Service.advance, Call.perform, Service.store, kept]
      | some blob => simp [Service.advance, Call.perform, Service.store, kept]
  | getPeers context required timeout =>
      -- The request ends at the first of: matching records, no fallback, the fallback's
      -- failure, the fallback's answer marked served.
      rcases taking : service.book.takeMatching required with ⟨book, taken⟩
      cases nothing : taken.isEmpty with
      | false =>
          simp [Service.advance, Call.perform, Service.getPeers, taking, nothing, Handout.endpoints]
      | true =>
          cases known : service.seeds with
          | none =>
              simp [Service.advance, Call.perform, Service.getPeers, taking, nothing, known]
          | some seeds =>
              rcases asked : service.askSeeds seeds context timeout with ⟨answer, asking⟩
              cases answer with
              | error problem =>
                  simp [Service.advance, Call.perform, Service.getPeers, taking, nothing, known,
                    asked]
              | ok usable =>
                  simp [Service.advance, Call.perform, Service.getPeers, taking, nothing, known,
                    asked, Handout.endpoints]

end Concurrent

/-- The normal forms of the endpoints handed out. -/
def handedKeys (history : List Handout) : List Endpoint :=
  (history.flatMap Handout.endpoints).map Endpoint.normalize

@[simp]
theorem handedKeys_nil : handedKeys [] = [] := rfl

@[simp]
theorem handedKeys_append (history later : List Handout) :
    handedKeys (history ++ later) = handedKeys history ++ handedKeys later := by
  simp [handedKeys]

@[simp]
theorem handedKeys_singleton (handout : Handout) :
    handedKeys [handout] = handout.endpoints.map Endpoint.normalize := by
  simp [handedKeys]

/-- Every answer taken from the book in a history is free of repeats and shares no normal form
with anything handed out before it. -/
def FreshCache (history : List Handout) : Prop :=
  ∀ before answer after, history = before ++ .cache answer :: after →
    (answer.map Endpoint.normalize).Nodup ∧
      ∀ endpoint ∈ answer, endpoint.normalize ∉ handedKeys before

/-- A handout at the end of a history stands at the end of a split of it, or after it. -/
private theorem split_append_singleton {history before after : List Handout}
    {handout latest : Handout}
    (split : history ++ [latest] = before ++ handout :: after) :
    (before = history ∧ handout = latest) ∨
      ∃ earlier, after = earlier ++ [latest] ∧ history = before ++ handout :: earlier := by
  rcases List.eq_nil_or_concat after with rfl | ⟨earlier, last, rfl⟩
  · have same := List.append_inj' split rfl
    simp only [List.cons.injEq, and_true] at same
    exact .inl ⟨same.1.symm, same.2.symm⟩
  · rw [List.concat_eq_append, ← List.cons_append, ← List.append_assoc] at split
    rw [List.concat_eq_append]
    have same := List.append_inj' split rfl
    simp only [List.cons.injEq, and_true] at same
    exact .inr ⟨earlier, by rw [same.2], same.1⟩

theorem FreshCache.nil : FreshCache [] := by
  intro before answer after split
  simp at split

theorem FreshCache.append_seeds {history : List Handout} (fresh : FreshCache history)
    (endpoints : List Endpoint) : FreshCache (history ++ [.seeds endpoints]) := by
  intro before answer after split
  rcases split_append_singleton split with ⟨_, mismatch⟩ | ⟨earlier, _, earlierSplit⟩
  · exact absurd mismatch (by simp)
  · exact fresh before answer earlier earlierSplit

theorem FreshCache.append_cache {history : List Handout} (fresh : FreshCache history)
    {answer : List Endpoint} (distinct : (answer.map Endpoint.normalize).Nodup)
    (unseen : ∀ endpoint ∈ answer, endpoint.normalize ∉ handedKeys history) :
    FreshCache (history ++ [.cache answer]) := by
  intro before latest after split
  rcases split_append_singleton split with ⟨rfl, same⟩ | ⟨earlier, _, earlierSplit⟩
  · cases same
    exact ⟨distinct, unseen⟩
  · exact fresh before latest earlier earlierSplit

namespace Concurrent

/-- What every reachable state keeps: the served set holds exactly the normal forms of what
was handed out, each once, and every answer taken from the book was fresh. -/
structure Accounted (system : Concurrent σ τ) : Prop where
  served_iff : ∀ key, key ∈ system.service.book.served.keys ↔ key ∈ handedKeys system.handedOut
  served_nodup : system.service.book.served.keys.Nodup
  fresh : FreshCache system.handedOut

omit [Blob σ] [PeerSource τ] in
theorem Accounted.start (service : Service σ τ) (calls : List Call) :
    Accounted (start { service with book := Book.empty } calls) where
  served_iff := by simp [Concurrent.start, Book.empty]
  served_nodup := by simp [Concurrent.start, Book.empty]
  fresh := FreshCache.nil

/-- One step keeps the account, whichever of its three effects it has. -/
theorem Accounted.advance {system : Concurrent σ τ} (accounted : Accounted system)
    {progress next : Progress} {service : Service σ τ} {handed : List Handout}
    (advanced : system.service.advance progress = (service, next, handed))
    (calls : List Progress) :
    Accounted (⟨service, calls, system.handedOut ++ handed⟩ : Concurrent σ τ) := by
  have effects := Service.advance_cases system.service progress
  rw [advanced] at effects
  dsimp only at effects
  rcases effects with ⟨served, rfl⟩ | ⟨required, served, rfl⟩ | ⟨endpoints, served, rfl⟩
  · refine ⟨fun key => ?_, ?_, ?_⟩
    · show key ∈ service.book.served.keys ↔ key ∈ handedKeys (system.handedOut ++ [])
      rw [served, List.append_nil]
      exact accounted.served_iff key
    · show service.book.served.keys.Nodup
      rw [served]
      exact accounted.served_nodup
    · show FreshCache (system.handedOut ++ [])
      rw [List.append_nil]
      exact accounted.fresh
  · have handed := Book.handsOut_takeMatching system.service.book required
    refine ⟨fun key => ?_, ?_, ?_⟩
    · show key ∈ service.book.served.keys ↔ key ∈ handedKeys (system.handedOut ++ _)
      rw [served, handed.mem_keys, accounted.served_iff]
      simp [Handout.endpoints]
    · show service.book.served.keys.Nodup
      rw [served]
      exact Book.nodup_foldl_takeTurn required _ accounted.served_nodup
    · refine accounted.fresh.append_cache handed.nodup ?_
      intro endpoint member
      rw [← accounted.served_iff]
      exact handed.fresh endpoint member
  · refine ⟨fun key => ?_, ?_, ?_⟩
    · show key ∈ service.book.served.keys ↔ key ∈ handedKeys (system.handedOut ++ _)
      rw [served, ServedSet.mem_markAll_keys, accounted.served_iff]
      simp [Handout.endpoints]
    · show service.book.served.keys.Nodup
      rw [served]
      exact ServedSet.nodup_markAll_keys endpoints _ accounted.served_nodup
    · exact accounted.fresh.append_seeds endpoints

theorem Accounted.step {system : Concurrent σ τ} (accounted : Accounted system)
    (index : Nat) : Accounted (system.step index) := by
  unfold Concurrent.step
  split
  · exact accounted
  · rename_i progress _
    rcases advanced : system.service.advance progress with ⟨service, next, handed⟩
    exact accounted.advance advanced _

theorem Accounted.run {system : Concurrent σ τ} (accounted : Accounted system)
    (schedule : List Nat) : Accounted (system.run schedule) := by
  induction schedule generalizing system with
  | nil => exact accounted
  | cons index schedule induction => exact induction (accounted.step index)

end Concurrent

/-- Under any interleaving of loads, stores, address messages and requests for peers on a new
service, with any masks, timeouts, saved bytes and fallback answers, and comparing endpoints by
their normal forms: every answer taken from the book is free of repeats and shares no endpoint
with anything handed out before it, from the book or from the fallback, loads in between
notwithstanding; and the number of endpoints served is the number of distinct endpoints
handed out. -/
theorem cache_handouts_at_most_once (service : Service σ τ) (calls : List Call)
    (schedule : List Nat) :
    let final := (Concurrent.start { service with book := Book.empty } calls).run schedule
    (∀ before answer after, final.handedOut = before ++ .cache answer :: after →
        (answer.map Endpoint.normalize).Nodup ∧
          ∀ endpoint ∈ answer, endpoint.normalize ∉
            (before.flatMap Handout.endpoints).map Endpoint.normalize) ∧
      final.service.book.servedCount =
        ((final.handedOut.flatMap Handout.endpoints).map Endpoint.normalize).toFinset.card := by
  intro final
  have accounted : Concurrent.Accounted final :=
    (Concurrent.Accounted.start service calls).run schedule
  refine ⟨accounted.fresh, ?_⟩
  have sameKeys : final.service.book.served.keys.toFinset = (handedKeys final.handedOut).toFinset := by
    ext key
    simp only [List.mem_toFinset]
    exact accounted.served_iff key
  rw [Book.servedCount, ServedSet.size, ← List.toFinset_card_of_nodup accounted.served_nodup,
    sameKeys]
  rfl

end PeerBook.Discovery
