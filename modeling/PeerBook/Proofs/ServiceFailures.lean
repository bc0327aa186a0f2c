import PeerBook.Proofs.Handout
import PeerBook.Proofs.UnservedMatches

/-!
# Failures of the discovery service leave its state as it was

Loading fails at three exits, each before the book is touched: the service has no blob, the blob
cannot be read, or the bytes read are not a peer file. The first two are persistence failures,
the third is corrupt state, and in each the service is returned exactly as it was. A blob with
nothing saved is no failure: loading then empties the records and the index and keeps the served
set. Storing never touches the book, and fails, always as a persistence failure, exactly when
there is no blob or the blob refuses the bytes.

A request for peers asks the fallback exactly when the book has no unserved match and there is a
fallback. It asks once, for any services, with the caller's timeout. When the fallback fails the
request fails as the fallback being unavailable and only the fallback's own state moves on; an
empty walk over the book marked nothing (`Book.takeMatching_of_nil`). When the fallback answers,
its valid, non-loopback endpoints are handed out as they came and marked served, and the records
stay as they were.
-/

namespace PeerBook

/-- Replacing the records by none empties the records and the index and keeps the served set. -/
theorem Book.replace_nil (book : Book) :
    book.replace [] = ({ book with records := [], index := {} }, 0) := rfl

namespace Discovery

open Store Seed

variable {σ τ : Type}

namespace Service

/-! ## Loading and storing -/

section Persistence

variable [Blob σ] (service : Service σ τ)

theorem readSaved_of_missing (missing : service.blob = none) :
    service.readSaved = .error .noBackend := by
  simp [readSaved, missing]

theorem readSaved_of_load_error {blob : σ} (kept : service.blob = some blob) {message : String}
    (fails : Blob.load blob = .error message) :
    service.readSaved = .error (.storage message) := by
  simp [readSaved, kept, fails]

theorem readSaved_of_corrupt {blob : σ} (kept : service.blob = some blob) {bytes : List UInt8}
    (loads : Blob.load blob = .ok (some bytes)) {fault : PeerFile.DecodeError}
    (refused : PeerFile.decode bytes = .error fault) :
    service.readSaved = .error (.corrupt fault) := by
  simp [readSaved, kept, loads, refused]

theorem readSaved_of_nothing_saved {blob : σ} (kept : service.blob = some blob)
    (empty : Blob.load blob = .ok none) : service.readSaved = .ok [] := by
  simp [readSaved, kept, empty]

/-- A load whose reading fails returns the failure and the service as it was. -/
theorem load_of_readSaved_error {error : ServiceError} (failed : service.readSaved = .error error) :
    service.load = (.error error, service) := by
  simp [load, failed]

/-- A load from a blob with nothing saved empties the records and the index, and only them. -/
theorem load_of_nothing_saved {blob : σ} (kept : service.blob = some blob)
    (empty : Blob.load blob = .ok none) :
    service.load =
      (.ok 0, { service with book := { service.book with records := [], index := {} } }) := by
  simp [load, readSaved_of_nothing_saved service kept empty, Book.replace_nil]

theorem store_of_missing (missing : service.blob = none) :
    service.store = (.error .noBackend, service) := by
  simp [store, missing]

theorem store_of_save_error {blob : σ} (kept : service.blob = some blob) {message : String}
    (fails : Blob.save blob (PeerFile.encode service.book.records) = .error message) :
    service.store = (.error (.storage message), service) := by
  simp [store, kept, saveEncoded, fails]

theorem store_of_save_ok {blob : σ} (kept : service.blob = some blob) {saved : σ}
    (saves : Blob.save blob (PeerFile.encode service.book.records) = .ok saved) :
    service.store = (.ok (), { service with blob := some saved }) := by
  simp [store, kept, saveEncoded, saves]

@[simp]
theorem book_store : service.store.2.book = service.book := by
  cases kept : service.blob with
  | none => simp [store_of_missing service kept]
  | some blob =>
      cases saving : Blob.save blob (PeerFile.encode service.book.records) with
      | error message => simp [store_of_save_error service kept saving]
      | ok saved => simp [store_of_save_ok service kept saving]

/-- Storing fails exactly when there is no blob or the blob refuses the encoded book, and then
as a persistence failure. -/
theorem store_error_iff :
    ((∃ error, service.store.1 = .error error) ↔
      service.blob = none ∨ ∃ blob message, service.blob = some blob ∧
        Blob.save blob (PeerFile.encode service.book.records) = .error message) ∧
      ∀ error, service.store.1 = .error error → error.sentinel = .persistenceIO := by
  cases kept : service.blob with
  | none =>
      rw [store_of_missing service kept]
      refine ⟨by simp, ?_⟩
      rintro error ⟨⟩
      rfl
  | some blob =>
      cases saving : Blob.save blob (PeerFile.encode service.book.records) with
      | error message =>
          rw [store_of_save_error service kept saving]
          refine ⟨by simp [saving], ?_⟩
          rintro error ⟨⟩
          rfl
      | ok saved =>
          rw [store_of_save_ok service kept saving]
          simp [saving]

end Persistence

/-- Whatever the state of a service: loading with no blob, with a blob that fails to read for a
reason other than having nothing saved, or with saved bytes that are not a peer file, fails and
returns the service exactly as it was, book, index and served set included. The first two
failures are persistence failures naming the cause; the third is corrupt state. Loading from a
blob with nothing saved succeeds with no records: the records and the index are emptied and the
served set is kept. Storing never changes the book, and fails, as a persistence failure, exactly
when there is no blob or the blob refuses the encoded book. -/
theorem load_and_store_failures_keep_state [Blob σ] (service : Service σ τ) :
    (service.blob = none →
      ∃ error, service.load = (.error error, service) ∧ error.sentinel = .persistenceIO ∧
        error.message = "peer address persistence failed: no backend configured") ∧
    (∀ blob message, service.blob = some blob → Blob.load blob = .error message →
      ∃ error, service.load = (.error error, service) ∧ error.sentinel = .persistenceIO ∧
        error.message = "peer address persistence failed: " ++ message) ∧
    (∀ blob bytes fault, service.blob = some blob → Blob.load blob = .ok (some bytes) →
      PeerFile.decode bytes = .error fault →
      ∃ error, service.load = (.error error, service) ∧ error.sentinel = .corruptState ∧
        error.message = "load peers: " ++ fault.message) ∧
    (∀ blob, service.blob = some blob → Blob.load blob = .ok none →
      service.load =
        (.ok 0, { service with book := { service.book with records := [], index := {} } })) ∧
    service.store.2.book = service.book ∧
    ((∃ error, service.store.1 = .error error) ↔
      service.blob = none ∨ ∃ blob message, service.blob = some blob ∧
        Blob.save blob (PeerFile.encode service.book.records) = .error message) ∧
    ∀ error, service.store.1 = .error error → error.sentinel = .persistenceIO := by
  refine ⟨?_, ?_, ?_, ?_, book_store service, (store_error_iff service).1,
    (store_error_iff service).2⟩
  · intro missing
    exact ⟨_, load_of_readSaved_error service (readSaved_of_missing service missing), rfl, rfl⟩
  · intro blob message kept fails
    exact ⟨_, load_of_readSaved_error service (readSaved_of_load_error service kept fails),
      rfl, rfl⟩
  · intro blob bytes fault kept loads refused
    exact ⟨_, load_of_readSaved_error service (readSaved_of_corrupt service kept loads refused),
      rfl, rfl⟩
  · intro blob kept empty
    exact load_of_nothing_saved service kept empty

/-! ## Asking the fallback -/

section Fallback

variable [PeerSource τ] (service : Service σ τ) (context : Context) (required : ServiceMask)
  (timeout : Duration)

theorem getPeers_of_ne_nil (taken : (service.book.takeMatching required).2 ≠ []) :
    service.getPeers context required timeout =
      (.ok (service.book.takeMatching required).2,
        { service with book := (service.book.takeMatching required).1 }) := by
  have nonempty : (service.book.takeMatching required).2.isEmpty = false := by
    simpa using taken
  simp [getPeers, nonempty]

theorem getPeers_of_no_seeds (taken : (service.book.takeMatching required).2 = [])
    (missing : service.seeds = none) :
    service.getPeers context required timeout = (.ok [], service) := by
  simp [getPeers, taken, missing]

theorem getPeers_of_seeds_error (taken : (service.book.takeMatching required).2 = [])
    {seeds : τ} (known : service.seeds = some seeds) {cause : String}
    (fails : (PeerSource.getPeers seeds context ServiceMask.empty timeout).1 = .error cause) :
    service.getPeers context required timeout =
      (.error (.unavailable cause),
        { service with seeds := some (PeerSource.getPeers seeds context ServiceMask.empty timeout).2 }) := by
  simp [getPeers, askSeeds, taken, known, fails]

theorem getPeers_of_seeds_ok (taken : (service.book.takeMatching required).2 = [])
    {seeds : τ} (known : service.seeds = some seeds) {endpoints : List Endpoint}
    (answers : (PeerSource.getPeers seeds context ServiceMask.empty timeout).1 = .ok endpoints) :
    service.getPeers context required timeout =
      (.ok (endpoints.filter isUsable),
        { service with
            seeds := some (PeerSource.getPeers seeds context ServiceMask.empty timeout).2
            book := service.book.markServed (endpoints.filter isUsable) }) := by
  simp [getPeers, askSeeds, taken, known, answers]

end Fallback

/-- Whatever the state of a service, a request for peers hands out the unserved matches of the
book when there are some, without asking the fallback. When there are none, the walk over the
book marked nothing; without a fallback the answer is empty and nothing changes; with one, the
fallback is asked exactly once, for any services and with the caller's timeout. If it fails, the
request fails as the fallback being unavailable, naming the cause, and only the fallback's own
state moves on. If it answers, the answer is handed out without the endpoints whose unmapped
address is invalid or loopback, in its order and with its repeats; the records and the index stay
as they were, and the served set gains exactly the normal forms of what was handed out. -/
theorem getPeers_falls_back_on_empty_cache [PeerSource τ] (service : Service σ τ)
    (context : Context) (required : ServiceMask) (timeout : Duration) :
    let taking := service.book.takeMatching required
    let result := service.getPeers context required timeout
    (taking.2 ≠ [] → result = (.ok taking.2, { service with book := taking.1 })) ∧
    (taking.2 = [] → taking.1 = service.book ∧
      (service.seeds = none → result = (.ok [], service)) ∧
      ∀ seeds, service.seeds = some seeds →
        let asked := PeerSource.getPeers seeds context ServiceMask.empty timeout
        (∀ cause, asked.1 = .error cause →
          ∃ error, result = (.error error, { service with seeds := some asked.2 }) ∧
            error.sentinel = .discoveryUnavailable ∧
            error.message = "peer discovery unavailable: " ++ cause) ∧
        (∀ endpoints, asked.1 = .ok endpoints →
          let usable := endpoints.filter fun endpoint =>
            endpoint.addr.unmap.isValid && !endpoint.addr.unmap.isLoopback
          result.1 = .ok usable ∧ result.2.seeds = some asked.2 ∧
            result.2.book.records = service.book.records ∧
            result.2.book.index = service.book.index ∧
            ∀ key, key ∈ result.2.book.served.keys ↔
              key ∈ service.book.served.keys ∨ key ∈ usable.map Endpoint.normalize)) := by
  intro taking result
  refine ⟨getPeers_of_ne_nil service context required timeout, ?_⟩
  intro taken
  refine ⟨Book.takeMatching_of_nil service.book required taken,
    getPeers_of_no_seeds service context required timeout taken, ?_⟩
  intro seeds known asked
  constructor
  · intro cause fails
    exact ⟨_, getPeers_of_seeds_error service context required timeout taken known fails,
      rfl, rfl⟩
  · intro endpoints answers usable
    have answered : result =
        (.ok usable, { service with
          seeds := some asked.2
          book := service.book.markServed usable }) :=
      getPeers_of_seeds_ok service context required timeout taken known answers
    rw [answered]
    exact ⟨rfl, rfl, rfl, rfl, fun key => ServedSet.mem_markAll_keys _ _ key⟩

end Service

end Discovery

end PeerBook
