import Mathlib
import PeerBook.Node

/-!
# A node saves only a book it has read

A node reads its saved book when it starts, and from then on saves its own book over it: from
each save loop when an interval ends, and once more when it stops. Saving before the read would
overwrite a book the node never saw, so saving waits for the `loaded` flag, which a start sets
when its load succeeds or finds the saved bytes corrupt.

The requests a node serves are `Request`s, and `Node.saved` are the bytes its backend holds. Each
request keeps those bytes or writes the encoded book of a node that has read its saved book
(`saved_handle`). Runs are folds of requests, and the run lemmas follow by induction over them:
the flag is set only by a start whose load read the book, and after a stop no request changes
the bytes.
-/

namespace PeerBook

open Store Discovery

namespace Discovery.Service

variable {σ τ : Type}

@[simp]
theorem blob_load [Blob σ] (service : Service σ τ) : service.load.2.blob = service.blob := by
  unfold load
  split <;> rfl

@[simp]
theorem blob_askSeeds [PeerSource τ] (service : Service σ τ) (seeds : τ) (context : Seed.Context)
    (timeout : Duration) : (service.askSeeds seeds context timeout).2.blob = service.blob := by
  dsimp only [askSeeds]
  split <;> rfl

@[simp]
theorem blob_getPeers [PeerSource τ] (service : Service σ τ) (context : Seed.Context)
    (required : ServiceMask) (timeout : Duration) :
    (service.getPeers context required timeout).2.blob = service.blob := by
  cases nothing : (service.book.takeMatching required).2.isEmpty with
  | false => simp [getPeers, nothing]
  | true =>
      cases known : service.seeds with
      | none => simp [getPeers, nothing, known]
      | some seeds =>
          rcases asked : service.askSeeds seeds context timeout with ⟨answer, asking⟩
          have unchanged : asking.blob = service.blob := by
            have kept := blob_askSeeds service seeds context timeout
            rwa [asked] at kept
          cases answer <;> simp [getPeers, nothing, known, asked, unchanged]

@[simp]
theorem blob_shutdown [PeerSource τ] (service : Service σ τ) :
    service.shutdown.blob = service.blob := by
  unfold shutdown
  split <;> rfl

/-- Storing leaves the blob as it was, or saves the encoded book with it and keeps what the
save gives. -/
theorem blob_store [Blob σ] (service : Service σ τ) :
    service.store.2.blob = service.blob ∨
      ∃ blob written, service.blob = some blob ∧
        Blob.save blob (PeerFile.encode service.book.records) = .ok written ∧
        service.store.2.blob = some written := by
  unfold store
  split
  · exact .inl rfl
  · rename_i blob kept
    unfold saveEncoded
    split
    · exact .inl rfl
    · rename_i written saving
      exact .inr ⟨blob, written, kept, saving, rfl⟩

end Discovery.Service

namespace Node

/-- A request made of a node after it was made. -/
inductive Request where
  | start (now : Int64)
  | importPeers (now : Int64) (endpoints : List Endpoint) (services : ServiceMask)
  | getPeers
  | wait (elapsed : Duration)
  | stop

def handle (node : Node) : Request → Node
  | .start now => (node.start now).2
  | .importPeers now endpoints services => (node.importPeers now endpoints services).2
  | .getPeers => node.getPeers.2
  | .wait elapsed => node.wait elapsed
  | .stop => node.stop

def serve (node : Node) (requests : List Request) : Node :=
  requests.foldl handle node

@[simp]
theorem serve_nil (node : Node) : node.serve [] = node := rfl

@[simp]
theorem serve_cons (node : Node) (request : Request) (requests : List Request) :
    node.serve (request :: requests) = (node.handle request).serve requests := rfl

/-- The bytes the node's backend holds for its book; `none` when it holds none. -/
def saved (node : Node) : Option (List UInt8) :=
  node.service.blob.bind Backend.held?

/-- Whether a load read the saved book: it succeeded, or found the saved bytes corrupt. -/
def readsBook : Except ServiceError Nat → Bool
  | .ok _ => true
  | .error (.corrupt _) => true
  | .error _ => false

/-- `bytes` are what the node's backend holds after saving the node's book: its blob saved the
encoded book, and holds what that save left. -/
def WritesBook (node : Node) (bytes : Option (List UInt8)) : Prop :=
  ∃ blob written, node.service.blob = some blob ∧
    Blob.save blob (PeerFile.encode node.service.book.records) = .ok written ∧
    bytes = Backend.held? written

/-- What starting keeps and changes: it keeps the blob and whether the node was stopped, it
records that the saved book was read when its load read it, and it adds a save loop only to a
node that is not stopped. -/
theorem start_fields (now : Int64) (node : Node) :
    (node.start now).2.service.blob = node.service.blob ∧
      (node.start now).2.loaded = (node.loaded || readsBook node.service.load.1) ∧
      (node.start now).2.stopped = node.stopped ∧
      (node.stopped = true → (node.start now).2.saveLoops = node.saveLoops) := by
  rcases loading : node.service.load with ⟨answer, loaded⟩
  have keptBlob : loaded.blob = node.service.blob := by
    have kept := Service.blob_load node.service
    rwa [loading] at kept
  cases reads : readsBook answer with
  | false =>
      -- Any other failure ends the start with the loaded service, and nothing else changed.
      have started : (node.start now).2 = { node with service := loaded } := by
        cases answer with
        | ok count => simp [readsBook] at reads
        | error error => cases error <;> simp_all [Node.start, readsBook]
      rw [started]
      exact ⟨keptBlob, by simp, rfl, fun _ => rfl⟩
  | true =>
      -- A load that read the saved book goes on to the static peers, the metrics listener and
      -- the save loop, each of which keeps the blob and the flags.
      obtain ⟨count, rfl⟩ | ⟨problem, rfl⟩ : (∃ count, answer = .ok count) ∨
          ∃ problem, answer = .error (.corrupt problem) := by
        cases answer with
        | ok count => exact .inl ⟨count, rfl⟩
        | error error => cases error <;> simp_all [readsBook]
      all_goals
        simp only [Node.start, loading, Bool.or_true]
        split
        · exact ⟨keptBlob, rfl, rfl, fun _ => rfl⟩
        · split
          · exact ⟨keptBlob, rfl, rfl, fun _ => rfl⟩
          · rename_i listening heard
            have listened : listening.service.blob = node.service.blob ∧ listening.loaded = true ∧
                listening.stopped = node.stopped ∧ listening.saveLoops = node.saveLoops := by
              split at heard
              · cases heard
                exact ⟨keptBlob, rfl, rfl, rfl⟩
              · split at heard
                · cases heard
                · cases heard
                  exact ⟨keptBlob, rfl, rfl, rfl⟩
            obtain ⟨blobKept, isLoaded, sameStopped, sameLoops⟩ := listened
            split
            · rename_i starting
              refine ⟨blobKept, isLoaded, sameStopped, fun stopped => ?_⟩
              simp [sameStopped, stopped] at starting
            · exact ⟨blobKept, isLoaded, sameStopped, fun _ => sameLoops⟩

theorem save_fields (node : Node) :
    node.save.loaded = node.loaded ∧ node.save.stopped = node.stopped ∧
      node.save.saveLoops = node.saveLoops ∧
      (node.save.saved = node.saved ∨ node.loaded = true ∧ WritesBook node node.save.saved) := by
  unfold save
  split
  · rename_i read
    refine ⟨rfl, rfl, rfl, ?_⟩
    rcases Service.blob_store node.service with kept | ⟨blob, written, atBlob, saves, stored⟩
    · exact .inl (by simp [saved, kept])
    · exact .inr ⟨read, blob, written, atBlob, saves, by simp [saved, stored]⟩
  · exact ⟨rfl, rfl, rfl, .inl rfl⟩

theorem wait_fields (elapsed : Duration) (node : Node) :
    (node.wait elapsed).loaded = node.loaded ∧ (node.wait elapsed).stopped = node.stopped ∧
      (node.saveLoops = [] → (node.wait elapsed).saveLoops = [] ∧
        (node.wait elapsed).saved = node.saved) ∧
      ((node.wait elapsed).saved = node.saved ∨
        node.loaded = true ∧ WritesBook node (node.wait elapsed).saved) := by
  dsimp only [wait]
  split
  · -- A save loop's interval ended: the node saves, as saving does.
    rename_i ticks
    obtain ⟨sameLoaded, sameStopped, sameLoops, savedOrWritten⟩ :=
      save_fields { node with saveLoops := node.saveLoops.map (· + elapsed.toInt.toNat) }
    refine ⟨sameLoaded, sameStopped, fun none => ?_, savedOrWritten⟩
    simp [none] at ticks
  · exact ⟨rfl, rfl, fun none => ⟨by simp [none], rfl⟩, .inl rfl⟩

/-- Stopping a stopped node changes nothing. Stopping a running node stops it with no save loop
left; it keeps whether the saved book was read, and the saved bytes, unless it writes the book
of a node that read its saved one. -/
theorem stop_fields (node : Node) :
    (node.stopped = true → node.stop = node) ∧
      (node.stopped = false → node.stop.stopped = true ∧ node.stop.saveLoops = [] ∧
        node.stop.loaded = node.loaded ∧
        (node.stop.saved = node.saved ∨ node.loaded = true ∧ WritesBook node node.stop.saved)) := by
  refine ⟨fun stopped => by simp [stop, stopped], fun running => ?_⟩
  obtain ⟨sameLoaded, -, sameLoops, savedOrWritten⟩ := save_fields { node with saveLoops := [] }
  have going : ¬node.stopped = true := by simp [running]
  -- Closing a database marks it closed but keeps its entries, so the saved bytes are those the
  -- last save left.
  have closed : node.stop.saved = ({ node with saveLoops := [] } : Node).save.saved := by
    unfold stop
    rw [if_neg going]
    simp only [saved, Service.blob_shutdown, Option.bind_map]
    congr 1
    funext backend
    cases backend <;> rfl
  refine ⟨?_, ?_, ?_, closed ▸ savedOrWritten⟩
  · unfold stop
    rw [if_neg going]
  · unfold stop
    rw [if_neg going]
    exact sameLoops
  · unfold stop
    rw [if_neg going]
    exact sameLoaded

/-- One request leaves the saved bytes as they are, or writes the book of a node that read its
saved book. -/
theorem saved_handle (node : Node) (request : Request) :
    (node.handle request).saved = node.saved ∨
      node.loaded = true ∧ WritesBook node (node.handle request).saved := by
  cases request with
  | start now => exact .inl (by simp [handle, saved, (start_fields now node).1])
  | importPeers now endpoints services => exact .inl rfl
  | getPeers => exact .inl (by simp [handle, getPeers, saved])
  | wait elapsed => exact (wait_fields elapsed node).2.2.2
  | stop =>
      cases running : node.stopped with
      | true => exact .inl (by rw [handle, (stop_fields node).1 running])
      | false => exact ((stop_fields node).2 running).2.2.2

/-- A node has read its saved book after a request exactly when it had before, or the request
was a start whose load read it. -/
theorem loaded_handle (node : Node) (request : Request) :
    (node.handle request).loaded = true ↔
      node.loaded = true ∨ ∃ now, request = .start now ∧ readsBook node.service.load.1 = true := by
  cases request with
  | start now => simp [handle, (start_fields now node).2.1]
  | importPeers now endpoints services => simp [handle, importPeers]
  | getPeers => simp [handle, getPeers]
  | wait elapsed => simp [handle, (wait_fields elapsed node).1]
  | stop =>
      cases running : node.stopped with
      | true => simp [handle, (stop_fields node).1 running]
      | false => simp [handle, ((stop_fields node).2 running).2.2.1]

theorem handle_of_halted {node : Node} (stopped : node.stopped = true)
    (noLoops : node.saveLoops = []) (request : Request) :
    (node.handle request).stopped = true ∧ (node.handle request).saveLoops = [] ∧
      (node.handle request).saved = node.saved := by
  cases request with
  | start now =>
      obtain ⟨sameBlob, -, sameStopped, sameLoops⟩ := start_fields now node
      exact ⟨sameStopped.trans stopped, (sameLoops stopped).trans noLoops,
        by simp [handle, saved, sameBlob]⟩
  | importPeers now endpoints services => exact ⟨stopped, noLoops, rfl⟩
  | getPeers => exact ⟨stopped, noLoops, by simp [handle, getPeers, saved]⟩
  | wait elapsed =>
      obtain ⟨-, sameStopped, quiet, -⟩ := wait_fields elapsed node
      exact ⟨sameStopped.trans stopped, (quiet noLoops).1, (quiet noLoops).2⟩
  | stop =>
      rw [handle, (stop_fields node).1 stopped]
      exact ⟨stopped, noLoops, rfl⟩

theorem loopsEnd_handle {node : Node} (loopsEnd : node.stopped = true → node.saveLoops = [])
    (request : Request) :
    (node.handle request).stopped = true → (node.handle request).saveLoops = [] := by
  cases stopped : node.stopped with
  | true => exact fun _ => (handle_of_halted stopped (loopsEnd stopped) request).2.1
  | false =>
      -- A running node stops only when asked to, and stopping ends its loops.
      intro nowStopped
      cases request with
      | start now =>
          rw [handle, (start_fields now node).2.2.1, stopped] at nowStopped
          cases nowStopped
      | importPeers now endpoints services =>
          rw [handle] at nowStopped
          simp [importPeers, stopped] at nowStopped
      | getPeers =>
          rw [handle] at nowStopped
          simp [getPeers, stopped] at nowStopped
      | wait elapsed =>
          rw [handle, (wait_fields elapsed node).2.1, stopped] at nowStopped
          cases nowStopped
      | stop => exact ((stop_fields node).2 stopped).2.1

theorem loaded_serve_of_loaded {node : Node} (read : node.loaded = true)
    (requests : List Request) : (node.serve requests).loaded = true := by
  induction requests generalizing node with
  | nil => exact read
  | cons request requests induction =>
      exact induction ((loaded_handle node request).mpr (.inl read))

/-- A run after which the saved book is still unread leaves the saved bytes as they were. -/
theorem saved_serve_of_unread (node : Node) (requests : List Request)
    (unread : (node.serve requests).loaded = false) : (node.serve requests).saved = node.saved := by
  induction requests generalizing node with
  | nil => rfl
  | cons request requests induction =>
      have stillUnread : (node.handle request).loaded = false := by
        cases read : (node.handle request).loaded with
        | false => rfl
        | true =>
            have := loaded_serve_of_loaded read requests
            rw [serve_cons] at unread
            rw [this] at unread
            cases unread
      have wasUnread : node.loaded = false := by
        cases read : node.loaded with
        | false => rfl
        | true =>
            have := (loaded_handle node request).mpr (.inl read)
            rw [this] at stillUnread
            cases stillUnread
      rw [serve_cons, induction (node.handle request) unread]
      rcases saved_handle node request with same | ⟨read, -⟩
      · exact same
      · rw [wasUnread] at read
        cases read

/-- A node that had not read its saved book has read it after a run only through some start in
the run whose load read it. -/
theorem exists_start_of_loaded_serve {node : Node} (unread : node.loaded = false)
    (requests : List Request) (read : (node.serve requests).loaded = true) :
    ∃ earlier now later, requests = earlier ++ .start now :: later ∧
      readsBook (node.serve earlier).service.load.1 = true := by
  induction requests generalizing node with
  | nil =>
      rw [serve_nil, unread] at read
      cases read
  | cons request requests induction =>
      cases stepRead : (node.handle request).loaded with
      | true =>
          rcases (loaded_handle node request).mp stepRead with wasRead | ⟨now, rfl, reads⟩
          · rw [unread] at wasRead
            cases wasRead
          · exact ⟨[], now, requests, rfl, reads⟩
      | false =>
          obtain ⟨earlier, now, later, split, reads⟩ := induction stepRead read
          exact ⟨request :: earlier, now, later, by rw [split, List.cons_append], reads⟩

/-- After a stop, no request changes the saved bytes, and no save loop runs again. -/
theorem saved_serve_stop {node : Node} (loopsEnd : node.stopped = true → node.saveLoops = [])
    (later : List Request) :
    node.stop.saveLoops = [] ∧ (node.stop.serve later).saved = node.stop.saved := by
  have halted : node.stop.stopped = true ∧ node.stop.saveLoops = [] := by
    cases stopped : node.stopped with
    | true =>
        rw [(stop_fields node).1 stopped]
        exact ⟨stopped, loopsEnd stopped⟩
    | false => exact ⟨((stop_fields node).2 stopped).1, ((stop_fields node).2 stopped).2.1⟩
  refine ⟨halted.2, ?_⟩
  -- Stopped with no loop is kept by every request, and so are the saved bytes.
  suffices quiet : ∀ (stopped : Node), stopped.stopped = true → stopped.saveLoops = [] →
      (stopped.serve later).saved = stopped.saved from quiet node.stop halted.1 halted.2
  induction later with
  | nil => exact fun _ _ _ => rfl
  | cons request later induction =>
      intro stopped isStopped noLoops
      obtain ⟨stillStopped, stillNoLoops, sameSaved⟩ := handle_of_halted isStopped noLoops request
      rw [serve_cons, induction _ stillStopped stillNoLoops, sameSaved]

theorem loopsEnd_serve {node : Node} (loopsEnd : node.stopped = true → node.saveLoops = [])
    (requests : List Request) :
    (node.serve requests).stopped = true → (node.serve requests).saveLoops = [] := by
  induction requests generalizing node with
  | nil => exact loopsEnd
  | cons request requests induction => exact induction (loopsEnd_handle loopsEnd request)

/-- Every node `create` makes has not read its saved book, is running, and has no save loop. -/
theorem create_fresh {machine : Machine} {settings : Settings} {lookup : Seed.Lookup} {node : Node}
    (made : create machine settings lookup = .ok node) :
    node.loaded = false ∧ node.stopped = false ∧ node.saveLoops = [] := by
  unfold create at made
  simp only [bind, Except.bind, pure, Except.pure] at made
  repeat' split at made
  -- A failed step is refuted by its error; each way through ends in one literal.
  all_goals cases made <;> exact ⟨rfl, rfl, rfl⟩

/-- Take a node that has not read its saved book and is running, as `create` makes it
(`create_fresh`), and any requests made of it. Whenever a request changes the bytes its backend
holds, some earlier start's load read the saved book (it succeeded or found the bytes corrupt),
and the request wrote the encoded book of that moment. So in a run where no start's load read
the saved book, the bytes never change. A stop leaves no save loop, and after it no request, a
stop included, changes the bytes. -/
theorem saves_only_after_reading (node : Node) (unread : node.loaded = false)
    (running : node.stopped = false) :
    (∀ (before : List Request) (request : Request),
        ((node.serve before).handle request).saved ≠ (node.serve before).saved →
          (∃ earlier now later, before = earlier ++ .start now :: later ∧
              readsBook (node.serve earlier).service.load.1 = true) ∧
            WritesBook (node.serve before) ((node.serve before).handle request).saved) ∧
      (∀ requests : List Request,
        (∀ earlier now later, requests = earlier ++ .start now :: later →
          readsBook (node.serve earlier).service.load.1 = false) →
        (node.serve requests).saved = node.saved) ∧
      ∀ before after : List Request,
        (node.serve before).stop.saveLoops = [] ∧
          ((node.serve before).stop.serve after).saved = (node.serve before).stop.saved := by
  refine ⟨fun before request changed => ?_, fun requests noneRead => ?_, fun before after => ?_⟩
  · rcases saved_handle (node.serve before) request with same | ⟨read, writes⟩
    · exact absurd same changed
    · exact ⟨exists_start_of_loaded_serve unread before read, writes⟩
  · apply saved_serve_of_unread
    cases read : (node.serve requests).loaded with
    | false => rfl
    | true =>
        obtain ⟨earlier, now, later, split, reads⟩ :=
          exists_start_of_loaded_serve unread requests read
        rw [noneRead earlier now later split] at reads
        cases reads
  · have loopsEnd : node.stopped = true → node.saveLoops = [] := by
      rw [running]
      intro impossible
      cases impossible
    exact saved_serve_stop (loopsEnd_serve loopsEnd before) after

theorem saves_only_after_reading_of_fileBook :
    let node : Node :=
      { settings := Settings.mainnetDefaults "/home"
        machine := { home := "/home", tree := { root := "/data" }, freePort := 1 }
        service := { blob := some (.inFile ⟨{ root := "/data" }, ["PeerAddresses.dat"]⟩),
                     seeds := none } }
    node.loaded = false ∧ node.stopped = false ∧
      (∀ (before : List Request) (request : Request),
        ((node.serve before).handle request).saved ≠ (node.serve before).saved →
          (∃ earlier now later, before = earlier ++ .start now :: later ∧
              readsBook (node.serve earlier).service.load.1 = true) ∧
            WritesBook (node.serve before) ((node.serve before).handle request).saved) ∧
      (∀ requests : List Request,
        (∀ earlier now later, requests = earlier ++ .start now :: later →
          readsBook (node.serve earlier).service.load.1 = false) →
        (node.serve requests).saved = node.saved) ∧
      ∀ before after : List Request,
        (node.serve before).stop.saveLoops = [] ∧
          ((node.serve before).stop.serve after).saved = (node.serve before).stop.saved := by
  intro node
  exact ⟨rfl, rfl, saves_only_after_reading node rfl rfl⟩

end Node

end PeerBook
