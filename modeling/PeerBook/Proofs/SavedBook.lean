import Mathlib
import PeerBook.Proofs.Handout
import PeerBook.Proofs.BookListing
import PeerBook.Proofs.PeerFileRoundTrip

/-!
# A stored book loaded elsewhere

A discovery service that stores its book writes the peer file of its records; another service
that loads from the same blob reads the file back, puts the records in its shuffle's order and
replaces its own records by them. Main statement (`load_after_store_keeps_newest`): for a
service reached from a new one by any calls, and a blob that reads back what it last saved, the
loading service counts `min size maxRecords` records, holds exactly the stored book's newest
records in some order, each as it was, and keeps its served set.

Nothing is lost on the way because of the book's invariant: every call of the service is a run
of calls of the book (`Service.exists_book_run_perform`), so a reachable book keeps admissible
records in normal form with distinct endpoints. Writing keeps all of those, reading gives them
back as they are, a shuffle only reorders them (`Shuffle.apply_perm`), and replacing a book's
records by such records keeps each one (`Book.replace_of_distinct`), whatever the book held
before.
-/

namespace PeerBook

namespace Book

theorem merge_withServed (book : Book) (served : ServedSet) (record : PeerRecord) :
    ({ book with served := served } : Book).merge record =
      ({ (book.merge record).1 with served := served }, (book.merge record).2) := by
  cases admissible : record.isAdmissible with
  | false => rw [merge_of_not_admissible admissible, merge_of_not_admissible admissible]
  | true =>
      cases found : book.index[record.normalize.endpoint]? with
      | none =>
          rw [@merge_of_absent { book with served := served } record admissible found,
            merge_of_absent admissible found]
      | some position =>
          rw [@merge_of_found { book with served := served } record admissible position found,
            merge_of_found admissible found]

theorem foldl_mergeTurn_withServed (records : List PeerRecord) (book : Book) (count : Nat)
    (served : ServedSet) :
    records.foldl mergeTurn (({ book with served := served } : Book), count) =
      ({ (records.foldl mergeTurn (book, count)).1 with served := served },
        (records.foldl mergeTurn (book, count)).2) := by
  induction records generalizing book count with
  | nil => rfl
  | cons record records induction =>
      simp only [List.foldl_cons, mergeTurn, merge_withServed]
      exact induction _ _

/-- Replacing a book's records forgets all but its served set: it gives what replacing the
empty book's records gives, with the served set kept. -/
theorem replace_eq_empty_replace (book : Book) (records : List PeerRecord) :
    book.replace records =
      ({ (Book.empty.replace records).1 with served := book.served },
        (Book.empty.replace records).2) := by
  have cleared : ({ book with records := [], index := {} } : Book) =
      { Book.empty with served := book.served } := rfl
  simp only [replace, mergeAll, cleared, foldl_mergeTurn_withServed]
  rfl

/-- What a well-formed book keeps are admissible records in normal form. -/
theorem WellFormed.admissible_and_normal {book : Book} (wf : book.WellFormed) {record : PeerRecord}
    (kept : record ∈ book.records) : record.isAdmissible = true ∧ record.normalize = record := by
  obtain ⟨valid, notLoopback, notMapped, noZone⟩ := wf.storable record kept
  have unmapped := IpAddr.unmap_eq_self notMapped
  refine ⟨?_, ?_⟩
  · simp [PeerRecord.isAdmissible, unmapped, valid, notLoopback]
  · have normal := (IpAddr.normalize_eq_self_iff record.addr).mpr ⟨notMapped, noZone⟩
    simp [PeerRecord.normalize, normal]

end Book

namespace Listing

/-- Merging admissible records in normal form whose endpoints are distinct and not listed
appends them as they are. -/
theorem foldl_mergeTurn_of_distinct (records : List PeerRecord) (state : List PeerRecord × Nat)
    (admissible : ∀ record ∈ records, record.isAdmissible = true)
    (normal : ∀ record ∈ records, record.normalize = record)
    (distinct : ((state.1 ++ records).map PeerRecord.endpoint).Nodup) :
    (records.foldl mergeTurn state).1 = state.1 ++ records := by
  induction records generalizing state with
  | nil => simp
  | cons record records induction =>
      have recordAdmissible := admissible record List.mem_cons_self
      have recordNormal := normal record List.mem_cons_self
      have unlisted : record.endpoint ∉ state.1.map PeerRecord.endpoint := by
        intro listed
        rw [List.map_append, List.map_cons, List.nodup_append] at distinct
        exact distinct.2.2 _ listed _ List.mem_cons_self rfl
      have absent : state.1.findIdx? (·.endpoint == record.endpoint) = none := by
        rw [List.findIdx?_eq_none_iff]
        intro listed member
        simpa using fun same : listed.endpoint = record.endpoint =>
          unlisted (List.mem_map.mpr ⟨listed, member, same⟩)
      have merged : (merge state.1 record).1 = state.1 ++ [record] := by
        simp [merge, recordAdmissible, recordNormal, absent]
      rw [List.foldl_cons, induction (mergeTurn state record)
        (fun other member => admissible other (List.mem_cons_of_mem _ member))
        (fun other member => normal other (List.mem_cons_of_mem _ member))]
      · rw [mergeTurn_fst, merged, List.append_assoc, List.singleton_append]
      · rwa [mergeTurn_fst, merged, List.append_assoc, List.singleton_append]

end Listing

namespace Book

/-- Replacing a book's records by admissible records in normal form with distinct endpoints
keeps them as they are, in their order, and counts them. -/
theorem replace_of_distinct (book : Book) {records : List PeerRecord}
    (admissible : ∀ record ∈ records, record.isAdmissible = true)
    (normal : ∀ record ∈ records, record.normalize = record)
    (distinct : (records.map PeerRecord.endpoint).Nodup) :
    (book.replace records).1.records = records ∧ (book.replace records).2 = records.length := by
  have kept : (Book.empty.replace records).1.records = records := by
    rw [(WellFormed.empty.replace_refines records).1]
    exact Listing.foldl_mergeTurn_of_distinct records ([], 0) admissible normal distinct
  rw [replace_eq_empty_replace]
  refine ⟨kept, ?_⟩
  show (Book.empty.replace records).1.records.length = records.length
  rw [kept]

end Book

namespace PeerFile

/-- The peer file of a well-formed book reads back as its newest records, at most
`maxRecords` of them, as they are. -/
theorem decode_encode_of_wellFormed {book : Book} (wf : book.WellFormed) :
    decode (encode book.records) = .ok ((newestFirst book.records).take maxRecords) := by
  have sorted := (newestFirst_spec book.records).perm
  have admissible : ∀ record ∈ newestFirst book.records, record.isAdmissible = true :=
    fun record member => (wf.admissible_and_normal (sorted.mem_iff.mp member)).1
  rw [decode_encode_newestFirst, List.filter_eq_self.mpr admissible]
  have normal : ∀ record ∈ (newestFirst book.records).take maxRecords, record.normalize = id record :=
    fun record member => (wf.admissible_and_normal (sorted.mem_iff.mp (List.mem_of_mem_take member))).2
  rw [List.map_congr_left normal, List.map_id]

end PeerFile

namespace Discovery

open Store

theorem swapAt_perm {α : Type} (items : List α) (first second : Nat) :
    (swapAt items first second).Perm items := by
  unfold swapAt
  split
  · rename_i one other atFirst atSecond
    obtain ⟨firstInside, rfl⟩ := List.getElem?_eq_some_iff.mp atFirst
    obtain ⟨secondInside, rfl⟩ := List.getElem?_eq_some_iff.mp atSecond
    exact List.set_set_perm firstInside secondInside
  · exact List.Perm.refl items

/-- A shuffle only reorders. -/
theorem Shuffle.apply_perm {α : Type} (shuffle : Shuffle) (items : List α) :
    (shuffle.apply items).Perm items := by
  unfold Shuffle.apply
  -- The swaps are chosen by the number of items, which each swap keeps.
  generalize shuffle items.length = swaps
  induction swaps generalizing items with
  | nil => exact List.Perm.refl items
  | cons swap swaps induction =>
      rw [List.foldl_cons]
      exact (induction _).trans (swapAt_perm items swap.1 swap.2)

variable {σ τ : Type} [Blob σ] [PeerSource τ]

/-- The service after calls made one after another. -/
def Service.serve (service : Service σ τ) (calls : List Call) : Service σ τ :=
  calls.foldl (fun service call => (call.perform service).1) service

namespace Service

omit [Blob σ] in
theorem exists_book_run_getPeers (service : Service σ τ) (context : Seed.Context)
    (required : ServiceMask) (timeout : Duration) :
    ∃ calls : List Book.Call,
      (service.getPeers context required timeout).2.book = service.book.run calls := by
  rcases taking : service.book.takeMatching required with ⟨book, taken⟩
  cases nothing : taken.isEmpty with
  | false => exact ⟨[.takeMatching required], by simp [getPeers, taking, nothing, Book.call]⟩
  | true =>
      cases known : service.seeds with
      | none => exact ⟨[], by simp [getPeers, taking, nothing, known]⟩
      | some seeds =>
          -- Asking the fallback leaves the book as it is; its answer, if any, is marked served.
          rcases asked : service.askSeeds seeds context timeout with ⟨answer, asking⟩
          have unchanged : asking.book = service.book := by
            have kept := book_askSeeds service seeds context timeout
            rwa [asked] at kept
          cases answer with
          | error problem => exact ⟨[], by simp [getPeers, taking, nothing, known, asked, unchanged]⟩
          | ok usable =>
              exact ⟨[.markServed usable],
                by simp [getPeers, taking, nothing, known, asked, unchanged, Book.call]⟩

/-- Every call of the service does to its book what some calls of the book's interface do. -/
theorem exists_book_run_perform (service : Service σ τ) (call : Call) :
    ∃ calls : List Book.Call, (call.perform service).1.book = service.book.run calls := by
  cases call with
  | process advertisements => exact ⟨[.mergeAll _], rfl⟩
  | load =>
      cases saved : service.readSaved with
      | error problem => exact ⟨[], by simp [Call.perform, load, saved]⟩
      | ok records => exact ⟨[.replace records], by simp [Call.perform, load, saved, Book.call]⟩
  | store =>
      refine ⟨[], ?_⟩
      cases kept : service.blob with
      | none => simp [Call.perform, store, kept]
      | some blob => simp [Call.perform, store, kept]
  | getPeers context required timeout =>
      obtain ⟨calls, ran⟩ := exists_book_run_getPeers service context required timeout
      refine ⟨calls, ?_⟩
      rw [← ran]
      simp only [Call.perform]
      split <;> rename_i answered <;> rw [answered]

theorem wellFormed_serve {service : Service σ τ} (wf : service.book.WellFormed)
    (calls : List Call) : (service.serve calls).book.WellFormed := by
  induction calls generalizing service with
  | nil => exact wf
  | cons call calls induction =>
      apply induction
      obtain ⟨bookCalls, ran⟩ := exists_book_run_perform service call
      rw [ran]
      exact wf.run bookCalls

/-- A service reached from a new one, whose book is empty, by calls made one after another. -/
def Reachable (service : Service σ τ) : Prop :=
  ∃ (start : Service σ τ) (calls : List Call), service = { start with book := Book.empty }.serve calls

theorem Reachable.wellFormed {service : Service σ τ} (reached : service.Reachable) :
    service.book.WellFormed := by
  obtain ⟨start, calls, rfl⟩ := reached
  exact wellFormed_serve Book.WellFormed.empty calls

omit [PeerSource τ] in
/-- A store that succeeds saved the encoded book in the service's blob, which it then keeps. -/
theorem store_eq_ok {service stored : Service σ τ} (stores : service.store = (.ok (), stored)) :
    ∃ blob saved, service.blob = some blob ∧
      Blob.save blob (PeerFile.encode service.book.records) = .ok saved ∧
      stored = { service with blob := some saved } := by
  unfold store at stores
  cases kept : service.blob with
  | none => simp [kept] at stores
  | some blob =>
      rw [kept] at stores
      unfold saveEncoded at stores
      cases saving : Blob.save blob (PeerFile.encode service.book.records) with
      | error message => simp [saving] at stores
      | ok saved =>
          simp only [saving, Prod.mk.injEq, true_and] at stores
          exact ⟨blob, saved, rfl, saving, stores.symm⟩

omit [PeerSource τ] in
/-- Loading bytes that decode puts their records, in the shuffle's order, in place of the book's. -/
theorem load_of_decode {service : Service σ τ} {blob : σ} (kept : service.blob = some blob)
    {bytes : List UInt8} (loads : Blob.load blob = .ok (some bytes)) {records : List PeerRecord}
    (reads : PeerFile.decode bytes = .ok records) :
    service.load =
      (.ok (service.book.replace (service.shuffle.apply records)).2,
        { service with book := (service.book.replace (service.shuffle.apply records)).1 }) := by
  have saved : service.readSaved = .ok (service.shuffle.apply records) := by
    simp [readSaved, kept, loads, reads]
  simp [load, saved]

end Service


/-- After a reachable service stores its book, a service loading from the same blob puts in
its book the stored book's newest records, at most `maxRecords`, in its shuffle's order. -/
theorem records_load_after_store {saving stored : Service σ τ} (reached : saving.Reachable)
    {blob : σ} (atBlob : saving.blob = some blob)
    (readsBack : ∀ bytes saved, Blob.save blob bytes = .ok saved →
      Blob.load saved = .ok (some bytes))
    (stores : saving.store = (.ok (), stored)) (loading : Service σ τ)
    (sharing : loading.blob = stored.blob) :
    let kept := (PeerFile.newestFirst saving.book.records).take PeerFile.maxRecords
    loading.load =
      (.ok kept.length, { loading with book := (loading.book.replace (loading.shuffle.apply kept)).1 }) ∧
      (loading.book.replace (loading.shuffle.apply kept)).1.records = loading.shuffle.apply kept := by
  intro kept
  have wf := reached.wellFormed
  obtain ⟨storing, saved, atStoring, saves, rfl⟩ := Service.store_eq_ok stores
  rw [atBlob, Option.some.injEq] at atStoring
  subst atStoring
  have loads := readsBack _ saved saves
  have sorted := (PeerFile.newestFirst_spec saving.book.records).perm
  -- What is loaded comes from the stored book, so it is admissible, normal and keyed apart.
  have fromBook : ∀ record ∈ loading.shuffle.apply kept, record ∈ saving.book.records :=
    fun record member => sorted.mem_iff.mp
      (List.mem_of_mem_take ((loading.shuffle.apply_perm kept).mem_iff.mp member))
  have distinct : ((loading.shuffle.apply kept).map PeerRecord.endpoint).Nodup := by
    rw [((loading.shuffle.apply_perm kept).map PeerRecord.endpoint).nodup_iff]
    apply ((List.take_sublist _ _).map PeerRecord.endpoint).nodup
    exact ((sorted.map PeerRecord.endpoint).nodup_iff).mpr wf.nodup_endpoints
  obtain ⟨replaced, count⟩ := loading.book.replace_of_distinct
    (fun record member => (wf.admissible_and_normal (fromBook record member)).1)
    (fun record member => (wf.admissible_and_normal (fromBook record member)).2) distinct
  refine ⟨?_, replaced⟩
  rw [Service.load_of_decode sharing loads (PeerFile.decode_encode_of_wellFormed wf), count,
    (loading.shuffle.apply_perm kept).length_eq]

/-- Take a service reached from a new one by any calls, whose blob reads back what it last saved,
and let it store its book. Then any service loading from that blob, whatever its state and its
shuffle, counts `min size maxRecords` records, puts in its book the stored book's newest
records (records seen at one time in the stored book's order), at most `maxRecords` of them,
each as it was, in some order; and keeps its served set. -/
theorem load_after_store_keeps_newest {saving stored : Service σ τ} (reached : saving.Reachable)
    {blob : σ} (atBlob : saving.blob = some blob)
    (readsBack : ∀ bytes saved, Blob.save blob bytes = .ok saved →
      Blob.load saved = .ok (some bytes))
    (stores : saving.store = (.ok (), stored)) (loading : Service σ τ)
    (sharing : loading.blob = stored.blob) :
    loading.load.1 = .ok (min saving.book.size PeerFile.maxRecords) ∧
      (∀ sorted, PeerFile.NewestFirst saving.book.records sorted →
        loading.load.2.book.records.Perm (sorted.take PeerFile.maxRecords)) ∧
      loading.load.2.book.served = loading.book.served := by
  obtain ⟨loaded, replaced⟩ :=
    records_load_after_store reached atBlob readsBack stores loading sharing
  rw [loaded]
  refine ⟨?_, ?_, Book.served_replace _ _⟩
  · rw [List.length_take, (PeerFile.newestFirst_spec saving.book.records).perm.length_eq,
      Nat.min_comm]
    rfl
  · intro sorted ordered
    rw [← (PeerFile.newestFirst_spec saving.book.records).unique ordered]
    dsimp only
    rw [replaced]
    exact loading.shuffle.apply_perm _

/-- A book of two peers stored under a key of a store that does not fail, and loaded into a
service that reverses the order of what it loads. -/
theorem load_after_store_keeps_newest_of_keyBlob :
    let start : Service KeyBlob ScriptedSeeds :=
      { blob := some ⟨{}, "addrbook/peers"⟩, seeds := none }
    let heard : List Advertisement :=
      [{ addr := .v4 (IpAddr.octets 10 0 0 1), port := 8333, services := ⟨5⟩, seconds := 7,
          nanos := 0 },
        { addr := .v4 (IpAddr.octets 10 0 0 2), port := 8333, services := ⟨1⟩, seconds := 9,
          nanos := 0 }]
    let saving := { start with book := Book.empty }.serve [.process heard]
    let stored := saving.store.2
    let loading : Service KeyBlob ScriptedSeeds :=
      { blob := stored.blob, seeds := none, shuffle := Shuffle.reverse }
    saving.Reachable ∧ saving.blob = some ⟨{}, "addrbook/peers"⟩ ∧
      (∀ bytes saved, Blob.save (⟨{}, "addrbook/peers"⟩ : KeyBlob) bytes = .ok saved →
        Blob.load saved = .ok (some bytes)) ∧
      saving.store = (.ok (), stored) ∧ loading.blob = stored.blob ∧
      loading.load.1 = .ok (min saving.book.size PeerFile.maxRecords) ∧
      (∀ sorted, PeerFile.NewestFirst saving.book.records sorted →
        loading.load.2.book.records.Perm (sorted.take PeerFile.maxRecords)) ∧
      loading.load.2.book.served = loading.book.served := by
  intro start heard saving stored loading
  have reached : saving.Reachable := ⟨start, _, rfl⟩
  have atBlob : saving.blob = some ⟨{}, "addrbook/peers"⟩ := rfl
  have readsBack : ∀ bytes saved, Blob.save (⟨{}, "addrbook/peers"⟩ : KeyBlob) bytes = .ok saved →
      Blob.load saved = .ok (some bytes) := by
    intro bytes saved saves
    have written : saved = ⟨KeyValueStore.set {} "addrbook/peers" bytes, "addrbook/peers"⟩ := by
      simpa [Blob.save, KeyValueStore.put] using saves.symm
    subst written
    simp [Blob.load, KeyValueStore.get, KeyValueStore.set, KeyValueStore.stored?]
  have stores : saving.store = (.ok (), stored) := by
    simp [Service.store, atBlob, Service.saveEncoded, Blob.save, KeyValueStore.put, stored]
  exact ⟨reached, atBlob, readsBack, stores, rfl,
    load_after_store_keeps_newest reached atBlob readsBack stores loading rfl⟩

end Discovery

end PeerBook
