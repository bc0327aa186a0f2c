import Std.Data.HashMap.Lemmas
import PeerBook.Book
import PeerBook.Proofs.NormalForm
import PeerBook.Proofs.ServedSet

/-!
# The book's representation invariant

A book keeps its records twice: as a list in the order the endpoints were learned, and as an
index from each endpoint to its position in that list. Every call of the book's interface
keeps the two in step: the index has one entry per record, it maps an endpoint to a position
exactly when the record there has that endpoint, and so no endpoint is kept twice. Every kept
address is valid, not loopback, not mapped and without zone, and every served endpoint is in
normal form. The served set never loses a member, not even when the records are replaced.

Each call is taken one branch at a time: merging either ignores the record, overwrites the
services and last-seen time of the record at the position the index gives, or appends the
normalized record and indexes it. Merging several, and replacing, fold merging; taking the
matching records folds `Book.takeTurn`, whose effect on the served set is described once, by
`HandsOut`.
-/

namespace PeerBook

namespace Book

/-- A call of the book's interface. -/
inductive Call where
  | merge (record : PeerRecord)
  | mergeAll (records : List PeerRecord)
  | replace (records : List PeerRecord)
  | takeMatching (required : ServiceMask)
  | markServed (endpoints : List Endpoint)
  | snapshot
  | size
  | servedCount

/-- What a call of the book's interface answers. -/
inductive Reply where
  | added (isNew : Bool)
  | count (value : Nat)
  | records (records : List PeerRecord)
  | endpoints (endpoints : List Endpoint)
  | done
  deriving DecidableEq, Repr

/-- Makes a call: the book after it, and its answer. -/
def call (book : Book) : Call → Book × Reply
  | .merge record => Prod.map id .added (book.merge record)
  | .mergeAll records => Prod.map id .count (book.mergeAll records)
  | .replace records => Prod.map id .count (book.replace records)
  | .takeMatching required => Prod.map id .endpoints (book.takeMatching required)
  | .markServed endpoints => (book.markServed endpoints, .done)
  | .snapshot => (book, .records book.records)
  | .size => (book, .count book.size)
  | .servedCount => (book, .count book.servedCount)

/-- The book after calls made in turn. -/
def run (book : Book) (calls : List Call) : Book :=
  calls.foldl (fun book next => (book.call next).1) book

@[simp]
theorem run_nil (book : Book) : book.run [] = book := rfl

@[simp]
theorem run_cons (book : Book) (next : Call) (calls : List Call) :
    book.run (next :: calls) = (book.call next).1.run calls := rfl

/-! ## Merging, one branch at a time -/

section Merge

variable {book : Book} {record : PeerRecord}

theorem merge_of_not_admissible (refused : record.isAdmissible = false) :
    book.merge record = (book, false) := by
  simp [merge, refused]

theorem merge_of_found (admissible : record.isAdmissible = true) {position : Nat}
    (found : book.index[record.normalize.endpoint]? = some position) :
    book.merge record =
      ({ book with records := book.records.modify position fun stored =>
          { stored with services := record.services, lastSeen := record.lastSeen } },
        false) := by
  simp [merge, admissible, found]

theorem merge_of_absent (admissible : record.isAdmissible = true)
    (absent : book.index[record.normalize.endpoint]? = none) :
    book.merge record =
      ({ book with
          records := book.records ++ [record.normalize]
          index := book.index.insert record.normalize.endpoint book.records.length },
        true) := by
  simp [merge, admissible, absent]

@[simp]
theorem mergeTurn_fst (state : Book × Nat) (record : PeerRecord) :
    (mergeTurn state record).1 = (state.1.merge record).1 := rfl

@[simp]
theorem mergeTurn_snd (state : Book × Nat) (record : PeerRecord) :
    (mergeTurn state record).2 =
      if (state.1.merge record).2 then state.2 + 1 else state.2 := rfl

@[simp]
theorem served_merge (book : Book) (record : PeerRecord) :
    (book.merge record).1.served = book.served := by
  cases admissible : record.isAdmissible with
  | false => rw [merge_of_not_admissible admissible]
  | true =>
      cases found : book.index[record.normalize.endpoint]? with
      | none => rw [merge_of_absent admissible found]
      | some position => rw [merge_of_found admissible found]

theorem served_foldl_mergeTurn (records : List PeerRecord) (state : Book × Nat) :
    (records.foldl mergeTurn state).1.served = state.1.served := by
  induction records generalizing state with
  | nil => rfl
  | cons record records induction =>
      rw [List.foldl_cons, induction]
      exact served_merge state.1 record

@[simp]
theorem served_mergeAll (book : Book) (records : List PeerRecord) :
    (book.mergeAll records).1.served = book.served :=
  served_foldl_mergeTurn records (book, 0)

@[simp]
theorem served_replace (book : Book) (records : List PeerRecord) :
    (book.replace records).1.served = book.served :=
  served_mergeAll _ records

end Merge

/-! ## Taking the matching records -/

/-- What a run of `takeTurn` has done to the served set it started from: the served set is the
start with the normal forms of the endpoints handed out, each handed-out endpoint was new to
the start, and no normal form was handed out twice. -/
structure HandsOut (start : ServedSet) (state : ServedSet × List Endpoint) : Prop where
  mem_keys : ∀ key, key ∈ state.1.keys ↔
    key ∈ start.keys ∨ key ∈ state.2.map Endpoint.normalize
  fresh : ∀ endpoint ∈ state.2, endpoint.normalize ∉ start.keys
  nodup : (state.2.map Endpoint.normalize).Nodup

/-- A record hands out its endpoint exactly when it offers the required services and its
endpoint was not served; otherwise its turn changes nothing. -/
theorem takeTurn_eq (required : ServiceMask) (state : ServedSet × List Endpoint)
    (record : PeerRecord) :
    takeTurn required state record =
      if record.hasServices required = true ∧ state.1.contains record.endpoint = false then
        (⟨record.endpoint.normalize :: state.1.keys⟩, state.2 ++ [record.endpoint])
      else state := by
  unfold takeTurn
  by_cases offered : record.hasServices required = true
  · cases known : state.1.contains record.endpoint <;> simp [offered, known, ServedSet.mark]
  · simp [offered]

theorem HandsOut.start (start : ServedSet) : HandsOut start (start, []) where
  mem_keys := by simp
  fresh := by simp
  nodup := List.nodup_nil

theorem HandsOut.turn {start : ServedSet} {state : ServedSet × List Endpoint}
    (handed : HandsOut start state) (required : ServiceMask) (record : PeerRecord) :
    HandsOut start (takeTurn required state record) := by
  rw [takeTurn_eq]
  split
  · rename_i fresh
    have unserved : record.endpoint.normalize ∉ state.1.keys := by
      simpa [ServedSet.contains] using fresh.2
    have notStart : record.endpoint.normalize ∉ start.keys := fun member =>
      unserved ((handed.mem_keys _).mpr (.inl member))
    have notHanded : record.endpoint.normalize ∉ state.2.map Endpoint.normalize :=
      fun member => unserved ((handed.mem_keys _).mpr (.inr member))
    refine ⟨?_, ?_, ?_⟩
    · intro key
      simp only [List.mem_cons, List.map_append, List.mem_append, List.map_cons,
        List.map_nil, handed.mem_keys key]
      tauto
    · intro endpoint member
      rcases List.mem_append.mp member with earlier | latest
      · exact handed.fresh endpoint earlier
      · rw [List.mem_singleton.mp latest]
        exact notStart
    · rw [List.map_append, List.nodup_append]
      refine ⟨handed.nodup, List.nodup_singleton _, ?_⟩
      intro key member other latest
      rw [List.map_cons, List.map_nil, List.mem_singleton] at latest
      rintro rfl
      exact notHanded (latest ▸ member)
  · exact handed

theorem HandsOut.fold {start : ServedSet} {state : ServedSet × List Endpoint}
    (handed : HandsOut start state) (required : ServiceMask) (records : List PeerRecord) :
    HandsOut start (records.foldl (takeTurn required) state) := by
  induction records generalizing state with
  | nil => exact handed
  | cons record records induction =>
      exact induction (handed.turn required record)

theorem nodup_foldl_takeTurn (required : ServiceMask) (records : List PeerRecord)
    {state : ServedSet × List Endpoint} (distinct : state.1.keys.Nodup) :
    (records.foldl (takeTurn required) state).1.keys.Nodup := by
  induction records generalizing state with
  | nil => exact distinct
  | cons record records induction =>
      apply induction
      unfold Book.takeTurn
      split
      · exact ServedSet.nodup_mark_keys state.1 record.endpoint distinct
      · exact distinct

@[simp]
theorem records_takeMatching (book : Book) (required : ServiceMask) :
    (book.takeMatching required).1.records = book.records := rfl

@[simp]
theorem index_takeMatching (book : Book) (required : ServiceMask) :
    (book.takeMatching required).1.index = book.index := rfl

theorem handsOut_takeMatching (book : Book) (required : ServiceMask) :
    HandsOut book.served
      ((book.takeMatching required).1.served, (book.takeMatching required).2) :=
  (HandsOut.start book.served).fold required book.records

/-! ## The invariant -/

/-- The representation invariant of a book. -/
structure WellFormed (book : Book) : Prop where
  /-- The index has one entry per record. -/
  size_index : book.index.size = book.records.length
  /-- The index maps an endpoint to a position exactly when the record there has it. -/
  index_iff : ∀ (key : Endpoint) (position : Nat), book.index[key]? = some position ↔
    (book.records.map PeerRecord.endpoint)[position]? = some key
  /-- Every kept address is valid, not loopback, not mapped and without zone. -/
  storable : ∀ record ∈ book.records, record.addr.IsStorable
  /-- Every served endpoint is in normal form. -/
  served_normal : ∀ key ∈ book.served.keys, key.addr.isMapped = false ∧ key.addr.zone = ""

namespace WellFormed

variable {book : Book}

theorem index_endpoint (wf : book.WellFormed) (position : Nat)
    (inside : position < book.records.length) :
    book.index[book.records[position].endpoint]? = some position := by
  rw [wf.index_iff]
  simp [inside]

theorem endpoint_index (wf : book.WellFormed) {key : Endpoint} {position : Nat}
    (found : book.index[key]? = some position) :
    ∃ inside : position < book.records.length, book.records[position].endpoint = key := by
  have listed := (wf.index_iff key position).mp found
  simp only [List.getElem?_map, Option.map_eq_some_iff, List.getElem?_eq_some_iff] at listed
  obtain ⟨record, ⟨inside, stored⟩, same⟩ := listed
  exact ⟨inside, stored ▸ same⟩

/-- No endpoint is kept twice. -/
theorem nodup_endpoints (wf : book.WellFormed) :
    (book.records.map PeerRecord.endpoint).Nodup := by
  rw [List.nodup_iff_injective_get]
  intro first second same
  have atFirst := wf.index_endpoint first (by simpa using first.isLt)
  have atSecond := wf.index_endpoint second (by simpa using second.isLt)
  simp only [List.get_eq_getElem, List.getElem_map] at same
  rw [same, atSecond, Option.some.injEq] at atFirst
  exact Fin.ext (by simpa using atFirst.symm)

private theorem map_modify_eq_map {α β : Type} {view : α → β} {change : α → α}
    (keeps : ∀ item, view (change item) = view item) (items : List α) (position : Nat) :
    (items.modify position change).map view = items.map view := by
  apply List.ext_getElem?
  intro index
  simp only [List.getElem?_map, List.getElem?_modify]
  cases items[index]? with
  | none => rfl
  | some item =>
      by_cases here : position = index
      · simp [here, keeps]
      · simp [here]

private theorem getElem?_append_singleton_eq_some {α : Type} {items : List α} {last item : α}
    {position : Nat} :
    (items ++ [last])[position]? = some item ↔
      items[position]? = some item ∨ (position = items.length ∧ last = item) := by
  rw [List.getElem?_append]
  by_cases inside : position < items.length
  · have notLast : position ≠ items.length := Nat.ne_of_lt inside
    simp [inside, notLast]
  · have missing : items[position]? = none := List.getElem?_eq_none (by omega)
    simp only [inside, if_false, List.getElem?_singleton, missing, reduceCtorEq, false_or]
    by_cases last : position = items.length
    · simp [last]
    · have beyond : position - items.length ≠ 0 := by omega
      simp [beyond, last]

theorem empty : Book.empty.WellFormed where
  size_index := by simp [Book.empty]
  index_iff := by simp [Book.empty]
  storable := by simp [Book.empty]
  served_normal := by simp [Book.empty]

/-- Emptying the records and the index keeps the invariant. -/
theorem cleared (wf : book.WellFormed) :
    ({ book with records := [], index := {} } : Book).WellFormed where
  size_index := by simp
  index_iff := by simp
  storable := by simp
  served_normal := wf.served_normal

/-- Overwriting the services and last-seen time of a record keeps the invariant: the
endpoints and addresses stay as they are. -/
theorem overwrite (wf : book.WellFormed) (position : Nat) (services : ServiceMask)
    (lastSeen : Int64) :
    ({ book with records := book.records.modify position fun stored =>
        { stored with services := services, lastSeen := lastSeen } } : Book).WellFormed := by
  have endpoints : (book.records.modify position fun stored =>
      { stored with services := services, lastSeen := lastSeen }).map PeerRecord.endpoint =
        book.records.map PeerRecord.endpoint :=
    map_modify_eq_map (fun _ => by rfl) book.records position
  have addresses : (book.records.modify position fun stored =>
      { stored with services := services, lastSeen := lastSeen }).map PeerRecord.addr =
        book.records.map PeerRecord.addr :=
    map_modify_eq_map (fun _ => by rfl) book.records position
  refine ⟨?_, ?_, ?_, wf.served_normal⟩
  · simpa using wf.size_index
  · intro key index
    rw [endpoints]
    exact wf.index_iff key index
  · intro record member
    have listed : record.addr ∈ book.records.map PeerRecord.addr :=
      addresses ▸ List.mem_map_of_mem member
    obtain ⟨stored, kept, same⟩ := List.mem_map.mp listed
    exact same ▸ wf.storable stored kept

/-- Appending a storable record whose endpoint the index does not know, and indexing it at
the end, keeps the invariant. -/
theorem append (wf : book.WellFormed) {record : PeerRecord}
    (storable : record.addr.IsStorable) (absent : book.index[record.endpoint]? = none) :
    ({ book with
        records := book.records ++ [record]
        index := book.index.insert record.endpoint book.records.length } : Book).WellFormed := by
  have unindexed : record.endpoint ∉ book.index := by
    simp [Std.HashMap.mem_iff_isSome_getElem?, absent]
  have unlisted : ∀ position : Nat,
      (book.records.map PeerRecord.endpoint)[position]? ≠ some record.endpoint := by
    intro position listed
    rw [← wf.index_iff, absent] at listed
    exact absurd listed (by simp)
  refine ⟨?_, ?_, ?_, wf.served_normal⟩
  · simp [Std.HashMap.size_insert, unindexed, wf.size_index]
  · intro key position
    rw [Std.HashMap.getElem?_insert, List.map_append, List.map_cons, List.map_nil,
      getElem?_append_singleton_eq_some, List.length_map]
    by_cases same : record.endpoint = key
    · -- The new entry: its position is the end, where no earlier record has its endpoint.
      subst same
      simp only [beq_self_eq_true, ite_true, Option.some.injEq, and_true]
      constructor
      · rintro rfl
        exact .inr rfl
      · rintro (listed | rfl)
        · exact absurd listed (unlisted position)
        · rfl
    · -- Another endpoint: the index and the listing answer as before.
      have different : (record.endpoint == key) = false := by simpa using same
      simp only [different, Bool.false_eq_true, ite_false, same, and_false, or_false]
      exact wf.index_iff key position
  · intro stored member
    rcases List.mem_append.mp member with kept | latest
    · exact wf.storable stored kept
    · rw [List.mem_singleton.mp latest]
      exact storable

theorem merge (wf : book.WellFormed) (record : PeerRecord) :
    (book.merge record).1.WellFormed := by
  cases admissible : record.isAdmissible with
  | false =>
      rw [merge_of_not_admissible admissible]
      exact wf
  | true =>
      cases found : book.index[record.normalize.endpoint]? with
      | none =>
          rw [merge_of_absent admissible found]
          exact wf.append (PeerRecord.isStorable_normalize admissible) found
      | some position =>
          rw [merge_of_found admissible found]
          exact wf.overwrite position record.services record.lastSeen

theorem foldl_mergeTurn (records : List PeerRecord) (state : Book × Nat)
    (wf : state.1.WellFormed) : (records.foldl mergeTurn state).1.WellFormed := by
  induction records generalizing state with
  | nil => exact wf
  | cons record records induction =>
      apply induction
      rw [mergeTurn_fst]
      exact wf.merge record

theorem mergeAll (wf : book.WellFormed) (records : List PeerRecord) :
    (book.mergeAll records).1.WellFormed :=
  foldl_mergeTurn records (book, 0) wf

theorem replace (wf : book.WellFormed) (records : List PeerRecord) :
    (book.replace records).1.WellFormed :=
  wf.cleared.mergeAll records

theorem takeMatching (wf : book.WellFormed) (required : ServiceMask) :
    (book.takeMatching required).1.WellFormed := by
  have handed := handsOut_takeMatching book required
  refine ⟨?_, ?_, ?_, ?_⟩
  · simpa using wf.size_index
  · simpa using wf.index_iff
  · simpa using wf.storable
  · intro key member
    rcases (handed.mem_keys key).mp member with old | taken
    · exact wf.served_normal key old
    · obtain ⟨endpoint, _, rfl⟩ := List.mem_map.mp taken
      simp

theorem markServed (wf : book.WellFormed) (endpoints : List Endpoint) :
    (book.markServed endpoints).WellFormed := by
  refine ⟨wf.size_index, wf.index_iff, wf.storable, ?_⟩
  intro key member
  rcases (ServedSet.mem_markAll_keys endpoints book.served key).mp member with old | marked
  · exact wf.served_normal key old
  · obtain ⟨endpoint, _, rfl⟩ := List.mem_map.mp marked
    simp

/-- Every call keeps the invariant. -/
theorem call (wf : book.WellFormed) : ∀ next, (book.call next).1.WellFormed
  | .merge record => wf.merge record
  | .mergeAll records => wf.mergeAll records
  | .replace records => wf.replace records
  | .takeMatching required => wf.takeMatching required
  | .markServed endpoints => wf.markServed endpoints
  | .snapshot => wf
  | .size => wf
  | .servedCount => wf

/-- Every run of calls keeps the invariant. -/
theorem run (wf : book.WellFormed) (calls : List Call) : (book.run calls).WellFormed := by
  induction calls generalizing book with
  | nil => exact wf
  | cons next calls induction => exact induction (wf.call next)

end WellFormed

/-- No call takes a member out of the served set. -/
theorem mem_served_call (book : Book) (next : Call) {key : Endpoint}
    (member : key ∈ book.served.keys) : key ∈ (book.call next).1.served.keys := by
  cases next with
  | merge record => simpa [call] using member
  | mergeAll records => simpa [call] using member
  | replace records => simpa [call] using member
  | takeMatching required =>
      exact ((handsOut_takeMatching book required).mem_keys key).mpr (.inl member)
  | markServed endpoints =>
      exact (ServedSet.mem_markAll_keys endpoints book.served key).mpr (.inl member)
  | snapshot => exact member
  | size => exact member
  | servedCount => exact member

/-- Every book reached from the empty book by any calls keeps its index and its records in
step: the index has one entry per record, finds each record's endpoint at the record's
position, and names only positions whose record has the entry's endpoint, so no endpoint is
kept twice. Every kept address is valid, not loopback, not mapped and without zone; every
served endpoint is unmapped and without zone; and the next call, whatever it is, keeps every
served endpoint served. -/
theorem representation_invariant_of_run (calls : List Call) :
    let book := Book.empty.run calls
    book.index.size = book.records.length ∧
      (∀ (position : Nat) (inside : position < book.records.length),
        book.index[book.records[position].endpoint]? = some position) ∧
      (∀ (key : Endpoint) (position : Nat), book.index[key]? = some position →
        ∃ inside : position < book.records.length, book.records[position].endpoint = key) ∧
      (book.records.map PeerRecord.endpoint).Nodup ∧
      (∀ record ∈ book.records, record.addr.isValid = true ∧
        record.addr.isLoopback = false ∧ record.addr.isMapped = false ∧
        record.addr.zone = "") ∧
      (∀ key ∈ book.served.keys, key.addr.isMapped = false ∧ key.addr.zone = "") ∧
      ∀ (next : Call) (key : Endpoint), key ∈ book.served.keys →
        key ∈ (book.call next).1.served.keys := by
  intro book
  have wf : book.WellFormed := WellFormed.empty.run calls
  refine ⟨wf.size_index, wf.index_endpoint, fun _ _ found => wf.endpoint_index found,
    wf.nodup_endpoints, ?_, wf.served_normal, fun next _ member =>
      mem_served_call book next member⟩
  intro record member
  have storable := wf.storable record member
  exact ⟨storable.valid, storable.notLoopback, storable.notMapped, storable.noZone⟩

end Book

end PeerBook
