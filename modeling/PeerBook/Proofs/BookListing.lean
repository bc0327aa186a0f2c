import PeerBook.Proofs.BookInvariant

/-!
# The book refines an insertion-ordered association list

A listing is the book seen as an association list from endpoints to records, in the order the
endpoints were first learned. Merging a record into a listing ignores it unless it is
admissible; otherwise its normal form takes the place of the record listed under the same
endpoint, or goes to the end. Merging several folds merging, and replacing folds it from the
empty listing. Taking the matching records and marking endpoints served leave a listing as it
is: they only touch the served set, which a listing does not have.

The book keeps its records in a list and finds them through its index. Along every run from
the empty book its records are the listing of the same calls, and every answer the listing
decides (whether a merge was new, how many were, how many records a replacement kept, the
records, their number) is the book's answer. The two meet through the representation
invariant: the index finds exactly the first listed record with an endpoint, and a stored
record with the merged record's endpoint differs from the merged record's normal form at most
in the services and last-seen time that merging overwrites.
-/

namespace PeerBook

namespace Listing

/-- Merges a record into a listing; the flag tells whether its endpoint was new. -/
def merge (listing : List PeerRecord) (record : PeerRecord) : List PeerRecord × Bool :=
  if record.isAdmissible then
    let normal := record.normalize
    match listing.findIdx? (·.endpoint == normal.endpoint) with
    | some position => (listing.set position normal, false)
    | none => (listing ++ [normal], true)
  else (listing, false)

/-- One record's turn in merging several: the listing so far and how many were new. -/
def mergeTurn (state : List PeerRecord × Nat) (record : PeerRecord) : List PeerRecord × Nat :=
  let (listing, isNew) := merge state.1 record
  (listing, if isNew then state.2 + 1 else state.2)

/-- Merges records in turn; the count tells how many endpoints were new. -/
def mergeAll (listing : List PeerRecord) (records : List PeerRecord) : List PeerRecord × Nat :=
  records.foldl mergeTurn (listing, 0)

/-- The number of distinct normalized endpoints among the admissible records. -/
def distinctKeys (records : List PeerRecord) : Nat :=
  ((records.filter PeerRecord.isAdmissible).map (·.normalize.endpoint)).toFinset.card

/-- A call on a listing: the listing after it, and the answer when the listing decides it. -/
def call (listing : List PeerRecord) : Book.Call → List PeerRecord × Option Book.Reply
  | .merge record => ((merge listing record).1, some (.added (merge listing record).2))
  | .mergeAll records =>
    ((mergeAll listing records).1, some (.count (mergeAll listing records).2))
  | .replace records => ((mergeAll [] records).1, some (.count (distinctKeys records)))
  | .takeMatching _ => (listing, none)
  | .markServed _ => (listing, some .done)
  | .snapshot => (listing, some (.records listing))
  | .size => (listing, some (.count listing.length))
  | .servedCount => (listing, none)

/-- The listing after calls made in turn. -/
def run (listing : List PeerRecord) (calls : List Book.Call) : List PeerRecord :=
  calls.foldl (fun listing next => (call listing next).1) listing

@[simp]
theorem mergeTurn_fst (state : List PeerRecord × Nat) (record : PeerRecord) :
    (mergeTurn state record).1 = (merge state.1 record).1 := rfl

@[simp]
theorem mergeTurn_snd (state : List PeerRecord × Nat) (record : PeerRecord) :
    (mergeTurn state record).2 =
      if (merge state.1 record).2 then state.2 + 1 else state.2 := rfl

/-- Merging lists the normalized endpoint at the end when the record is admissible and its
endpoint is not listed yet, and otherwise keeps the endpoints as they are. -/
theorem endpoints_merge (listing : List PeerRecord) (record : PeerRecord) :
    (merge listing record).1.map PeerRecord.endpoint =
      if record.isAdmissible = true ∧
          record.normalize.endpoint ∉ listing.map PeerRecord.endpoint then
        listing.map PeerRecord.endpoint ++ [record.normalize.endpoint]
      else listing.map PeerRecord.endpoint := by
  cases admissible : record.isAdmissible with
  | false => simp [merge, admissible]
  | true =>
      cases found : listing.findIdx? (·.endpoint == record.normalize.endpoint) with
      | none =>
          have unlisted : record.normalize.endpoint ∉ listing.map PeerRecord.endpoint := by
            simpa using found
          simp [merge, admissible, found, unlisted]
      | some position =>
          obtain ⟨inside, here, _⟩ := List.findIdx?_eq_some_iff_getElem.mp found
          have same : listing[position].endpoint = record.normalize.endpoint := by
            simpa using here
          have listed : record.normalize.endpoint ∈ listing.map PeerRecord.endpoint :=
            List.mem_map.mpr ⟨_, List.getElem_mem inside, same⟩
          have insideMap : position < (listing.map PeerRecord.endpoint).length := by
            simpa using inside
          have atPosition : (listing.map PeerRecord.endpoint)[position] =
              record.normalize.endpoint := by
            rw [List.getElem_map]
            exact same
          simp only [merge, admissible, found, ite_true, listed, not_true_eq_false,
            and_false, ite_false, List.map_set]
          rw [← atPosition, List.set_getElem_self]

theorem nodup_endpoints_merge {listing : List PeerRecord}
    (distinct : (listing.map PeerRecord.endpoint).Nodup) (record : PeerRecord) :
    ((merge listing record).1.map PeerRecord.endpoint).Nodup := by
  rw [endpoints_merge]
  split
  · rename_i fresh
    refine List.nodup_append.mpr ⟨distinct, List.nodup_singleton _, ?_⟩
    intro key member other latest same
    apply fresh.2
    rw [← List.mem_singleton.mp latest, ← same]
    exact member
  · exact distinct

/-- Merging in turn keeps the listed endpoints distinct, and lists exactly those listed before
and the normalized endpoints of the admissible records. -/
theorem foldl_mergeTurn_endpoints (records : List PeerRecord) (state : List PeerRecord × Nat)
    (distinct : (state.1.map PeerRecord.endpoint).Nodup) :
    let listed := (records.foldl mergeTurn state).1.map PeerRecord.endpoint
    listed.Nodup ∧ listed.toFinset = (state.1.map PeerRecord.endpoint).toFinset ∪
      ((records.filter PeerRecord.isAdmissible).map (·.normalize.endpoint)).toFinset := by
  induction records generalizing state with
  | nil => simp [distinct]
  | cons record records induction =>
      obtain ⟨stillDistinct, keys⟩ :=
        induction (mergeTurn state record) (nodup_endpoints_merge distinct record)
      refine ⟨stillDistinct, ?_⟩
      rw [List.foldl_cons, keys, mergeTurn_fst, endpoints_merge]
      ext key
      by_cases admissible : record.isAdmissible = true
      · split <;> simp_all
      · simp [admissible]

/-- Replacing from the empty listing keeps one record per distinct normalized endpoint among
the admissible records. -/
theorem length_mergeAll_nil (records : List PeerRecord) :
    (mergeAll [] records).1.length = distinctKeys records := by
  obtain ⟨distinct, keys⟩ := foldl_mergeTurn_endpoints records ([], 0) List.nodup_nil
  show (records.foldl mergeTurn ([], 0)).1.length = _
  rw [distinctKeys, ← List.length_map PeerRecord.endpoint,
    ← List.toFinset_card_of_nodup distinct, keys]
  simp

end Listing

namespace Book

/-- Overwriting the services and last-seen time of the record at a position puts a record
there, when the record already there has the same endpoint. -/
theorem modify_overwrite_eq_set {records : List PeerRecord} {position : Nat}
    (inside : position < records.length) {record : PeerRecord}
    (same : records[position].endpoint = record.endpoint) :
    records.modify position
        (fun stored => { stored with services := record.services, lastSeen := record.lastSeen }) =
      records.set position record := by
  rw [List.modify_eq_set, List.getElem?_eq_getElem inside, Option.getD_some]
  simp only [PeerRecord.endpoint, Endpoint.mk.injEq] at same
  obtain ⟨sameAddr, samePort⟩ := same
  rw [sameAddr, samePort]

namespace WellFormed

variable {book : Book}

/-- The index finds the first record with an endpoint, and nothing when there is none. -/
theorem index_eq_findIdx? (wf : book.WellFormed) (key : Endpoint) :
    book.index[key]? = book.records.findIdx? (·.endpoint == key) := by
  cases found : book.index[key]? with
  | none =>
      symm
      rw [List.findIdx?_eq_none_iff]
      intro record member
      obtain ⟨position, inside, rfl⟩ := List.getElem_of_mem member
      have indexed := wf.index_endpoint position inside
      simp only [beq_eq_false_iff_ne]
      intro same
      rw [same, found] at indexed
      exact absurd indexed (by simp)
  | some position =>
      symm
      obtain ⟨inside, kept⟩ := wf.endpoint_index found
      rw [List.findIdx?_eq_some_iff_getElem]
      refine ⟨inside, by simpa using kept, ?_⟩
      intro earlier before same
      have indexed := wf.index_endpoint earlier (Nat.lt_trans before inside)
      rw [beq_iff_eq.mp same, found, Option.some.injEq] at indexed
      omega

/-- One merge of the book is one merge of its listing, flag included. -/
theorem merge_refines (wf : book.WellFormed) (record : PeerRecord) :
    (book.merge record).1.records = (Listing.merge book.records record).1 ∧
      (book.merge record).2 = (Listing.merge book.records record).2 := by
  cases admissible : record.isAdmissible with
  | false => simp [merge_of_not_admissible admissible, Listing.merge, admissible]
  | true =>
      have located := wf.index_eq_findIdx? record.normalize.endpoint
      cases found : book.index[record.normalize.endpoint]? with
      | none =>
          rw [found] at located
          simp [merge_of_absent admissible found, Listing.merge, admissible, ← located]
      | some position =>
          rw [found] at located
          obtain ⟨inside, kept⟩ := wf.endpoint_index found
          simp only [merge_of_found admissible found, Listing.merge, admissible, ite_true,
            ← located, and_true]
          exact modify_overwrite_eq_set inside kept

theorem foldl_mergeTurn_refines (records : List PeerRecord) (state : Book × Nat)
    (listed : List PeerRecord × Nat) (wf : state.1.WellFormed)
    (sameRecords : state.1.records = listed.1) (sameCount : state.2 = listed.2) :
    (records.foldl mergeTurn state).1.records = (records.foldl Listing.mergeTurn listed).1 ∧
      (records.foldl mergeTurn state).2 = (records.foldl Listing.mergeTurn listed).2 := by
  induction records generalizing state listed with
  | nil => exact ⟨sameRecords, sameCount⟩
  | cons record records induction =>
      obtain ⟨mergedRecords, mergedFlag⟩ := wf.merge_refines record
      apply induction _ _ (wf.merge record)
      · rw [mergeTurn_fst, Listing.mergeTurn_fst, mergedRecords, sameRecords]
      · rw [mergeTurn_snd, Listing.mergeTurn_snd, mergedFlag, sameRecords, sameCount]

theorem mergeAll_refines (wf : book.WellFormed) (records : List PeerRecord) :
    (book.mergeAll records).1.records = (Listing.mergeAll book.records records).1 ∧
      (book.mergeAll records).2 = (Listing.mergeAll book.records records).2 :=
  foldl_mergeTurn_refines records (book, 0) (book.records, 0) wf rfl rfl

/-- Replacing the book's records is merging into the empty listing, and the count is the
number of distinct normalized endpoints among the admissible records. -/
theorem replace_refines (wf : book.WellFormed) (records : List PeerRecord) :
    (book.replace records).1.records = (Listing.mergeAll [] records).1 ∧
      (book.replace records).2 = Listing.distinctKeys records := by
  have cleared := (wf.cleared.mergeAll_refines records).1
  refine ⟨cleared, ?_⟩
  rw [← Listing.length_mergeAll_nil, ← cleared]
  rfl

/-- Every call of the book is the same call on its listing, and the book answers what the
listing decides. -/
theorem call_refines (wf : book.WellFormed) (next : Call) :
    (book.call next).1.records = (Listing.call book.records next).1 ∧
      ∀ reply, (Listing.call book.records next).2 = some reply →
        (book.call next).2 = reply := by
  cases next with
  | merge record =>
      obtain ⟨sameRecords, sameFlag⟩ := wf.merge_refines record
      refine ⟨sameRecords, ?_⟩
      rintro reply ⟨⟩
      simp [Book.call, sameFlag]
  | mergeAll records =>
      obtain ⟨sameRecords, sameCount⟩ := wf.mergeAll_refines records
      refine ⟨sameRecords, ?_⟩
      rintro reply ⟨⟩
      simp [Book.call, sameCount]
  | replace records =>
      obtain ⟨sameRecords, sameCount⟩ := wf.replace_refines records
      refine ⟨sameRecords, ?_⟩
      rintro reply ⟨⟩
      simp [Book.call, sameCount]
  | takeMatching required =>
      exact ⟨rfl, fun reply unknown => absurd unknown (by simp [Listing.call])⟩
  | markServed endpoints =>
      refine ⟨rfl, ?_⟩
      rintro reply ⟨⟩
      rfl
  | snapshot =>
      refine ⟨rfl, ?_⟩
      rintro reply ⟨⟩
      rfl
  | size =>
      refine ⟨rfl, ?_⟩
      rintro reply ⟨⟩
      rfl
  | servedCount =>
      exact ⟨rfl, fun reply unknown => absurd unknown (by simp [Listing.call])⟩

theorem run_refines (wf : book.WellFormed) (calls : List Call) :
    (book.run calls).records = Listing.run book.records calls := by
  induction calls generalizing book with
  | nil => rfl
  | cons next calls induction =>
      rw [run_cons, induction (wf.call next), (wf.call_refines next).1]
      rfl

end WellFormed

/-- Along every run from the empty book, the records are the insertion-ordered association
list that the same calls build, and the next call answers what that list decides: whether a
merged record was admissible with a new normalized endpoint, how many merged records were,
how many distinct normalized endpoints a replacement kept, the records themselves and their
number. -/
theorem refines_listing (calls : List Call) (next : Call) :
    (Book.empty.run calls).records = Listing.run [] calls ∧
      ∀ reply, (Listing.call (Listing.run [] calls) next).2 = some reply →
        ((Book.empty.run calls).call next).2 = reply := by
  have wf := WellFormed.empty.run calls
  have sameRecords : (Book.empty.run calls).records = Listing.run [] calls :=
    WellFormed.empty.run_refines calls
  refine ⟨sameRecords, ?_⟩
  rw [← sameRecords]
  exact (wf.call_refines next).2

end Book

end PeerBook
