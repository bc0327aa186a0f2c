import PeerBook.Proofs.BookInvariant

/-!
# Taking the matching records hands out exactly the unserved matches

Taking the records that offer some services walks the book in order and marks each matching
endpoint served as it goes, handing it out when marking finds it new. In a well-formed book
every endpoint is kept once and in normal form, so nothing the walk has marked shares its
normal form with a later record: marking answers "new" exactly when the endpoint was not served
before the walk began. The walk therefore hands out exactly the endpoints of the matching records
that were unserved at the start, in book order and each once, and the served set grows by
exactly those endpoints (`WellFormed.takeMatching_eq`).
-/

namespace PeerBook

namespace Book

/-- The endpoints of the records that offer the required services and are not served, in the
records' order. -/
def unservedMatches (required : ServiceMask) (served : ServedSet) (records : List PeerRecord) :
    List Endpoint :=
  (records.filter fun record =>
    record.hasServices required && !served.contains record.endpoint).map PeerRecord.endpoint

@[simp]
theorem unservedMatches_nil (required : ServiceMask) (served : ServedSet) :
    unservedMatches required served [] = [] := rfl

/-- Adding one key to a served set leaves whether another endpoint in normal form is served as
it was. -/
theorem contains_cons_of_ne {keys : List Endpoint} {key endpoint : Endpoint}
    (normal : endpoint.normalize = endpoint) (different : endpoint ≠ key) :
    (⟨key :: keys⟩ : ServedSet).contains endpoint = (⟨keys⟩ : ServedSet).contains endpoint := by
  simp [ServedSet.contains, normal, different]

/-- The walk over records with distinct endpoints in normal form hands out the unserved
matches of the served set it started from, and puts them in front of the served keys, the
latest first. -/
theorem foldl_takeTurn_eq (required : ServiceMask) (records : List PeerRecord)
    (served : ServedSet) (taken : List Endpoint)
    (normal : ∀ record ∈ records, record.endpoint.normalize = record.endpoint)
    (distinct : (records.map PeerRecord.endpoint).Nodup) :
    records.foldl (takeTurn required) (served, taken) =
      (⟨(unservedMatches required served records).reverse ++ served.keys⟩,
        taken ++ unservedMatches required served records) := by
  induction records generalizing served taken with
  | nil => simp
  | cons record records induction =>
      rw [List.map_cons] at distinct
      have unique := List.nodup_cons.mp distinct
      have normalRest : ∀ other ∈ records, other.endpoint.normalize = other.endpoint :=
        fun other member => normal other (List.mem_cons_of_mem record member)
      rw [List.foldl_cons, takeTurn_eq]
      by_cases fresh : record.hasServices required = true ∧ served.contains record.endpoint = false
      · -- The record is handed out; marking it changes no later record's answer, since no
        -- later record has its endpoint.
        rw [if_pos fresh, normal record List.mem_cons_self]
        have later : unservedMatches required ⟨record.endpoint :: served.keys⟩ records =
            unservedMatches required served records := by
          unfold unservedMatches
          congr 1
          apply List.filter_congr
          intro other member
          have different : other.endpoint ≠ record.endpoint := fun same =>
            unique.1 (List.mem_map.mpr ⟨other, member, same⟩)
          rw [contains_cons_of_ne (normalRest other member) different]
        have head : unservedMatches required served (record :: records) =
            record.endpoint :: unservedMatches required served records := by
          simp [unservedMatches, fresh.1, fresh.2]
        rw [induction _ _ normalRest unique.2, later, head]
        simp
      · rw [if_neg fresh, induction _ _ normalRest unique.2]
        have skipped : (record.hasServices required && !served.contains record.endpoint) = false := by
          simpa using fresh
        simp [unservedMatches, skipped]

/-- The walk never takes back an endpoint it handed out. -/
theorem length_le_foldl_takeTurn (required : ServiceMask) (records : List PeerRecord)
    (state : ServedSet × List Endpoint) :
    state.2.length ≤ (records.foldl (takeTurn required) state).2.length := by
  induction records generalizing state with
  | nil => exact Nat.le_refl _
  | cons record records induction =>
      rw [List.foldl_cons]
      refine Nat.le_trans ?_ (induction _)
      rw [takeTurn_eq]
      split
      · simp
      · exact Nat.le_refl _

/-- A walk that hands out nothing marks nothing. -/
theorem foldl_takeTurn_of_length_eq (required : ServiceMask) (records : List PeerRecord)
    (state : ServedSet × List Endpoint)
    (nothing : (records.foldl (takeTurn required) state).2.length = state.2.length) :
    (records.foldl (takeTurn required) state).1 = state.1 := by
  induction records generalizing state with
  | nil => rfl
  | cons record records induction =>
      rw [List.foldl_cons, takeTurn_eq] at nothing ⊢
      by_cases fresh : record.hasServices required = true ∧ state.1.contains record.endpoint = false
      · -- Handing the record out would leave more endpoints than the walk ends with.
        rw [if_pos fresh] at nothing
        have longer := length_le_foldl_takeTurn required records
          (⟨record.endpoint.normalize :: state.1.keys⟩, state.2 ++ [record.endpoint])
        simp only [List.length_append, List.length_singleton] at longer
        omega
      · rw [if_neg fresh] at nothing ⊢
        exact induction state nothing

/-- Taking the matching records when none is handed out leaves the book as it was. -/
theorem takeMatching_of_nil (book : Book) (required : ServiceMask)
    (nothing : (book.takeMatching required).2 = []) : (book.takeMatching required).1 = book := by
  have unchanged := foldl_takeTurn_of_length_eq required book.records (book.served, [])
    (by simpa [takeMatching] using nothing)
  simp [takeMatching, unchanged]

namespace WellFormed

variable {book : Book}

/-- Every endpoint a well-formed book keeps is its own normal form. -/
theorem endpoint_normalize_of_mem (wf : book.WellFormed) {record : PeerRecord}
    (member : record ∈ book.records) : record.endpoint.normalize = record.endpoint := by
  have storable := wf.storable record member
  exact (Endpoint.normalize_eq_self_iff _).mpr ⟨storable.notMapped, storable.noZone⟩

/-- In a well-formed book, taking the matching records hands out the unserved matches and
adds them, and nothing else, to the served set. -/
theorem takeMatching_eq (wf : book.WellFormed) (required : ServiceMask) :
    book.takeMatching required =
      ({ book with served :=
          ⟨(unservedMatches required book.served book.records).reverse ++ book.served.keys⟩ },
        unservedMatches required book.served book.records) := by
  unfold Book.takeMatching
  rw [foldl_takeTurn_eq required book.records book.served []
    (fun _ member => wf.endpoint_normalize_of_mem member) wf.nodup_endpoints]
  rfl

end WellFormed

/-- Along every run from the empty book, taking the records that offer the required services
hands out exactly the endpoints of the stored records that offer every required bit and whose
normal form was not served before the call, in book order and each once. The served set gains
exactly those endpoints, so the served count grows by their number, and the records and the
index stay as they were. -/
theorem takeMatching_hands_out_unserved_matches (calls : List Call) (required : ServiceMask) :
    let book := Book.empty.run calls
    let after := book.takeMatching required
    after.2 = (book.records.filter fun record =>
        record.services.bits &&& required.bits == required.bits &&
          !book.served.contains record.endpoint).map PeerRecord.endpoint ∧
      after.2.Nodup ∧
      (∀ key, key ∈ after.1.served.keys ↔ key ∈ book.served.keys ∨ key ∈ after.2) ∧
      after.1.servedCount = book.servedCount + after.2.length ∧
      after.1.records = book.records ∧ after.1.index = book.index := by
  intro book after
  have wf : book.WellFormed := WellFormed.empty.run calls
  have taking : after =
      ({ book with served :=
          ⟨(unservedMatches required book.served book.records).reverse ++ book.served.keys⟩ },
        unservedMatches required book.served book.records) :=
    wf.takeMatching_eq required
  have distinct : (unservedMatches required book.served book.records).Nodup :=
    (List.filter_sublist.map PeerRecord.endpoint).nodup wf.nodup_endpoints
  refine ⟨?_, ?_, ?_, ?_, rfl, rfl⟩
  · rw [taking]
    rfl
  · rw [taking]
    exact distinct
  · intro key
    rw [taking]
    simp only [List.mem_append, List.mem_reverse]
    exact or_comm
  · rw [taking]
    simp [servedCount, ServedSet.size, Nat.add_comm]

end Book

end PeerBook
