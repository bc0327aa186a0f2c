import Mathlib.Data.Finset.Card
import PeerBook.ServedSet

/-!
# Served sets hold normal forms

A served set built by marking endpoints one after another is the set of their normal forms:
an endpoint is a member exactly when some marked endpoint has its normal form, marking tells
whether the endpoint was a member just before, and the size counts the distinct normal forms
marked. The mapped, zoned and plain forms of one endpoint are therefore one member.
-/

namespace PeerBook

namespace ServedSet

/-- Membership is membership of the normal form among the keys. -/
theorem contains_eq_true_iff (set : ServedSet) (endpoint : Endpoint) :
    set.contains endpoint = true ↔ endpoint.normalize ∈ set.keys := by
  simp [contains]

/-- Marking tells whether the endpoint was new. -/
theorem mark_snd (set : ServedSet) (endpoint : Endpoint) :
    (set.mark endpoint).2 = !set.contains endpoint := by
  unfold mark
  split <;> simp_all

/-- Marking adds the normal form and keeps every other key. -/
theorem mem_mark_keys (set : ServedSet) (endpoint key : Endpoint) :
    key ∈ (set.mark endpoint).1.keys ↔ key ∈ set.keys ∨ key = endpoint.normalize := by
  unfold mark
  split
  · rename_i held
    have present := (contains_eq_true_iff set endpoint).mp held
    constructor
    · exact Or.inl
    · rintro (member | rfl)
      · exact member
      · exact present
  · simp only [List.mem_cons]
    tauto

/-- Marking keeps the keys free of repeats. -/
theorem nodup_mark_keys (set : ServedSet) (endpoint : Endpoint) (distinct : set.keys.Nodup) :
    (set.mark endpoint).1.keys.Nodup := by
  unfold mark
  split
  · exact distinct
  · rename_i fresh
    have absent : endpoint.normalize ∉ set.keys := fun member =>
      fresh ((contains_eq_true_iff set endpoint).mpr member)
    exact List.nodup_cons.mpr ⟨absent, distinct⟩

/-- The keys after marking several endpoints are the keys before and their normal forms. -/
theorem mem_markAll_keys (endpoints : List Endpoint) (set : ServedSet) (key : Endpoint) :
    key ∈ (set.markAll endpoints).keys ↔
      key ∈ set.keys ∨ key ∈ endpoints.map Endpoint.normalize := by
  induction endpoints generalizing set with
  | nil => simp [markAll]
  | cons endpoint rest induction =>
    have step := induction (set.mark endpoint).1
    simp only [markAll, List.foldl_cons] at step ⊢
    rw [step, mem_mark_keys]
    simp only [List.map_cons, List.mem_cons]
    tauto

/-- Marking several endpoints keeps the keys free of repeats. -/
theorem nodup_markAll_keys (endpoints : List Endpoint) (set : ServedSet)
    (distinct : set.keys.Nodup) : (set.markAll endpoints).keys.Nodup := by
  induction endpoints generalizing set with
  | nil => exact distinct
  | cons endpoint rest induction =>
    have step := induction (set.mark endpoint).1 (nodup_mark_keys set endpoint distinct)
    simpa only [markAll, List.foldl_cons] using step

/-- Marking endpoints one after another on the empty set gives the set of their normal forms:
an endpoint is a member exactly when some marked endpoint has its normal form, marking once
more tells whether it was a member, and the size is the number of distinct normal forms. -/
theorem markAll_empty_tracks_normalForms (marked : List Endpoint) :
    (∀ endpoint, (empty.markAll marked).contains endpoint = true ↔
        ∃ earlier ∈ marked, earlier.normalize = endpoint.normalize) ∧
      (∀ endpoint, ((empty.markAll marked).mark endpoint).2 =
        !(empty.markAll marked).contains endpoint) ∧
      (empty.markAll marked).size = (marked.map Endpoint.normalize).toFinset.card := by
  have members : ∀ key, key ∈ (empty.markAll marked).keys ↔
      key ∈ marked.map Endpoint.normalize := by
    intro key
    rw [mem_markAll_keys]
    simp [empty]
  refine ⟨?_, ?_, ?_⟩
  · intro endpoint
    rw [contains_eq_true_iff, members, List.mem_map]
  · intro endpoint
    exact mark_snd _ endpoint
  · have distinct := nodup_markAll_keys marked empty (by simp [empty])
    have same : (empty.markAll marked).keys.toFinset = (marked.map Endpoint.normalize).toFinset := by
      ext key
      simp only [List.mem_toFinset]
      exact members key
    rw [size, ← List.toFinset_card_of_nodup distinct, same]

end ServedSet

end PeerBook
