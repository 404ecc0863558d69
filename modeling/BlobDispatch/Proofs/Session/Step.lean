import BlobDispatch.Proofs.Host.Preparation
import BlobDispatch.Proofs.Host.Views
import BlobDispatch.Session

/-! One request and the store. A request is an operation on the store, or leaves it as it was but
for new containers; and the blobs in its answer are stored in the state after it. -/

namespace BlobDispatch

theorem Invocation.holds_of_fetch {s : Store} (wellFormed : s.WellFormed) {i : Invocation}
    {resolver : Resolver} {blob : Blob} (done : i.fetch s resolver = .ok blob) : s.Holds blob := by
  obtain ⟨_, _, found⟩ := bind_eq_ok_iff.1 done
  exact Store.holds_of_get wellFormed (mapError_eq_ok_iff.1 found)

theorem Trigger.holds_of_bindInputs {s : Store} (wellFormed : s.WellFormed) {trigger : Trigger}
    {i : Invocation} {blob : Blob}
    (bound : blob ∈ (trigger.bindInputs i s).filterMap (·.blob?)) : s.Holds blob := by
  obtain ⟨_, member, same⟩ := List.mem_filterMap.1 bound
  obtain ⟨input, _, rfl⟩ := List.mem_map.1 member
  split at same
  · rename_i fetched
    cases same
    exact Invocation.holds_of_fetch wellFormed fetched
  · cases same

namespace Session

/-- The blobs that a response gives out of the store. An invocation for a source is left out, since
its blob may be one that an event made up. -/
def Response.returned : Response → List Blob
  | .store answer => answer.returned
  | .page shown => shown.blobs
  | .statuses (some bound) => bound.filterMap (·.blob?)
  | .blob (some resolved) => [resolved]
  | .scanned _ found => found.map (·.blob)
  | _ => []

variable {s next : Session} {request : Request} {response : Response}

theorem apply_store_eq_ok {operation : Store.Operation}
    (done : s.apply (.store operation) = .ok (response, next)) : ∃ reply,
      response = .store reply ∧ s.store.apply operation = .ok (reply, next.store) := by
  obtain ⟨⟨reply, store⟩, applied, same⟩ := bind_eq_ok_iff.1 done
  cases same
  exact ⟨reply, rfl, mapError_eq_ok_iff.1 applied⟩

private theorem answers_nothing (s : Store) {response : Response}
    (nothing : response.returned = []) : (∃ names, s = (Registry.createAll s names).2) ∧
      ∀ blob ∈ response.returned, s.Holds blob := by
  refine ⟨⟨[], rfl⟩, ?_⟩
  rw [nothing]
  exact List.forall_mem_nil _

/-- A request that is no operation on the store creates containers at most, and answers from the
state that it is made in. -/
theorem store_of_apply (wellFormed : s.store.WellFormed)
    (done : s.apply request = .ok (response, next))
    (other : ∀ operation, request ≠ .store operation) :
    (∃ names, next.store = (Registry.createAll s.store names).2) ∧
      ∀ blob ∈ response.returned, s.store.Holds blob := by
  cases request with
  | store operation => exact absurd rfl (other operation)
  | prepare =>
    cases done
    exact ⟨⟨_, rfl⟩, List.forall_mem_nil _⟩
  | newRegistry _ | settings | triggers | getTrigger _ | isSystem _ =>
    cases done
    exact answers_nothing s.store rfl
  | dispatch _ | bind _ _ =>
    obtain ⟨_, _, same⟩ := bind_eq_ok_iff.1 done
    cases same
    exact answers_nothing s.store rfl
  | register _ _ _ =>
    obtain ⟨_, _, declared⟩ := bind_eq_ok_iff.1 done
    obtain ⟨_, _, added⟩ := bind_eq_ok_iff.1 declared
    obtain ⟨_, _, same⟩ := bind_eq_ok_iff.1 added
    cases same
    exact answers_nothing s.store rfl
  | list _ _ _ _ =>
    obtain ⟨_, listed, same⟩ := bind_eq_ok_iff.1 done
    cases same
    exact ⟨⟨[], rfl⟩, fun _ shown =>
      Store.holds_of_list wellFormed (mapError_eq_ok_iff.1 listed) shown⟩
  | bindInputs _ _ =>
    obtain ⟨⟨trigger, invocation⟩, _, same⟩ := bind_eq_ok_iff.1 done
    cases same
    refine ⟨⟨[], rfl⟩, ?_⟩
    intro blob shown
    cases invocation with
    | none => cases shown
    | some i => exact Trigger.holds_of_bindInputs wellFormed shown
  | resolvePath _ _ _ =>
    obtain ⟨⟨_, invocation⟩, _, resolved⟩ := bind_eq_ok_iff.1 done
    cases invocation with
    | none =>
      cases resolved
      exact answers_nothing s.store rfl
    | some i =>
      obtain ⟨_, _, same⟩ := bind_eq_ok_iff.1 resolved
      cases same
      exact answers_nothing s.store rfl
  | resolveInput _ _ _ =>
    obtain ⟨⟨_, invocation⟩, _, resolved⟩ := bind_eq_ok_iff.1 done
    cases invocation with
    | none =>
      cases resolved
      exact answers_nothing s.store rfl
    | some i =>
      obtain ⟨_, found, same⟩ := bind_eq_ok_iff.1 resolved
      cases same
      refine ⟨⟨[], rfl⟩, ?_⟩
      intro blob shown
      obtain ⟨_, _, fetched⟩ := bind_eq_ok_iff.1 (mapError_eq_ok_iff.1 found)
      rw [List.mem_singleton.1 shown]
      exact Invocation.holds_of_fetch wellFormed fetched
  | scan _ _ =>
    obtain ⟨_, _, scanned⟩ := bind_eq_ok_iff.1 done
    obtain ⟨_, found, same⟩ := bind_eq_ok_iff.1 scanned
    cases same
    refine ⟨⟨[], rfl⟩, ?_⟩
    intro blob shown
    obtain ⟨_, member, rfl⟩ := List.mem_map.1 shown
    exact Scanner.holds_of_scan wellFormed (mapError_eq_ok_iff.1 found) member
  | scanRegistry _ =>
    obtain ⟨_, found, same⟩ := bind_eq_ok_iff.1 done
    cases same
    refine ⟨⟨[], rfl⟩, ?_⟩
    intro blob shown
    obtain ⟨_, member, rfl⟩ := List.mem_map.1 shown
    exact Scanner.holds_of_scanRegistry wellFormed (mapError_eq_ok_iff.1 found) member

theorem wellFormed_of_apply (done : s.apply request = .ok (response, next))
    (wellFormed : s.store.WellFormed) : next.store.WellFormed := by
  by_cases store : ∃ operation, request = .store operation
  · obtain ⟨operation, rfl⟩ := store
    obtain ⟨_, _, applied⟩ := apply_store_eq_ok done
    exact Store.wellFormed_of_effect (Store.effect_of_apply applied) wellFormed
  · obtain ⟨⟨names, same⟩, _⟩ := store_of_apply wellFormed done (not_exists.1 store)
    rw [same]
    exact Registry.createAll_keeps Store.WellFormed
      (fun name => Store.wellFormed_of_effect (.createContainer name)) names wellFormed

theorem holds_of_apply (wellFormed : s.store.WellFormed)
    (done : s.apply request = .ok (response, next)) {blob : Blob}
    (shown : blob ∈ response.returned) : next.store.Holds blob := by
  by_cases store : ∃ operation, request = .store operation
  · obtain ⟨operation, rfl⟩ := store
    obtain ⟨_, rfl, applied⟩ := apply_store_eq_ok done
    exact Store.holds_of_apply wellFormed applied shown
  · obtain ⟨⟨names, same⟩, held⟩ := store_of_apply wellFormed done (not_exists.1 store)
    rw [same, Store.Holds, (Registry.createAll_same _ names).2]
    exact held blob shown

end Session

end BlobDispatch
