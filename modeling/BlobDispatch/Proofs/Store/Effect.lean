import BlobDispatch.Proofs.NameTable
import BlobDispatch.Proofs.Success
import BlobDispatch.Store.Operation

/-! What each operation on a store does when it succeeds: which lookups it needs and which entries
it writes. Later proofs use these equivalences and do not open the operations again. -/

namespace BlobDispatch.Store

theorem container_eq_ok_iff {s : Store} {name : String} {container : Container} :
    s.container name = .ok container ↔ s.containers.get? name = some container := by
  unfold Store.container
  split <;> simp_all

theorem get?_of_not_exists {s : Store} {name : String} (absent : s.containerExists name = false) :
    s.containers.get? name = none := by
  simpa [containerExists, NameTable.contains] using absent

theorem createContainer_of_exists {s : Store} {name : String}
    (there : s.containerExists name = true) : s.createContainer name = (false, s) := by
  rw [createContainer, if_pos there]

theorem createContainer_of_not_exists {s : Store} {name : String}
    (absent : s.containerExists name = false) : s.createContainer name =
      (true, { s with containers := s.containers.insert name Container.empty }) := by
  rw [createContainer, absent]
  rfl

theorem get?_createContainer (s : Store) (name key : String) :
    (s.createContainer name).2.containers.get? key =
      (s.containers.get? key).or (if key = name then some Container.empty else none) := by
  cases there : s.containerExists name with
  | true =>
    obtain ⟨container, found⟩ := Option.isSome_iff_exists.1 there
    rw [createContainer_of_exists there]
    by_cases here : key = name <;> simp [here, found]
  | false =>
    have missing := get?_of_not_exists there
    rw [createContainer_of_not_exists there]
    by_cases here : key = name <;> simp [here, missing]

/-- Creating a container leaves all that a store has beside its containers. -/
theorem createContainer_eq (s : Store) (name : String) : (s.createContainer name).2 =
    { s with containers := (s.createContainer name).2.containers } := by
  rw [createContainer]
  split <;> rfl

theorem setContainerMetadata_eq_ok_iff {s next : Store} {name : String} {metadata : Metadata} :
    s.setContainerMetadata name metadata = .ok next ↔ ∃ container,
      s.containers.get? name = some container ∧
        next = { s with containers := s.containers.insert name { container with metadata } } := by
  unfold setContainerMetadata
  simp only [bind_eq_ok_iff, container_eq_ok_iff, pure, Except.pure, Except.ok.injEq,
    eq_comm (a := next)]

def written (s : Store) (container : Container) (containerName name : String)
    (content : List UInt8) (metadata : Option Metadata) (now : Timestamp) : Blob :=
  { container := containerName
    name
    content
    properties := ⟨UInt64.ofNat content.length, s.lastTag.next, now⟩
    metadata := metadata.getD
      (((container.blobs.get? name).map (·.metadata)).getD FoldedMap.empty) }

theorem put_eq_ok_iff {s next : Store} {containerName name : String} {content : List UInt8}
    {metadata : Option Metadata} {now : Timestamp} {blob : Blob} :
    s.put containerName name content metadata now = .ok (blob, next) ↔ name ≠ "" ∧ ∃ container,
      s.containers.get? containerName = some container ∧
        blob = s.written container containerName name content metadata now ∧
        next = { s with
          lastTag := s.lastTag.next
          containers := s.containers.insert containerName
            { container with blobs := container.blobs.insert name blob } } := by
  unfold Store.put
  by_cases empty : name = ""
  · simp [empty]
  · rw [if_neg empty]
    simp only [bind_eq_ok_iff, container_eq_ok_iff, pure, Except.pure, Except.ok.injEq,
      Prod.mk.injEq]
    constructor
    · intro stored
      obtain ⟨container, found, rfl, rfl⟩ := stored
      exact ⟨empty, container, found, rfl, rfl⟩
    · intro effect
      obtain ⟨_, container, found, rfl, rfl⟩ := effect
      exact ⟨container, found, rfl, rfl⟩

theorem get_eq_ok_iff {s : Store} {containerName name : String} {blob : Blob} :
    s.get containerName name = .ok blob ↔ ∃ container,
      s.containers.get? containerName = some container ∧
        container.blobs.get? name = some blob := by
  unfold Store.get
  simp only [bind_eq_ok_iff, container_eq_ok_iff]
  apply exists_congr
  intro container
  apply and_congr_right
  intro _
  split <;> simp_all

theorem delete_eq_ok_iff {s next : Store} {containerName name : String} {existed : Bool} :
    s.delete containerName name = .ok (existed, next) ↔ ∃ container,
      s.containers.get? containerName = some container ∧
        existed = container.blobs.contains name ∧
        next = { s with
          containers := s.containers.insert containerName
            { container with blobs := container.blobs.erase name } } := by
  unfold Store.delete
  simp only [bind_eq_ok_iff, container_eq_ok_iff, pure, Except.pure, Except.ok.injEq,
    Prod.mk.injEq, eq_comm (a := existed), eq_comm (a := next)]

theorem setMetadata_eq_ok_iff {s next : Store} {containerName name : String}
    {metadata : Metadata} : s.setMetadata containerName name metadata = .ok next ↔
      ∃ container blob, s.containers.get? containerName = some container ∧
        container.blobs.get? name = some blob ∧
        next = { s with
          containers := s.containers.insert containerName
            { container with blobs := container.blobs.insert name { blob with metadata } } } := by
  unfold Store.setMetadata
  simp only [bind_eq_ok_iff, container_eq_ok_iff, get_eq_ok_iff, pure, Except.pure,
    Except.ok.injEq]
  constructor
  · intro done
    obtain ⟨container, found, blob, ⟨again, refound, stored⟩, rfl⟩ := done
    cases found.symm.trans refound
    exact ⟨container, blob, found, stored, rfl⟩
  · intro held
    obtain ⟨container, blob, found, stored, rfl⟩ := held
    exact ⟨container, found, blob, ⟨container, found, stored⟩, rfl⟩

/-- The states that one operation can lead to. -/
inductive Effect (s : Store) : Store → Prop
  | none : Effect s s
  | createContainer (name : String) : Effect s (s.createContainer name).2
  | deleteContainer (name : String) : Effect s (s.deleteContainer name).2
  | setContainerMetadata {name : String} {metadata : Metadata} {next : Store}
      (done : s.setContainerMetadata name metadata = .ok next) : Effect s next
  | put {container name : String} {content : List UInt8} {metadata : Option Metadata}
      {now : Timestamp} {blob : Blob} {next : Store}
      (done : s.put container name content metadata now = .ok (blob, next)) : Effect s next
  | delete {container name : String} {existed : Bool} {next : Store}
      (done : s.delete container name = .ok (existed, next)) : Effect s next
  | setMetadata {container name : String} {metadata : Metadata} {next : Store}
      (done : s.setMetadata container name metadata = .ok next) : Effect s next
  | setService (service : ServiceProperties) : Effect s (s.setService service)

theorem effect_of_apply {s next : Store} {operation : Operation} {reply : Reply}
    (done : s.apply operation = .ok (reply, next)) : Effect s next := by
  cases operation with
  | createContainer name => cases done; exact .createContainer name
  | deleteContainer name => cases done; exact .deleteContainer name
  | setContainerMetadata name metadata =>
    obtain ⟨_, stored, same⟩ := map_eq_ok_iff.1 done
    cases same
    exact .setContainerMetadata stored
  | put container name content metadata now =>
    obtain ⟨_, stored, same⟩ := map_eq_ok_iff.1 done
    cases same
    exact .put stored
  | delete container name =>
    obtain ⟨_, stored, same⟩ := map_eq_ok_iff.1 done
    cases same
    exact .delete stored
  | setMetadata container name metadata =>
    obtain ⟨_, stored, same⟩ := map_eq_ok_iff.1 done
    cases same
    exact .setMetadata stored
  | setService properties => cases done; exact .setService properties
  | containerMetadata _ | get _ _ | list _ _ | pages _ | listAll _ =>
    obtain ⟨_, _, same⟩ := map_eq_ok_iff.1 done
    cases same
    exact .none
  | containerExists _ | containerNames | service | blobCount _ | size | inspect =>
    cases done
    exact .none

theorem effect_of_step (s : Store) (operation : Operation) : Effect s (s.step operation).2 := by
  unfold step
  split
  · rename_i done
    exact effect_of_apply done
  · exact .none

theorem run_keeps (kept : Store → Prop)
    (keep : ∀ {s next : Store}, Effect s next → kept s → kept next) {s : Store}
    (operations : List Operation) (first : kept s) : kept (s.run operations).2 := by
  induction operations generalizing s with
  | nil => exact first
  | cons operation rest ih => exact ih (keep (effect_of_step s operation) first)

end BlobDispatch.Store
