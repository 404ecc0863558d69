import BlobDispatch.Proofs.Store.Effect
import BlobDispatch.Proofs.Store.History

/-! One step at every place of a store. What a step leaves as the metadata of a container and as a
blob is what its event makes of what was there, and the event is all that counts: which operation
it was and what it answered. -/

namespace BlobDispatch.Store

def blob? (s : Store) (container name : String) : Option Blob :=
  (s.containers.get? container).bind fun held => held.blobs.get? name

def metadata? (s : Store) (container : String) : Option Metadata :=
  (s.containers.get? container).map (·.metadata)

/-- What one event makes of a store, read at every place. -/
structure Moves (s next : Store) (e : Event) : Prop where
  metadata : ∀ container, next.metadata? container = e.onMetadata container (s.metadata? container)
  blob : ∀ container name,
    next.blob? container name = e.onBlob container name (s.blob? container name)
  service : next.service = e.service?.getD s.service
  written : ∀ container name, e.labelled? container name ≠ none →
    e.write? container name = none → s.blob? container name ≠ none

section Moves

variable {s next : Store}

/-- No container changes, and the event speaks of none. -/
theorem Moves.quiet {e : Event} (containers : next.containers = s.containers)
    (service : next.service = e.service?.getD s.service)
    (standing : ∀ container, e.standing? container = none)
    (described : ∀ container, e.described? container = none)
    (clears : ∀ container name, e.clears container name = false)
    (write : ∀ container name, e.write? container name = none)
    (labelled : ∀ container name, e.labelled? container name = none) : Moves s next e := by
  constructor
  · intro container
    rw [Event.onMetadata_elsewhere (standing container) (described container), metadata?,
      containers]
    rfl
  · intro container name
    rw [Event.onBlob_elsewhere (clears container name) (write container name)
      (labelled container name), blob?, containers]
    rfl
  · exact service
  · intro container name given
    exact absurd (labelled container name) given

section Insert

variable {name : String} {held : Container}

theorem metadata?_insert (changed : next.containers = s.containers.insert name held)
    (container : String) : next.metadata? container =
      if container = name then some held.metadata else s.metadata? container := by
  rw [metadata?, changed, NameTable.get?_insert]
  split <;> rfl

theorem blob?_insert (changed : next.containers = s.containers.insert name held)
    (container key : String) : next.blob? container key =
      if container = name then held.blobs.get? key else s.blob? container key := by
  rw [blob?, changed, NameTable.get?_insert]
  split <;> rfl

theorem metadata?_insert_same (changed : next.containers = s.containers.insert name held)
    (same : s.metadata? name = some held.metadata) (container : String) :
    next.metadata? container = s.metadata? container := by
  rw [metadata?_insert changed]
  split
  · rename_i here
    rw [here, same]
  · rfl

theorem blob?_insert_same (changed : next.containers = s.containers.insert name held)
    (same : ∀ key, s.blob? name key = held.blobs.get? key) (container key : String) :
    next.blob? container key = s.blob? container key := by
  rw [blob?_insert changed]
  split
  · rename_i here
    rw [here, same]
  · rfl

end Insert

theorem metadata?_of_get? {name : String} {held : Container}
    (found : s.containers.get? name = some held) : s.metadata? name = some held.metadata := by
  rw [metadata?, found]
  rfl

theorem blob?_of_get? {name : String} {held : Container}
    (found : s.containers.get? name = some held) (key : String) :
    s.blob? name key = held.blobs.get? key := by
  rw [blob?, found]
  rfl

theorem moves_createContainer (name : String) :
    Moves s (s.createContainer name).2
      ⟨.createContainer name, .ok (.flag (s.createContainer name).1)⟩ := by
  cases there : s.containerExists name with
  | true =>
    rw [createContainer_of_exists there]
    apply Moves.quiet <;> intros <;> rfl
  | false =>
    have missing := get?_of_not_exists there
    rw [createContainer_of_not_exists there]
    constructor
    · intro container
      rw [metadata?_insert rfl]
      by_cases here : container = name
      · simp [Event.onMetadata, Event.standing?, here, Container.empty]
      · rw [if_neg here, Event.onMetadata_elsewhere]
        · exact if_neg (Ne.symm here)
        · rfl
    · intro container key
      rw [Event.onBlob_elsewhere rfl rfl rfl]
      apply blob?_insert_same rfl
      intro key
      rw [blob?, missing]
      rfl
    · rfl
    · intro container key given
      exact absurd rfl given

theorem moves_deleteContainer (name : String) :
    Moves s (s.deleteContainer name).2
      ⟨.deleteContainer name, .ok (.flag (s.deleteContainer name).1)⟩ := by
  have left (container : String) : (s.deleteContainer name).2.containers.get? container =
      if container = name then none else s.containers.get? container := NameTable.get?_erase _ _ _
  constructor
  · intro container
    rw [metadata?, left, deleteContainer]
    by_cases here : container = name
    · subst here
      rw [if_pos rfl]
      cases existed : s.containerExists container with
      | true => simp [Event.onMetadata, Event.standing?]
      | false =>
        -- The answer tells that nothing was deleted, so the event says nothing of the container.
        rw [Event.onMetadata_elsewhere rfl rfl, metadata?, get?_of_not_exists existed]
    · rw [if_neg here, Event.onMetadata_elsewhere _ rfl]
      · rfl
      · cases s.containerExists name with
        | true => exact if_neg (Ne.symm here)
        | false => rfl
  · intro container key
    rw [blob?, left]
    by_cases here : container = name
    · simp [Event.onBlob, Event.clears, here]
    · rw [if_neg here, Event.onBlob_elsewhere _ rfl rfl]
      · rfl
      · exact decide_eq_false (Ne.symm here)
  · rfl
  · intro container key given
    exact absurd rfl given

theorem moves_setContainerMetadata {name : String} {metadata : Metadata}
    (done : s.setContainerMetadata name metadata = .ok next) :
    Moves s next ⟨.setContainerMetadata name metadata, .ok .done⟩ := by
  obtain ⟨held, found, rfl⟩ := setContainerMetadata_eq_ok_iff.1 done
  have inside := blob?_of_get? found
  constructor
  · intro container
    rw [metadata?_insert rfl]
    by_cases here : container = name
    · simp [Event.onMetadata, Event.standing?, Event.described?, here, metadata?, found]
    · rw [if_neg here, Event.onMetadata_elsewhere]
      · rfl
      · exact if_neg (Ne.symm here)
  · intro container key
    rw [Event.onBlob_elsewhere rfl rfl rfl]
    apply blob?_insert_same rfl
    exact inside
  · rfl
  · intro container key given
    exact absurd rfl given

section Blobs

variable {container name : String} {held : Container}

/-- An event that speaks of one blob and of nothing else. -/
structure Event.Only (e : Event) (container name : String) : Prop where
  standing : ∀ c, e.standing? c = none
  described : ∀ c, e.described? c = none
  service : e.service? = none
  elsewhere : ∀ c n, ¬(container = c ∧ name = n) →
    e.clears c n = false ∧ e.write? c n = none ∧ e.labelled? c n = none

/-- The blobs of one container change at one name, and nothing else in the store. -/
theorem moves_at {e : Event} {blobs : NameTable Blob} {after : Option Blob}
    (only : e.Only container name) (found : s.containers.get? container = some held)
    (changed : next.containers = s.containers.insert container { held with blobs })
    (blobs_get? : ∀ key, blobs.get? key = if key = name then after else held.blobs.get? key)
    (service : next.service = s.service)
    (here : e.onBlob container name (held.blobs.get? name) = after)
    (written : e.labelled? container name ≠ none → e.write? container name = none →
      held.blobs.get? name ≠ none) : Moves s next e := by
  have described := metadata?_of_get? found
  have inside := blob?_of_get? found
  constructor
  · intro c
    rw [Event.onMetadata_elsewhere (only.standing c) (only.described c)]
    exact metadata?_insert_same changed described c
  · intro c n
    by_cases same : container = c ∧ name = n
    · obtain ⟨rfl, rfl⟩ := same
      rw [blob?_insert changed, if_pos rfl, blobs_get?, if_pos rfl, inside, here]
    · obtain ⟨kept, write, labelled⟩ := only.elsewhere c n same
      rw [blob?_insert changed, Event.onBlob_elsewhere kept write labelled]
      split
      · rename_i inner
        subst inner
        have apart : n ≠ name := fun equal => same ⟨rfl, equal.symm⟩
        rw [blobs_get?, if_neg apart, inside]
      · rfl
  · rw [service, only.service]
    rfl
  · intro c n given unwritten
    by_cases same : container = c ∧ name = n
    · obtain ⟨rfl, rfl⟩ := same
      rw [inside]
      exact written given unwritten
    · exact absurd (only.elsewhere c n same).2.2 given

theorem moves_put {content : List UInt8} {metadata : Option Metadata} {now : Timestamp}
    {blob : Blob} (done : s.put container name content metadata now = .ok (blob, next)) :
    Moves s next ⟨.put container name content metadata now, .ok (.blob blob)⟩ := by
  obtain ⟨_, held, found, rfl, rfl⟩ := put_eq_ok_iff.1 done
  apply moves_at _ found rfl
  · exact NameTable.get?_insert _ _ _
  · rfl
  · cases metadata <;>
      simp [Event.onBlob, Event.clears, Event.write?, Event.labelled?, Write.blob, written,
        Blob.tag]
  · intro _ unwritten
    simp [Event.write?] at unwritten
  · constructor
    · exact fun _ => rfl
    · exact fun _ => rfl
    · rfl
    · intro c n apart
      cases metadata <;> simp [Event.clears, Event.write?, Event.labelled?, apart]

theorem moves_delete {existed : Bool} (done : s.delete container name = .ok (existed, next)) :
    Moves s next ⟨.delete container name, .ok (.flag existed)⟩ := by
  obtain ⟨held, found, _, rfl⟩ := delete_eq_ok_iff.1 done
  apply moves_at _ found rfl
  · exact NameTable.get?_erase _ _
  · rfl
  · simp [Event.onBlob, Event.clears]
  · intro given
    exact absurd rfl given
  · constructor
    · exact fun _ => rfl
    · exact fun _ => rfl
    · rfl
    · exact fun c n apart => ⟨decide_eq_false apart, rfl, rfl⟩

/-- A deletion that is refused finds no container, so it may count as one of the blob as well. -/
theorem moves_delete_refused {error : Error} (refused : s.delete container name = .error error) :
    Moves s s ⟨.delete container name, .error error⟩ := by
  have missing : s.containers.get? container = none := by
    cases found : s.containers.get? container with
    | none => rfl
    | some held =>
      have done : s.delete container name = .ok _ := delete_eq_ok_iff.2 ⟨held, found, rfl, rfl⟩
      cases refused.symm.trans done
  constructor
  · intro c
    rw [Event.onMetadata_elsewhere rfl rfl]
  · intro c n
    by_cases same : container = c ∧ name = n
    · obtain ⟨rfl, rfl⟩ := same
      simp [Event.onBlob, Event.clears, blob?, missing]
    · rw [Event.onBlob_elsewhere _ rfl rfl]
      exact decide_eq_false same
  · rfl
  · intro _ _ given
    exact absurd rfl given

theorem moves_setMetadata {metadata : Metadata}
    (done : s.setMetadata container name metadata = .ok next) :
    Moves s next ⟨.setMetadata container name metadata, .ok .done⟩ := by
  obtain ⟨held, blob, found, there, rfl⟩ := setMetadata_eq_ok_iff.1 done
  apply moves_at _ found rfl
  · exact NameTable.get?_insert _ _ _
  · rfl
  · simp [Event.onBlob, Event.clears, Event.write?, Event.labelled?, there]
  · intro _ _
    simp [there]
  · constructor
    · exact fun _ => rfl
    · exact fun _ => rfl
    · rfl
    · exact fun c n apart => ⟨rfl, rfl, if_neg apart⟩

end Blobs

end Moves

def Operation.isRead : Operation → Bool
  | .createContainer _ | .deleteContainer _ | .setContainerMetadata _ _ | .put _ _ _ _ _
  | .delete _ _ | .setMetadata _ _ _ | .setService _ => false
  | _ => true

theorem step_of_isRead {s : Store} {operation : Operation} (read : operation.isRead = true) :
    (s.step operation).2 = s := by
  unfold step
  cases operation with
  | containerMetadata name => rw [apply]; cases s.containerMetadata name <;> rfl
  | get container name => rw [apply]; cases s.get container name <;> rfl
  | list query cursor => rw [apply]; cases s.list query cursor <;> rfl
  | pages query => rw [apply]; cases s.pages query <;> rfl
  | listAll query => rw [apply]; cases s.listAll query <;> rfl
  | containerExists _ | containerNames | service | blobCount _ | size | inspect => rfl
  | createContainer _ | deleteContainer _ | setContainerMetadata _ _ | put _ _ _ _ _ | delete _ _
  | setMetadata _ _ _ | setService _ => cases read

theorem moves_of_isRead {s : Store} {operation : Operation} (read : operation.isRead = true)
    (answer : Except Error Reply) : Moves s s ⟨operation, answer⟩ := by
  cases operation with
  | createContainer _ | deleteContainer _ | setContainerMetadata _ _ | put _ _ _ _ _ | delete _ _
  | setMetadata _ _ _ | setService _ => cases read
  | _ => apply Moves.quiet <;> intros <;> rfl

theorem moves_of_step (s : Store) (operation : Operation) :
    Moves s (s.step operation).2 ⟨operation, (s.step operation).1⟩ := by
  cases operation with
  | createContainer name => exact moves_createContainer name
  | deleteContainer name => exact moves_deleteContainer name
  | setContainerMetadata name metadata =>
    rw [step, apply]
    cases done : s.setContainerMetadata name metadata with
    | ok next => exact moves_setContainerMetadata done
    | error error => apply Moves.quiet <;> intros <;> rfl
  | put container name content metadata now =>
    rw [step, apply]
    cases done : s.put container name content metadata now with
    | ok written => exact moves_put done
    | error error => cases metadata <;> apply Moves.quiet <;> intros <;> rfl
  | delete container name =>
    rw [step, apply]
    cases done : s.delete container name with
    | ok left => exact moves_delete done
    | error error => exact moves_delete_refused done
  | setMetadata container name metadata =>
    rw [step, apply]
    cases done : s.setMetadata container name metadata with
    | ok next => exact moves_setMetadata done
    | error error => apply Moves.quiet <;> intros <;> rfl
  | setService properties => apply Moves.quiet <;> intros <;> rfl
  | _ =>
    rw [step_of_isRead rfl]
    exact moves_of_isRead rfl _

end BlobDispatch.Store
