import BlobDispatch.Proofs.Store.Effect

/-! The invariant of stores: every blob carries the container and the name that it is stored under,
the name is not empty, and the recorded length is that of the content. Every operation keeps it, so
every reachable store has it. -/

namespace BlobDispatch

/-- A blob agrees with the place that it is stored at. -/
structure Blob.IsAt (blob : Blob) (container name : String) : Prop where
  container_eq : blob.container = container
  name_eq : blob.name = name
  named : name ≠ ""
  length_eq : blob.properties.contentLength = UInt64.ofNat blob.content.length

namespace Store

/-- Every blob of a container's table agrees with its place. -/
def Placed (containerName : String) (blobs : NameTable Blob) : Prop :=
  ∀ name blob, blobs.get? name = some blob → blob.IsAt containerName name

def WellFormed (s : Store) : Prop :=
  ∀ containerName container, s.containers.get? containerName = some container →
    Placed containerName container.blobs

section Placed

variable {containerName : String} {blobs : NameTable Blob}

theorem placed_empty (containerName : String) : Placed containerName NameTable.empty := by
  intro _ _ found
  cases found

theorem placed_insert (placed : Placed containerName blobs) {name : String} {blob : Blob}
    (here : blob.IsAt containerName name) : Placed containerName (blobs.insert name blob) := by
  intro other stored found
  rw [NameTable.get?_insert] at found
  split at found
  · rename_i same
    cases found
    rwa [same]
  · exact placed other stored found

theorem placed_erase (placed : Placed containerName blobs) (name : String) :
    Placed containerName (blobs.erase name) := by
  intro other stored found
  rw [NameTable.get?_erase] at found
  split at found
  · cases found
  · exact placed other stored found

end Placed

private theorem wellFormed_insert {s next : Store} (wellFormed : s.WellFormed)
    {containerName : String} {container : Container}
    (changed : next.containers = s.containers.insert containerName container)
    (placed : Placed containerName container.blobs) : next.WellFormed := by
  intro otherName other found
  rw [changed, NameTable.get?_insert] at found
  split at found
  · rename_i same
    cases found
    rwa [same]
  · exact wellFormed otherName other found

theorem wellFormed_of_effect {s next : Store} (effect : Effect s next)
    (wellFormed : s.WellFormed) : next.WellFormed := by
  cases effect with
  | none => exact wellFormed
  | setService service => exact wellFormed
  | createContainer name =>
    cases there : s.containerExists name with
    | true => rwa [createContainer_of_exists there]
    | false =>
      rw [createContainer_of_not_exists there]
      exact wellFormed_insert wellFormed rfl (placed_empty name)
  | deleteContainer name =>
    intro otherName other found
    rw [deleteContainer, NameTable.get?_erase] at found
    split at found
    · cases found
    · exact wellFormed otherName other found
  | setContainerMetadata done =>
    obtain ⟨container, found, rfl⟩ := setContainerMetadata_eq_ok_iff.1 done
    exact wellFormed_insert wellFormed rfl (wellFormed _ container found)
  | put done =>
    obtain ⟨named, container, found, rfl, rfl⟩ := put_eq_ok_iff.1 done
    have placed := wellFormed _ container found
    exact wellFormed_insert wellFormed rfl (placed_insert placed ⟨rfl, rfl, named, rfl⟩)
  | delete done =>
    obtain ⟨container, found, rfl, rfl⟩ := delete_eq_ok_iff.1 done
    have placed := wellFormed _ container found
    exact wellFormed_insert wellFormed rfl (placed_erase placed _)
  | setMetadata done =>
    obtain ⟨container, blob, found, there, rfl⟩ := setMetadata_eq_ok_iff.1 done
    have placed := wellFormed _ container found
    obtain ⟨inside, same, named, long⟩ := placed _ blob there
    exact wellFormed_insert wellFormed rfl (placed_insert placed ⟨inside, same, named, long⟩)

theorem wellFormed_run {s : Store} (operations : List Operation) (wellFormed : s.WellFormed) :
    (s.run operations).2.WellFormed :=
  run_keeps WellFormed wellFormed_of_effect operations wellFormed

theorem Reachable.wellFormed {s : Store} (reachable : s.Reachable) : s.WellFormed := by
  obtain ⟨config, operations, rfl⟩ := reachable
  apply wellFormed_run
  intro _ _ found
  cases found

theorem config_of_effect {s next : Store} (effect : Effect s next) : next.config = s.config := by
  cases effect with
  | none | setService _ | deleteContainer _ => rfl
  | createContainer name => rw [createContainer_eq]
  | setContainerMetadata done =>
    obtain ⟨_, _, rfl⟩ := setContainerMetadata_eq_ok_iff.1 done
    rfl
  | put done =>
    obtain ⟨_, _, _, _, rfl⟩ := put_eq_ok_iff.1 done
    rfl
  | delete done =>
    obtain ⟨_, _, _, rfl⟩ := delete_eq_ok_iff.1 done
    rfl
  | setMetadata done =>
    obtain ⟨_, _, _, _, rfl⟩ := setMetadata_eq_ok_iff.1 done
    rfl

theorem config_run (s : Store) (operations : List Operation) :
    (s.run operations).2.config = s.config :=
  run_keeps (·.config = s.config) (fun effect same => (config_of_effect effect).trans same)
    operations rfl

end Store

end BlobDispatch
