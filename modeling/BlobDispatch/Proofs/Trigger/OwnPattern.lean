import BlobDispatch.Proofs.Template.Resolver
import BlobDispatch.Store.Operation
import BlobDispatch.Trigger.Basic

/-! The pattern of a trigger as the pattern of an input. For a blob that the trigger applies to, it
leads back to that blob. -/

namespace BlobDispatch

/-- A pattern resolved with what a match of it captured, under any metadata, gives the address that
was matched. An input with the pattern of its own trigger is therefore read from the address of the
blob that the trigger applies to, in whatever state the store is. -/
theorem own_pattern_resolves :
    (∀ (t : Template) (container object : String) (data : Binding) (metadata : Metadata),
      t.match? container object = some data →
        ∃ resolver, Resolver.compile t.pattern = .ok resolver ∧
          resolver.resolve data metadata = .ok ⟨container, object⟩) ∧
    ∀ (trigger : Trigger) (blob : Blob) (invocation : Invocation) (store : Store),
      trigger.bind blob = some invocation →
        invocation.resolveInput store trigger.template.pattern =
          (store.get blob.container blob.name).mapError .store := by
  constructor
  · intro t container object data metadata found
    exact Template.resolve_of_match? found metadata
  · intro trigger blob invocation store bound
    obtain ⟨data, found, rfl⟩ := Option.map_eq_some_iff.1 bound
    obtain ⟨resolver, compiled, resolved⟩ := Template.resolve_of_match? found blob.metadata
    simp [Invocation.resolveInput, Invocation.fetch, Invocation.resolve, compiled, resolved, bind,
      Except.bind]

/-- A trigger that is compiled, a blob that is stored, and the input that gives this blob. -/
theorem own_pattern_resolves_sample :
    ∃ (store : Store) (trigger : Trigger) (blob : Blob) (invocation : Invocation),
      Trigger.compile "t" Template.sample.pattern = .ok trigger ∧
        store.get "c" "x-y-z.txt" = .ok blob ∧ trigger.bind blob = some invocation ∧
        (∃ resolver, Resolver.compile trigger.template.pattern = .ok resolver ∧
          resolver.resolve invocation.binding FoldedMap.empty = .ok ⟨"c", "x-y-z.txt"⟩) ∧
        invocation.resolveInput store trigger.template.pattern = .ok blob := by
  obtain ⟨store, blob, stored, inside, named⟩ : ∃ (store : Store) (blob : Blob),
      store.get "c" "x-y-z.txt" = .ok blob ∧ blob.container = "c" ∧ blob.name = "x-y-z.txt" :=
    ⟨((Store.new {}).run [.createContainer "c", .put "c" "x-y-z.txt" [1] none .epoch]).2, _, rfl,
      rfl, rfl⟩
  obtain ⟨trigger, compiled, templated⟩ : ∃ trigger : Trigger,
      Trigger.compile "t" Template.sample.pattern = .ok trigger ∧
        trigger.template = Template.sample := ⟨_, rfl, rfl⟩
  obtain ⟨data, found⟩ : ∃ data, Template.sample.match? "c" "x-y-z.txt" = some data := ⟨_, rfl⟩
  rw [← templated] at found
  have bound : trigger.bind blob = some ⟨trigger.name, blob, data⟩ := by
    rw [Trigger.bind, inside, named, found]
    rfl
  have resolved := own_pattern_resolves.1 _ _ _ _ FoldedMap.empty found
  have input := own_pattern_resolves.2 _ _ _ store bound
  rw [inside, named, stored] at input
  exact ⟨store, trigger, blob, _, compiled, stored, bound, resolved, input⟩

end BlobDispatch
