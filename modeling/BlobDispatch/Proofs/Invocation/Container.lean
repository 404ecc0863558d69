import BlobDispatch.Proofs.FoldedMap.Equality
import BlobDispatch.Proofs.Invocation.Lookup
import BlobDispatch.Proofs.Trigger.Inputs

/-! The container that a pattern resolves to. All values are put into one text, which is cut at its
first separator only then. Captures have no separator in them, so where no metadata comes before the
first separator of the pattern, that one stays the first, whatever the metadata holds. -/

namespace BlobDispatch

theorem Trigger.free_of_bind {trigger : Trigger} {blob : Blob} {invocation : Invocation}
    (bound : trigger.bind blob = some invocation) {name value : String}
    (held : invocation.binding.get? name = some value) : '/' ∉ value.toList := by
  obtain ⟨data, found, rfl⟩ := Option.map_eq_some_iff.1 bound
  obtain ⟨spelling, inside, _⟩ := FoldedMap.exists_entry_of_get? held
  have declared : spelling ∈ trigger.template.names := by
    rw [← Template.keys_of_match? found]
    exact List.mem_map_of_mem inside
  have kept := ((Template.assigns_of_match? found).free spelling declared).2
  rwa [data.captured_of_mem inside] at kept

namespace Resolver

/-- A text is free of metadata when none of its placeholders is of the metadata form. -/
def Unmarked (text : String) : Prop :=
  ∀ tokens, Token.ofPattern text = .ok tokens →
    ∀ placeholder ∈ Token.placeholders tokens, placeholder.isMetadata = false

variable {r : Resolver} {binding values : Binding} {metadata : Metadata} {address : Address}
    {before after : String}

private theorem get?_of_capture (agree : ∀ placeholder ∈ r.placeholders,
      placeholder.value? binding metadata = values.get? placeholder.name)
    (given : ∀ placeholder ∈ r.placeholders, (values.get? placeholder.name).isSome = true)
    {placeholder : Placeholder} (inside : placeholder ∈ r.placeholders)
    (form : placeholder.isMetadata = false) :
    binding.get? placeholder.name = some (values.captured placeholder.name) := by
  obtain ⟨value, held⟩ := Option.isSome_iff_exists.1 (given placeholder inside)
  have same := (agree placeholder inside).trans held
  cases placeholder with
  | capture name =>
    rw [Binding.captured_of_get? held]
    exact same
  | metadata text => cases form

theorem resolve_eq_ok_iff_parts (agree : ∀ placeholder ∈ r.placeholders,
      placeholder.value? binding metadata = values.get? placeholder.name)
    (free : ∀ {name value : String}, binding.get? name = some value → '/' ∉ value.toList)
    (split : r.pattern = before ++ "/" ++ after) (first : '/' ∉ before.toList)
    (unmarked : Unmarked before) : r.resolve binding metadata = .ok address ↔
      (∀ placeholder ∈ r.placeholders, (values.get? placeholder.name).isSome = true) ∧
        address = ⟨BlobDispatch.substitute binding.captured before,
          BlobDispatch.substitute values.captured after⟩ ∧
        address.container ≠ "" ∧ address.name ≠ "" := by
  rw [resolve_eq_resolveNamed agree, resolveNamed_eq_ok_iff]
  apply and_congr_right
  intro given
  have reads := Token.ofPattern_eq_ok_iff.1 r.compiled
  have cut : r.pattern.toList = before.toList ++ '/' :: after.toList := by simp [split]
  obtain ⟨head, tail, front, back, asked, filled⟩ := reads.cut cut first
  -- The placeholders of the front are captures, which have the same value among all values.
  have captured : ∀ placeholder ∈ Token.placeholders head,
      binding.get? placeholder.name = some (values.captured placeholder.name) := by
    intro placeholder member
    have inside : placeholder ∈ r.placeholders := by
      rw [placeholders, asked]
      exact List.mem_append_left _ member
    have form := unmarked head (Token.ofPattern_eq_ok_iff.2 front) placeholder member
    exact get?_of_capture agree given inside form
  have clean : '/' ∉ head.flatMap (Token.fill values.captured) := by
    apply Token.fill_free fun placeholder member => free (captured placeholder member)
    rw [front.spell]
    exact first
  have heads : head.flatMap (Token.fill values.captured) =
      head.flatMap (Token.fill binding.captured) := by
    apply Token.fill_congr
    exact fun placeholder member => (Binding.captured_of_get? (captured placeholder member)).symm
  have written := Token.substitute_of_reads values.captured reads
  rw [String.ofList_toList, filled] at written
  rw [written, Address.parse_join_iff clean, heads, ← Token.substitute_of_reads _ front,
    ← Token.substitute_of_reads _ back, String.ofList_toList, String.ofList_toList]

end Resolver

namespace Invocation

variable {trigger : Trigger} {blob : Blob} {invocation : Invocation} {resolver : Resolver}
    {before after : String}

private theorem resolve_of_bind (bound : trigger.bind blob = some invocation)
    (split : resolver.pattern = before ++ "/" ++ after) (first : '/' ∉ before.toList)
    (unmarked : Resolver.Unmarked before) (address : Address) :
    invocation.resolve resolver = .ok address ↔
      (∀ placeholder ∈ resolver.placeholders,
        (invocation.values.get? placeholder.name).isSome = true) ∧
        address = ⟨substitute invocation.binding.captured before,
          substitute (Binding.captured invocation.values) after⟩ ∧
        address.container ≠ "" ∧ address.name ≠ "" := by
  rw [resolve, mapError_eq_ok_iff]
  apply Resolver.resolve_eq_ok_iff_parts _ (Trigger.free_of_bind bound) split first unmarked
  intro placeholder member
  exact value?_eq_get?_values (Trigger.identifiers_of_bind bound) (resolver.ofText?_of_mem member)

/-- A pattern without metadata before its first separator resolves to one address only: the text
before the separator with the captures in it is the container, and the text after it with all values
in it is the name. It fails only where a value is missing or one of the two is empty. No metadata
that the blob might have instead leads to another container, and an input is read from no other. -/
theorem container_eq_substitute_captures (trigger : Trigger) (blob : Blob)
    (invocation : Invocation) (bound : trigger.bind blob = some invocation) (resolver : Resolver)
    (before after : String) (split : resolver.pattern = before ++ "/" ++ after)
    (first : '/' ∉ before.toList) (unmarked : Resolver.Unmarked before) :
    (∀ address, invocation.resolve resolver = .ok address ↔
      (∀ placeholder ∈ resolver.placeholders,
        (invocation.values.get? placeholder.name).isSome = true) ∧
        address = ⟨substitute invocation.binding.captured before,
          substitute (Binding.captured invocation.values) after⟩ ∧
        address.container ≠ "" ∧ address.name ≠ "") ∧
      (∀ (metadata : Metadata) (changed : Invocation) (address other : Address),
        trigger.bind { blob with metadata } = some changed →
          invocation.resolve resolver = .ok address → changed.resolve resolver = .ok other →
            other.container = address.container) ∧
      ∀ (store : Store) (found : Blob), invocation.fetch store resolver = .ok found →
        store.get (substitute invocation.binding.captured before)
          (substitute (Binding.captured invocation.values) after) = .ok found := by
  refine ⟨resolve_of_bind bound split first unmarked, ?_, ?_⟩
  · intro metadata changed address other rebound resolved again
    have same : changed.binding = invocation.binding := by
      obtain ⟨data, captured, rfl⟩ := Option.map_eq_some_iff.1 bound
      obtain ⟨others, recaptured, rfl⟩ := Option.map_eq_some_iff.1 rebound
      exact Option.some.inj (recaptured.symm.trans captured)
    obtain ⟨_, rfl, _⟩ := (resolve_of_bind bound split first unmarked address).1 resolved
    obtain ⟨_, rfl, _⟩ := (resolve_of_bind rebound split first unmarked other).1 again
    rw [same]
  · intro store found fetched
    obtain ⟨address, resolved, got⟩ := fetch_eq_ok_iff.1 fetched
    obtain ⟨_, rfl, _⟩ := (resolve_of_bind bound split first unmarked address).1
      (mapError_eq_ok_iff.2 resolved)
    exact got

/-- Metadata with a separator in it, in place of metadata with none: the name is another one and the
container the same. -/
theorem container_eq_substitute_captures_separator :
    ∃ (trigger : Trigger) (blob : Blob) (invocation changed : Invocation) (resolver : Resolver),
      trigger.bind blob = some invocation ∧
        trigger.bind { blob with metadata := FoldedMap.ofList [("to", "/e/")] } = some changed ∧
        resolver.pattern = "d-\x7bn\x7d/\x7bmetadata.to\x7d" ∧
        invocation.resolve resolver = .ok ⟨"d-x", "e"⟩ ∧
        changed.resolve resolver = .ok ⟨"d-x", "/e/"⟩ ∧
        substitute invocation.binding.captured "d-\x7bn\x7d" = "d-x" := by
  obtain ⟨_, trigger, blob, invocation, _, _, bound, kept, carried, captured, _⟩ :=
    exists_bound (FoldedMap.ofList [("to", "e")])
  obtain ⟨changed, rebound, again, replaced⟩ : ∃ changed : Invocation,
      trigger.bind { blob with metadata := FoldedMap.ofList [("to", "/e/")] } = some changed ∧
        changed.binding = FoldedMap.ofList [("n", "x")] ∧
        changed.blob.metadata = FoldedMap.ofList [("to", "/e/")] := by
    obtain ⟨data, found, rfl⟩ := Option.map_eq_some_iff.1 bound
    exact ⟨_, Option.map_eq_some_iff.2 ⟨data, found, rfl⟩, captured, rfl⟩
  obtain ⟨resolver, written, tokens⟩ : ∃ resolver : Resolver,
      resolver.pattern = "d-\x7bn\x7d/\x7bmetadata.to\x7d" ∧ resolver.tokens =
        [.literal "d-", .parameter (.capture "n"), .literal "/",
          .parameter (.metadata "metadata.to")] :=
    ⟨⟨_, _, (rfl : Token.ofPattern _ = .ok _)⟩, rfl, rfl⟩
  have unmarked : Resolver.Unmarked "d-\x7bn\x7d" := by
    intro head read
    have front : Token.ofPattern "d-\x7bn\x7d" =
        .ok [.literal "d-", .parameter (.capture "n")] := rfl
    cases front.symm.trans read
    decide
  have resolved : invocation.resolve resolver = .ok ⟨"d-x", "e"⟩ := by
    rw [resolve, Resolver.resolve, tokens, captured, carried, kept]
    decide
  obtain ⟨parts, stays, _⟩ := container_eq_substitute_captures trigger blob invocation bound
    resolver "d-\x7bn\x7d" "\x7bmetadata.to\x7d" written (by decide) unmarked
  obtain ⟨container, moved⟩ : ∃ container, changed.resolve resolver = .ok ⟨container, "/e/"⟩ := by
    rw [resolve, Resolver.resolve, tokens, again, replaced]
    exact ⟨"d-x", by decide⟩
  have same : container = "d-x" := stays _ changed _ _ rebound resolved moved
  have front := congrArg Address.container ((parts _).1 resolved).2.1
  exact ⟨trigger, blob, invocation, changed, resolver, bound, rebound, written, resolved,
    same ▸ moved, front.symm⟩

end Invocation

end BlobDispatch
