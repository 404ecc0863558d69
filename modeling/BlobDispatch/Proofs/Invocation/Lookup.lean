import BlobDispatch.Proofs.Invocation.Values
import BlobDispatch.Proofs.Template.Resolver

/-! The two ways to a named value. A resolver takes a capture from the captures and a metadata
placeholder, without its marker, from the metadata of the blob; a handler looks the name as it is
written up among all values. Placeholders have ASCII names, which are lowered letter by letter, so
both find the same. Metadata keys that the marker lowers otherwise than alone have a sigma in them,
before as after, and belong to no placeholder. -/

namespace BlobDispatch

namespace Placeholder

/-- The sigma that a key opens with is lowered to one letter or another, and an ASCII key has
neither. -/
private theorem lowerFrom_ne_of_opens {key other : String}
    (ascii : ∀ c ∈ key.toList, c.toNat < 128)
    (opened : Text.opensWithFinalSigma other.toList = true) (before : List Char) :
    Text.lowerFrom before other.toList ≠ (Text.lower key).toList := by
  intro same
  have small := Text.ascii_lower ascii
  rcases Text.sigma_mem_lowerFrom (Text.sigma_mem_of_opens opened) before with final | inner
  · exact absurd (small _ (same ▸ final)) (by decide)
  · exact absurd (small _ (same ▸ inner)) (by decide)

/-- The marker leaves a key alike to an ASCII key or apart from it. -/
theorem lower_marker_eq_iff {key : String} (ascii : ∀ c ∈ key.toList, c.toNat < 128)
    (other : String) : Text.lower (marker ++ other) = Text.lower (marker ++ key) ↔
      Text.lower other = Text.lower key := by
  have unopened : Text.opensWithFinalSigma key.toList = false := by
    rw [← Bool.not_eq_true]
    intro opened
    exact absurd (ascii _ (Text.sigma_mem_of_opens opened)) (by decide)
  rw [lower_marker unopened]
  cases opened : Text.opensWithFinalSigma other.toList with
  | false => rw [lower_marker opened, String.append_right_inj]
  | true =>
    refine iff_of_false ?_ ?_
    · intro same
      have lists := congrArg String.toList same
      rw [toList_lower_marker, String.toList_append] at lists
      exact lowerFrom_ne_of_opens ascii opened _ (List.append_cancel_left lists)
    · intro same
      apply lowerFrom_ne_of_opens ascii opened []
      rw [← same, Text.lower, String.toList_ofList]

theorem lower_marked {mark key : List Char} (same : mark.map Char.toLower = marker.toList)
    (ascii : ∀ c ∈ key, c.toNat < 128) :
    Text.lower (String.ofList (mark ++ key)) = Text.lower (marker ++ String.ofList key) := by
  have kept : marker.toList.map Char.toLower = marker.toList := by decide
  apply Text.lower_eq_of_sameAsciiFold
  · rw [String.toList_ofList]
    exact List.forall_mem_append.2 ⟨ascii_of_mark same, ascii⟩
  · rw [String.toList_append, String.toList_ofList]
    exact List.forall_mem_append.2 ⟨ascii_marker, ascii⟩
  · simp [Text.sameAsciiFold, same, kept]

end Placeholder

namespace Resolver

theorem ofText?_of_mem (r : Resolver) {placeholder : Placeholder}
    (member : placeholder ∈ r.placeholders) :
    Placeholder.ofText? placeholder.name.toList = .ok placeholder :=
  (Token.ofPattern_eq_ok_iff.1 r.compiled).ofText? placeholder member

/-- The address that the pattern gives when every placeholder takes the value under its name, as it
is written between the braces. The first name without a value stops it. -/
def resolveNamed (r : Resolver) (values : Binding) : Except Template.Error Address :=
  match r.placeholders.find? fun placeholder => (values.get? placeholder.name).isNone with
  | some placeholder => .error (.unresolvedParameter placeholder.name)
  | none =>
    (Address.parse (BlobDispatch.substitute values.captured r.pattern)).mapError .invalidAddress

theorem resolveNamed_eq_ok_iff {r : Resolver} {values : Binding} {address : Address} :
    r.resolveNamed values = .ok address ↔
      (∀ placeholder ∈ r.placeholders, (values.get? placeholder.name).isSome = true) ∧
        Address.parse (BlobDispatch.substitute values.captured r.pattern) = .ok address := by
  unfold resolveNamed
  split
  · rename_i placeholder found
    refine iff_of_false nofun ?_
    intro given
    have lacking := List.find?_some found
    have there := given.1 placeholder (List.mem_of_find?_eq_some found)
    rw [Option.isNone_iff_eq_none.1 lacking] at there
    cases there
  · rename_i found
    have given : ∀ placeholder ∈ r.placeholders, (values.get? placeholder.name).isSome = true := by
      intro placeholder member
      simpa [Option.isSome_iff_ne_none] using List.find?_eq_none.1 found placeholder member
    rw [mapError_eq_ok_iff, and_iff_right given]

theorem resolve_eq_resolveNamed {r : Resolver} {binding : Binding} {metadata : Metadata}
    {values : Binding} (agree : ∀ placeholder ∈ r.placeholders,
      placeholder.value? binding metadata = values.get? placeholder.name) :
    r.resolve binding metadata = r.resolveNamed values := by
  have lacking : (r.placeholders.find? fun placeholder =>
      (placeholder.value? binding metadata).isNone) =
        r.placeholders.find? fun placeholder => (values.get? placeholder.name).isNone :=
    List.find?_congr fun placeholder member => congrArg Option.isNone (agree placeholder member)
  unfold resolveNamed
  cases found : r.placeholders.find? fun placeholder => (values.get? placeholder.name).isNone with
  | some placeholder => exact resolve_eq_unresolved_iff.2 ⟨placeholder, lacking.trans found, rfl⟩
  | none =>
    have given : ∀ placeholder ∈ Token.placeholders r.tokens,
        placeholder.value? binding metadata = some (values.captured placeholder.name) := by
      intro placeholder member
      have there := List.find?_eq_none.1 found placeholder member
      obtain ⟨value, held⟩ := Option.ne_none_iff_exists'.1 (by simpa using there)
      rw [agree placeholder member, held, Binding.captured_of_get? held]
    have written := Token.substitute_of_reads values.captured
      (Token.ofPattern_eq_ok_iff.1 r.compiled)
    rw [String.ofList_toList] at written
    rw [resolve_of_substituted (substitute_eq_ok given), written]

end Resolver

namespace Invocation

variable {i : Invocation}

theorem lastMarked?_of_ascii (i : Invocation) {key : String}
    (ascii : ∀ c ∈ key.toList, c.toNat < 128) : i.lastMarked? key = i.blob.metadata.get? key := by
  rw [lastMarked?, FoldedMap.get?_eq_find?_reverse]
  apply congrArg (Option.map _)
  apply List.find?_congr
  intro entry _
  rw [Bool.eq_iff_iff, beq_iff_eq, beq_iff_eq, Placeholder.lower_marker_eq_iff ascii]

theorem value?_eq_get?_values
    (identifiers : ∀ name ∈ i.binding.keys, Placeholder.IsIdentifier name.toList)
    {placeholder : Placeholder}
    (named : Placeholder.ofText? placeholder.name.toList = .ok placeholder) :
    placeholder.value? i.binding i.blob.metadata = i.values.get? placeholder.name := by
  cases placeholder with
  | capture name =>
    exact (i.get?_values_of_isIdentifier (Placeholder.isIdentifier_of_ofText? named)).symm
  | metadata text =>
    obtain ⟨_, _, form⟩ := Placeholder.ofText?_eq_ok_iff.1 named
    obtain ⟨mark, key, split, same, identifier⟩ := form.1 rfl
    have written : text = String.ofList (mark ++ key) := by
      rw [← split, Placeholder.name, String.ofList_toList]
    have ascii : ∀ c ∈ (String.ofList key).toList, c.toNat < 128 := by
      rw [String.toList_ofList]
      exact identifier.ascii
    rw [Placeholder.value?, written, Placeholder.key_of_mark same, Placeholder.name,
      FoldedMap.get?_congr (Placeholder.lower_marked same identifier.ascii),
      get?_values_marker identifiers, i.lastMarked?_of_ascii ascii]

end Invocation

theorem Trigger.identifiers_of_bind {trigger : Trigger} {blob : Blob} {invocation : Invocation}
    (bound : trigger.bind blob = some invocation) :
    ∀ name ∈ invocation.binding.keys, Placeholder.IsIdentifier name.toList := by
  obtain ⟨data, found, rfl⟩ := Option.map_eq_some_iff.1 bound
  rw [Template.keys_of_match? found]
  exact fun name member => trigger.template.isIdentifier_of_mem_names member

namespace Invocation

/-- For a blob that a trigger applies to, whatever the keys of its metadata are: the value that a
resolver puts in for a placeholder is the one that a handler finds under the placeholder's name, and
there is none for the one where there is none for the other. Resolving a pattern is therefore
filling it from these values, and the ASCII case in which a placeholder is written does not matter. -/
theorem resolve_eq_resolveNamed_values (trigger : Trigger) (blob : Blob) (invocation : Invocation)
    (bound : trigger.bind blob = some invocation) (resolver : Resolver) :
    (∀ placeholder ∈ resolver.placeholders,
      placeholder.value? invocation.binding blob.metadata =
        invocation.values.get? placeholder.name) ∧
      invocation.resolve resolver =
        (resolver.resolveNamed invocation.values).mapError .template ∧
      ∀ other : Resolver, ∀ first ∈ resolver.placeholders, ∀ second ∈ other.placeholders,
        Text.sameAsciiFold first.name second.name = true →
          first.value? invocation.binding blob.metadata =
            second.value? invocation.binding blob.metadata := by
  have identifiers := Trigger.identifiers_of_bind bound
  have carried : invocation.blob = blob := by
    obtain ⟨_, _, rfl⟩ := Option.map_eq_some_iff.1 bound
    rfl
  subst carried
  have agree (r : Resolver) : ∀ placeholder ∈ r.placeholders,
      placeholder.value? invocation.binding invocation.blob.metadata =
        invocation.values.get? placeholder.name :=
    fun placeholder member => value?_eq_get?_values identifiers (r.ofText?_of_mem member)
  have ascii (r : Resolver) : ∀ placeholder ∈ r.placeholders,
      ∀ c ∈ placeholder.name.toList, c.toNat < 128 :=
    fun placeholder member =>
      (Placeholder.exists_ofText?_iff.1 ⟨_, r.ofText?_of_mem member⟩).ascii
  refine ⟨agree resolver, ?_, ?_⟩
  · rw [resolve, Resolver.resolve_eq_resolveNamed (agree resolver)]
  · intro other first asked second again same
    have alike := Text.lower_eq_of_sameAsciiFold (ascii resolver first asked)
      (ascii other second again) same
    rw [agree resolver first asked, agree other second again, FoldedMap.get?_congr alike]

/-- Two keys of the metadata are one after the marker, and a third one is asked for in another
case. The name that nothing is under is missing both ways. -/
theorem resolve_eq_resolveNamed_values_sample :
    ∃ (trigger : Trigger) (blob : Blob) (invocation : Invocation) (given lacking : Resolver),
      trigger.bind blob = some invocation ∧
        blob.metadata.entries = [("\u03a3", "1"), ("\u03c2", "2"), ("Owner", "o")] ∧
        given.pattern = "d/\x7bN\x7d-\x7bMETADATA.owner\x7d" ∧
        given.resolveNamed invocation.values = .ok ⟨"d", "x-o"⟩ ∧
        lacking.pattern = "d/\x7bMetadata.Kind\x7d" ∧
        lacking.resolveNamed invocation.values = .error (.unresolvedParameter "Metadata.Kind") ∧
        invocation.values.get? "METADATA.owner" = some "o" ∧
        invocation.values.get? "Metadata.Kind" = none := by
  obtain ⟨_, trigger, blob, invocation, _, _, bound, kept, carried, captured, _⟩ :=
    exists_bound (FoldedMap.ofList [("\u03a3", "1"), ("\u03c2", "2"), ("Owner", "o")])
  obtain ⟨given, written, fills⟩ : ∃ given : Resolver,
      given.pattern = "d/\x7bN\x7d-\x7bMETADATA.owner\x7d" ∧ given.tokens =
        [.literal "d/", .parameter (.capture "N"), .literal "-",
          .parameter (.metadata "METADATA.owner")] :=
    ⟨⟨_, _, (rfl : Token.ofPattern _ = .ok _)⟩, rfl, rfl⟩
  obtain ⟨lacking, again, asks⟩ : ∃ lacking : Resolver,
      lacking.pattern = "d/\x7bMetadata.Kind\x7d" ∧
        lacking.tokens = [.literal "d/", .parameter (.metadata "Metadata.Kind")] :=
    ⟨⟨_, _, (rfl : Token.ofPattern _ = .ok _)⟩, rfl, rfl⟩
  obtain ⟨found, filled, _⟩ := resolve_eq_resolveNamed_values trigger blob invocation bound given
  obtain ⟨missing, refused, _⟩ :=
    resolve_eq_resolveNamed_values trigger blob invocation bound lacking
  rw [Resolver.placeholders, fills, captured, kept] at found
  rw [Resolver.placeholders, asks, captured, kept] at missing
  rw [resolve, Resolver.resolve, fills, captured, carried, kept] at filled
  rw [resolve, Resolver.resolve, asks, captured, carried, kept] at refused
  refine ⟨trigger, blob, invocation, given, lacking, bound, ?_, written, ?_, again, ?_, ?_, ?_⟩
  · rw [kept]
    decide
  · exact mapError_eq_ok_iff.1 filled.symm
  · obtain ⟨error, there, same⟩ := mapError_eq_error_iff.1 refused.symm
    cases same
    exact there
  · exact (found (.metadata "METADATA.owner") (by decide)).symm
  · exact (missing (.metadata "Metadata.Kind") (by decide)).symm

end Invocation

end BlobDispatch
