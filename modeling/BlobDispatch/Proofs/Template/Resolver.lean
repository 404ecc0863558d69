import BlobDispatch.Proofs.Address
import BlobDispatch.Proofs.Template.Match
import BlobDispatch.Template.Resolver

/-! Resolving a pattern with what a match of the same pattern captured. The layout cuts the pattern
into components and the resolver reads it as one run of tokens that it cuts at the first separator
of the result; both give back the address that was matched. -/

namespace BlobDispatch

namespace Resolver

theorem compile_of_ofPattern {pattern : String} {tokens : List Token}
    (read : Token.ofPattern pattern = .ok tokens) :
    compile pattern = .ok ⟨pattern, tokens, read⟩ := by
  unfold compile
  split
  · rename_i others again
    cases read.symm.trans again
    rfl
  · rename_i refused
    cases read.symm.trans refused

/-- A resolver carries the proof that its pattern has its tokens, so the pattern compiles to it. -/
theorem compile_eq_ok_iff {pattern : String} {r : Resolver} :
    compile pattern = .ok r ↔ r.pattern = pattern := by
  constructor
  · intro made
    unfold compile at made
    split at made
    · cases made
      rfl
    · cases made
  · rintro rfl
    exact compile_of_ofPattern r.compiled

theorem substitute_eq_ok {binding : Binding} {metadata : Metadata} {value : String → String}
    {tokens : List Token}
    (resolved : ∀ placeholder ∈ Token.placeholders tokens,
      placeholder.value? binding metadata = some (value placeholder.name)) :
    substitute binding metadata tokens = .ok (tokens.flatMap (Token.fill value)) := by
  induction tokens with
  | nil => rfl
  | cons token rest ih =>
    cases token with
    | literal text =>
      rw [substitute, ih resolved]
      rfl
    | parameter placeholder =>
      rw [Token.placeholders_parameter] at resolved
      obtain ⟨first, later⟩ := List.forall_mem_cons.1 resolved
      rw [substitute, first, ih later]
      rfl

/-- Substitution fails for the first placeholder without a value, and for nothing else. -/
theorem substitute_eq_error_iff {binding : Binding} {metadata : Metadata} {tokens : List Token}
    {error : Template.Error} : substitute binding metadata tokens = .error error ↔
      ∃ placeholder, ((Token.placeholders tokens).find? fun placeholder =>
          (placeholder.value? binding metadata).isNone) = some placeholder ∧
        error = .unresolvedParameter placeholder.name := by
  induction tokens with
  | nil => simp [substitute, Token.placeholders]
  | cons token rest ih =>
    cases token with
    | literal text =>
      rw [substitute, map_eq_error_iff, ih]
      rfl
    | parameter placeholder =>
      rw [substitute, Token.placeholders_parameter, List.find?_cons]
      cases placeholder.value? binding metadata with
      | none => simp [eq_comm]
      | some value =>
        rw [map_eq_error_iff, ih]
        rfl

section Outcome

variable {r : Resolver} {binding : Binding} {metadata : Metadata}

theorem resolve_of_substituted {text : List Char}
    (substituted : substitute binding metadata r.tokens = .ok text) :
    r.resolve binding metadata =
      (Address.parse (String.ofList text)).mapError .invalidAddress := by
  rw [resolve, substituted]
  cases read : Address.parse (String.ofList text) <;> simp [read]

theorem resolve_of_unsubstituted {error : Template.Error}
    (failed : substitute binding metadata r.tokens = .error error) :
    r.resolve binding metadata = .error error := by
  rw [resolve, failed]

theorem resolve_eq_ok_iff {address : Address} : r.resolve binding metadata = .ok address ↔
    ∃ text, substitute binding metadata r.tokens = .ok text ∧
      Address.parse (String.ofList text) = .ok address := by
  cases substituted : substitute binding metadata r.tokens with
  | error error => simp [resolve_of_unsubstituted substituted]
  | ok text => simp [resolve_of_substituted substituted, mapError_eq_ok_iff]

end Outcome

theorem resolve_eq_unresolved_iff {r : Resolver} {binding : Binding} {metadata : Metadata}
    {parameter : String} : r.resolve binding metadata = .error (.unresolvedParameter parameter) ↔
      ∃ placeholder, (r.placeholders.find? fun placeholder =>
          (placeholder.value? binding metadata).isNone) = some placeholder ∧
        placeholder.name = parameter := by
  have failed : r.resolve binding metadata = .error (.unresolvedParameter parameter) ↔
      substitute binding metadata r.tokens = .error (.unresolvedParameter parameter) := by
    cases substituted : substitute binding metadata r.tokens with
    | error error => simp [resolve_of_unsubstituted substituted]
    | ok text => simp [resolve_of_substituted substituted, mapError_eq_error_iff]
  rw [failed, substitute_eq_error_iff, placeholders]
  simp only [Template.Error.unresolvedParameter.injEq, eq_comm (a := parameter)]

theorem resolve_eq_ok {r : Resolver} {binding : Binding} {metadata : Metadata} {text : List Char}
    {address : Address} (substituted : substitute binding metadata r.tokens = .ok text)
    (valid : address.Valid) (written : address.text.toList = text) :
    r.resolve binding metadata = .ok address := by
  have read : Address.parse (String.ofList text) = .ok address := by
    rw [Address.parse_eq_ok_iff, ← written, String.ofList_toList]
    exact ⟨valid, rfl⟩
  exact resolve_eq_ok_iff.2 ⟨text, substituted, read⟩

end Resolver

namespace Template

variable {t : Template} {container object : String} {data : Binding}

/-- The address, as written, is what the tokens of the pattern become under values that make it. -/
theorem Assigns.text_eq {value : String → String} (assigns : t.Assigns value container object)
    {tokens : List Token} (cut : Layout.components tokens = t.layout.parts) :
    (Address.mk container object).text.toList = tokens.flatMap (Token.fill value) := by
  have filled := (assigns_iff.1 assigns).2
  calc (Address.mk container object).text.toList
      = ['/'].intercalate (container.toList :: Text.segments '/' object.toList) := by
        rw [List.intercalate_cons_of_ne_nil (Text.segments_ne_nil _ _),
          Text.intercalate_segments]
        simp [Address.text]
    _ = tokens.flatMap (Token.fill value) := by
        rw [← filled, ← cut, Layout.intercalate_components]

/-- The resolver with the pattern of a template gives the address that values make, under any
metadata and from every binding that holds them. -/
theorem exists_resolver (t : Template) : ∃ resolver, Resolver.compile t.pattern = .ok resolver ∧
    ∀ {value : String → String} {container object : String}, t.Assigns value container object →
      ∀ {data : Binding}, (∀ name ∈ t.names, data.get? name = some (value name)) →
        ∀ metadata, resolver.resolve data metadata = .ok ⟨container, object⟩ := by
  obtain ⟨tokens, read, cut, captures⟩ := Layout.tokens_of_ofPattern t.compiled
  refine ⟨⟨t.pattern, tokens, read⟩, Resolver.compile_of_ofPattern read, ?_⟩
  intro value container object assigns data held metadata
  have resolved : ∀ placeholder ∈ Token.placeholders tokens,
      placeholder.value? data metadata = some (value placeholder.name) := by
    intro placeholder member
    rw [captures] at member
    obtain ⟨name, declared, rfl⟩ := List.mem_map.1 member
    exact held name declared
  exact Resolver.resolve_eq_ok (Resolver.substitute_eq_ok resolved) assigns.valid
    (assigns.text_eq cut)

/-- What a match captured resolves the pattern to the address that was matched. -/
theorem resolve_of_match? (found : t.match? container object = some data) (metadata : Metadata) :
    ∃ resolver, Resolver.compile t.pattern = .ok resolver ∧
      resolver.resolve data metadata = .ok ⟨container, object⟩ := by
  obtain ⟨resolver, compiled, resolves⟩ := exists_resolver t
  refine ⟨resolver, compiled, resolves (assigns_of_match? found) ?_ metadata⟩
  intro name declared
  apply Binding.get?_of_mem_keys
  rwa [keys_of_match? found]

end Template

end BlobDispatch
