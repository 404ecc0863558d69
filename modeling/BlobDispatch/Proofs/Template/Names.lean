import BlobDispatch.Proofs.Template.Compile
import BlobDispatch.Proofs.Template.Contract
import BlobDispatch.Proofs.Template.Match

/-! The names of a template. They are told apart when the pattern is compiled, when a contract is
made of them and when a match is filled, each time by their lower-case forms, so no contract of a
template is refused, no capture takes the place of another, and all three list the same names. -/

namespace BlobDispatch

namespace Template

theorem exists_contract (t : Template) : ∃ contract, t.contract = .ok contract :=
  Contract.exists_ofNames_iff.2 t.wellFormed.distinct

/-- The names stand in the pattern from left to right. -/
theorem exists_tokens (t : Template) : ∃ tokens, Token.ofPattern t.pattern = .ok tokens ∧
    t.names = (Token.placeholders tokens).map Placeholder.name := by
  obtain ⟨tokens, read, _, captures⟩ := Layout.tokens_of_ofPattern t.compiled
  refine ⟨tokens, read, ?_⟩
  rw [captures, List.map_map]
  exact (List.map_id _).symm

end Template

namespace Contract

private theorem nodup_lower_iff {names : List String} :
    (names.map Text.lower).Nodup ↔ names.Pairwise fun a b => Text.lower a ≠ Text.lower b :=
  List.pairwise_map

/-- Names make a contract just when no two of them are equal in lower case. It lists them as they
are given; otherwise the first name that repeats an earlier one is refused. For a pattern that
compiles they always do, and the contract, the template and every match of it list the names that
are written in the pattern, in the same order and the same casing. -/
theorem ofNames_succeeds_iff (names : List String) :
    ((∃ contract, ofNames names = .ok contract) ↔
      names.Pairwise fun a b => Text.lower a ≠ Text.lower b) ∧
    (∀ contract, ofNames names = .ok contract →
      contract.entries = names.map fun name => (name, .string)) ∧
    (∀ error, ofNames names = .error error ↔
      ∃ before name after, names = before ++ name :: after ∧
        (before.Pairwise fun a b => Text.lower a ≠ Text.lower b) ∧
        (∃ earlier ∈ before, Text.lower earlier = Text.lower name) ∧
        error = .duplicateParameter name) ∧
    ∀ pattern t, Template.compile pattern = .ok t →
      (∃ tokens, Token.ofPattern pattern = .ok tokens ∧
        t.names = (Token.placeholders tokens).map Placeholder.name) ∧
      (∃ contract, t.contract = .ok contract ∧ contract.keys = t.names) ∧
      ∀ container object data, t.match? container object = some data → data.keys = t.names := by
  refine ⟨?_, ?_, ?_, ?_⟩
  · rw [exists_ofNames_iff, nodup_lower_iff]
  · exact fun contract made => (ofNames_eq_ok_iff.1 made).2
  · intro error
    rw [ofNames_eq_error_iff]
    simp only [nodup_lower_iff, List.mem_map]
  · intro pattern t made
    obtain ⟨contract, agreed⟩ := t.exists_contract
    obtain rfl := Template.compile_eq_ok_iff.1 made
    refine ⟨t.exists_tokens, ⟨contract, agreed, keys_of_ofNames agreed⟩, ?_⟩
    exact fun container object data found => Template.keys_of_match? found

/-- Names of which the last but one repeats the first, and a pattern with names in several cases. -/
theorem ofNames_succeeds_iff_cases :
    ofNames ["Name", "ext", "NAME", "EXT"] = .error (.duplicateParameter "NAME") ∧
      ∃ t contract data, Template.compile "in-{Env}/{name}.{EXT}" = .ok t ∧
        t.match? "in-prod" "sales.csv" = some data ∧ t.contract = .ok contract ∧
        contract.keys = ["Env", "name", "EXT"] ∧ data.keys = ["Env", "name", "EXT"] ∧
        ∃ same, ofNames ["Env", "name", "EXT"] = .ok same ∧
          same.entries = [("Env", .string), ("name", .string), ("EXT", .string)] := by
  obtain ⟨_, _, refused, _⟩ := ofNames_succeeds_iff ["Name", "ext", "NAME", "EXT"]
  obtain ⟨succeeds, lists, _, agree⟩ := ofNames_succeeds_iff ["Env", "name", "EXT"]
  obtain ⟨t, data, compiled, names, matched⟩ : ∃ t data,
      Template.compile "in-{Env}/{name}.{EXT}" = .ok t ∧ t.names = ["Env", "name", "EXT"] ∧
        t.match? "in-prod" "sales.csv" = some data := ⟨_, _, rfl, rfl, rfl⟩
  obtain ⟨_, ⟨contract, agreed, keys⟩, captured⟩ := agree _ t compiled
  obtain ⟨same, made⟩ := succeeds.2 (by decide)
  refine ⟨(refused _).2 ⟨["Name", "ext"], "NAME", ["EXT"], rfl, by decide, ?_, rfl⟩, t, contract,
    data, compiled, matched, agreed, keys.trans names, (captured _ _ data matched).trans names,
    same, made, lists same made⟩
  exact ⟨"Name", List.mem_cons_self, by decide⟩

end Contract

end BlobDispatch
