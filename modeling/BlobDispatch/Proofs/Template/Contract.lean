import BlobDispatch.FoldedMap.Lemmas
import BlobDispatch.Template.Contract

/-! Contracts hold the names that they are made of, each once and in their order. Names that repeat
one before them, case aside, are refused, and the first of them is the one that is named. -/

namespace BlobDispatch.Contract

variable {contract result : Contract} {names : List String}

private theorem map_lower_keys (contract : Contract) :
    contract.keys.map Text.lower = contract.entries.map fun entry => Text.lower entry.1 :=
  List.map_map

private theorem entries_insert_fresh {name : String} (fresh : contract.contains name = false) :
    (contract.insert name .string).entries = contract.entries ++ [(name, .string)] :=
  FoldedMap.entries_insert_of_not_contains BindingType.string fresh

private theorem keys_insert_fresh {name : String} (fresh : contract.contains name = false) :
    (contract.insert name .string).keys = contract.keys ++ [name] := by
  rw [FoldedMap.keys, entries_insert_fresh fresh, List.map_append]
  rfl

private theorem contains_iff {name : String} :
    contract.contains name = true ↔ Text.lower name ∈ contract.keys.map Text.lower := by
  rw [FoldedMap.contains_eq_true_iff, map_lower_keys]

private theorem extend_eq_ok_iff : extend contract names = .ok result ↔
    ((contract.keys ++ names).map Text.lower).Nodup ∧
      result.entries = contract.entries ++ names.map fun name => (name, .string) := by
  induction names generalizing contract with
  | nil =>
    rw [extend, List.append_nil, map_lower_keys, and_iff_right contract.distinct, List.map_nil,
      List.append_nil, Except.ok.injEq]
    exact ⟨fun same => same ▸ rfl, fun same => FoldedMap.ext_entries same.symm⟩
  | cons name rest ih =>
    rw [extend]
    split
    · rename_i taken
      refine iff_of_false nofun ?_
      rintro ⟨distinct, _⟩
      rw [List.map_append, List.nodup_append] at distinct
      exact distinct.2.2 _ (contains_iff.1 taken) _ List.mem_cons_self rfl
    · rename_i free
      have fresh : contract.contains name = false := Bool.eq_false_iff.2 free
      rw [ih, keys_insert_fresh fresh, entries_insert_fresh fresh, List.append_assoc,
        List.append_assoc]
      rfl

/-- Names are refused for the first one that repeats a name of the contract or one before it. -/
private theorem extend_eq_error_iff {error : Template.Error} :
    extend contract names = .error error ↔ ∃ before name after, names = before ++ name :: after ∧
      ((contract.keys ++ before).map Text.lower).Nodup ∧
      Text.lower name ∈ (contract.keys ++ before).map Text.lower ∧
      error = .duplicateParameter name := by
  induction names generalizing contract with
  | nil =>
    refine iff_of_false nofun ?_
    rintro ⟨before, name, after, split, _⟩
    exact absurd split.symm (List.append_ne_nil_of_right_ne_nil _ (List.cons_ne_nil _ _))
  | cons name rest ih =>
    rw [extend]
    split
    · rename_i taken
      constructor
      · rintro ⟨⟩
        refine ⟨[], name, rest, rfl, ?_, ?_, rfl⟩
        · rw [List.append_nil, map_lower_keys]
          exact contract.distinct
        · rw [List.append_nil]
          exact contains_iff.1 taken
      · rintro ⟨before, other, after, split, distinct, _, rfl⟩
        cases before with
        | nil =>
          cases split
          rfl
        | cons first before =>
          cases split
          rw [List.map_append, List.nodup_append] at distinct
          exact absurd rfl (distinct.2.2 _ (contains_iff.1 taken) _ List.mem_cons_self)
    · rename_i free
      have inserted := keys_insert_fresh (Bool.eq_false_iff.2 free)
      rw [ih]
      constructor
      · rintro ⟨before, other, after, rfl, distinct, again, rfl⟩
        rw [inserted, List.append_assoc] at distinct again
        exact ⟨name :: before, other, after, rfl, distinct, again, rfl⟩
      · rintro ⟨before, other, after, split, distinct, again, rfl⟩
        cases before with
        | nil =>
          cases split
          rw [List.append_nil] at again
          exact absurd (contains_iff.2 again) free
        | cons first before =>
          cases split
          refine ⟨before, other, after, rfl, ?_, ?_, rfl⟩
          · rw [inserted, List.append_assoc]
            exact distinct
          · rw [inserted, List.append_assoc]
            exact again

theorem ofNames_eq_ok_iff : ofNames names = .ok result ↔
    (names.map Text.lower).Nodup ∧ result.entries = names.map fun name => (name, .string) :=
  extend_eq_ok_iff

theorem ofNames_eq_error_iff {error : Template.Error} : ofNames names = .error error ↔
    ∃ before name after, names = before ++ name :: after ∧ (before.map Text.lower).Nodup ∧
      Text.lower name ∈ before.map Text.lower ∧ error = .duplicateParameter name :=
  extend_eq_error_iff

theorem exists_ofNames_iff :
    (∃ contract, ofNames names = .ok contract) ↔ (names.map Text.lower).Nodup := by
  constructor
  · rintro ⟨contract, made⟩
    exact (ofNames_eq_ok_iff.1 made).1
  · intro distinct
    have folded : ((names.map fun name => (name, BindingType.string)).map fun entry =>
        Text.lower entry.1) = names.map Text.lower := List.map_map
    refine ⟨FoldedMap.ofList (names.map fun name => (name, .string)), ofNames_eq_ok_iff.2 ?_⟩
    exact ⟨distinct, FoldedMap.entries_ofList (folded ▸ distinct)⟩

theorem keys_of_ofNames (made : ofNames names = .ok contract) : contract.keys = names := by
  rw [FoldedMap.keys, (ofNames_eq_ok_iff.1 made).2, List.map_map]
  exact List.map_id names

end BlobDispatch.Contract
