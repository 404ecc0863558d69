import BlobDispatch.Proofs.FoldedMap
import BlobDispatch.Template.Resolver

/-! Equality of folded maps. The test goes through the entries of one map only and compares sizes.
As keys fold apart in both maps, that leaves no entry of the other out, so maps are equal just when
every lookup gives equal values in both. Resolving a pattern reads nothing else of a map. -/

namespace BlobDispatch

universe u

namespace FoldedMap

variable {fold : String → String} {α : Type u}

def foldedKeys (m : FoldedMap fold α) : List String := m.entries.map fun entry => fold entry.1

theorem mem_foldedKeys_iff {m : FoldedMap fold α} {k : String} :
    k ∈ m.foldedKeys ↔ ∃ entry ∈ m.entries, fold entry.1 = k := List.mem_map

theorem isSome_get?_iff {m : FoldedMap fold α} {key : String} :
    (m.get? key).isSome = true ↔ fold key ∈ m.foldedKeys := by
  rw [← contains_eq_isSome_get?, contains_eq_true_iff, foldedKeys]

theorem exists_entry_of_get? {m : FoldedMap fold α} {key : String} {value : α}
    (found : m.get? key = some value) :
    ∃ spelling, (spelling, value) ∈ m.entries ∧ fold spelling = fold key := by
  obtain ⟨⟨spelling, _⟩, stored, rfl⟩ := Option.map_eq_some_iff.1 found
  have alike := fold_of_stored? stored
  rw [stored?_eq_find?] at stored
  exact ⟨spelling, List.mem_of_find?_eq_some stored, alike⟩

theorem foldedKeys_subset {m n : FoldedMap fold α}
    (found : ∀ entry ∈ m.entries, (n.get? entry.1).isSome = true) :
    m.foldedKeys ⊆ n.foldedKeys := by
  intro k member
  obtain ⟨entry, there, rfl⟩ := mem_foldedKeys_iff.1 member
  exact isSome_get?_iff.1 (found entry there)

theorem size_le_of_subset {m n : FoldedMap fold α} (inside : m.foldedKeys ⊆ n.foldedKeys) :
    m.size ≤ n.size := by
  have fewer : m.foldedKeys.length ≤ n.foldedKeys.length :=
    (List.Nodup.subperm m.distinct inside).length_le
  rwa [foldedKeys, foldedKeys, List.length_map, List.length_map] at fewer

/-- As many keys that fold apart as there are leave none over. -/
theorem subset_of_size {m n : FoldedMap fold α} (inside : m.foldedKeys ⊆ n.foldedKeys)
    (level : n.size ≤ m.size) : n.foldedKeys ⊆ m.foldedKeys := by
  have long : n.foldedKeys.length ≤ m.foldedKeys.length := by
    rwa [foldedKeys, foldedKeys, List.length_map, List.length_map]
  exact ((List.Nodup.subperm m.distinct inside).perm_of_length_le long).symm.subset

section Test

variable [BEq α] {m n : FoldedMap fold α}

theorem beq_eq_true_iff : (m == n) = true ↔ m.size = n.size ∧
    ∀ entry ∈ m.entries, (n.get? entry.1 == some entry.2) = true := by
  change (m.size == n.size && m.entries.all fun entry => n.get? entry.1 == some entry.2) = true ↔ _
  rw [Bool.and_eq_true, beq_iff_eq, List.all_eq_true]

private theorem isSome_of_beq {first second : Option α} (same : (first == second) = true) :
    first.isSome = second.isSome := by
  cases first with
  | none =>
    cases second with
    | none => rfl
    | some value => cases same
  | some value =>
    cases second with
    | none => cases same
    | some other => rfl

/-- Values are compared by their own test, whatever laws that has. -/
theorem beq_iff_get?_beq : (m == n) = true ↔ ∀ key, (n.get? key == m.get? key) = true := by
  rw [beq_eq_true_iff]
  constructor
  · rintro ⟨sizes, agree⟩ key
    have inside : m.foldedKeys ⊆ n.foldedKeys :=
      foldedKeys_subset fun entry there => isSome_of_beq (agree entry there)
    cases looked : m.get? key with
    | none =>
      have absent : n.get? key = none := by
        rw [← Option.not_isSome_iff_eq_none, isSome_get?_iff]
        intro member
        have found := isSome_get?_iff.2 (subset_of_size inside (Nat.le_of_eq sizes.symm) member)
        rw [looked] at found
        cases found
      rw [absent]
      rfl
    | some value =>
      obtain ⟨spelling, there, alike⟩ := exists_entry_of_get? looked
      rw [← get?_congr alike]
      exact agree _ there
  · intro agree
    have present (key : String) : (n.get? key).isSome = (m.get? key).isSome :=
      isSome_of_beq (agree key)
    constructor
    · apply Nat.le_antisymm
      · refine size_le_of_subset (foldedKeys_subset fun entry there => ?_)
        rw [present, get?_of_mem there]
        rfl
      · refine size_le_of_subset (foldedKeys_subset fun entry there => ?_)
        rw [← present, get?_of_mem there]
        rfl
    · intro entry there
      rw [← get?_of_mem there]
      exact agree entry.1

theorem beq_iff_get? [LawfulBEq α] : (m == n) = true ↔ ∀ key, m.get? key = n.get? key := by
  rw [beq_iff_get?_beq]
  apply forall_congr'
  intro key
  rw [beq_iff_eq, eq_comm]

private theorem option_beq_symm [EquivBEq α] {first second : Option α}
    (same : (first == second) = true) : (second == first) = true := by
  cases first with
  | none =>
    cases second with
    | none => rfl
    | some value => cases same
  | some value =>
    cases second with
    | none => cases same
    | some other => exact BEq.symm (α := α) same

private theorem option_beq_trans [EquivBEq α] {first second third : Option α}
    (left : (first == second) = true) (right : (second == third) = true) :
    (first == third) = true := by
  cases second with
  | none =>
    cases first with
    | none => exact right
    | some value => cases left
  | some value =>
    cases first with
    | none => cases left
    | some one =>
      cases third with
      | none => cases right
      | some other => exact BEq.trans (α := α) left right

theorem beq_equivalence [EquivBEq α] :
    Equivalence fun m n : FoldedMap fold α => (m == n) = true where
  refl m := beq_iff_get?_beq.2 fun key => BEq.refl (m.get? key)
  symm same := beq_iff_get?_beq.2 fun key => option_beq_symm (beq_iff_get?_beq.1 same key)
  trans left right := beq_iff_get?_beq.2 fun key =>
    option_beq_trans (beq_iff_get?_beq.1 right key) (beq_iff_get?_beq.1 left key)

end Test

/-- The entries without their order of insertion in mind, and without the spelling of their keys. -/
def folded (m : FoldedMap fold α) : List (String × α) :=
  m.entries.map fun entry => (fold entry.1, entry.2)

theorem nodup_folded (m : FoldedMap fold α) : m.folded.Nodup := by
  apply List.Nodup.of_map Prod.fst
  rw [folded, List.map_map]
  exact m.distinct

theorem get?_eq_some_iff {m : FoldedMap fold α} {key : String} {value : α} :
    m.get? key = some value ↔ (fold key, value) ∈ m.folded := by
  constructor
  · intro found
    obtain ⟨spelling, there, alike⟩ := exists_entry_of_get? found
    exact List.mem_map.2 ⟨_, there, by rw [alike]⟩
  · intro member
    obtain ⟨⟨spelling, _⟩, there, same⟩ := List.mem_map.1 member
    obtain ⟨alike, rfl⟩ := Prod.mk.inj same
    rw [← get?_congr alike]
    exact get?_of_mem there

theorem folded_subset {m n : FoldedMap fold α} (agree : ∀ key, m.get? key = n.get? key) :
    m.folded ⊆ n.folded := by
  intro pair member
  obtain ⟨entry, there, rfl⟩ := List.mem_map.1 member
  exact get?_eq_some_iff.1 ((agree entry.1).symm.trans (get?_of_mem there))

/-- Lookups agree when the entries are the same but for order and spelling. -/
theorem perm_folded_iff {m n : FoldedMap fold α} :
    m.folded.Perm n.folded ↔ ∀ key, m.get? key = n.get? key := by
  constructor
  · intro perm key
    apply Option.ext
    intro value
    rw [get?_eq_some_iff, get?_eq_some_iff, perm.mem_iff]
  · intro agree
    rw [List.perm_ext_iff_of_nodup m.nodup_folded n.nodup_folded]
    exact fun pair => ⟨fun member => folded_subset agree member,
      fun member => folded_subset (fun key => (agree key).symm) member⟩

/-- Maps that are filled with the same values under keys that fold alike are equal, whatever keys
are met again on the way. -/
theorem beq_ofList [BEq α] [LawfulBEq α] {pairs others : List (String × α)}
    (same : pairs.map (Prod.map fold id) = others.map (Prod.map fold id)) :
    ((ofList pairs : FoldedMap fold α) == ofList others) = true := by
  have searched (pairs : List (String × α)) (key : String) :
      (ofList pairs : FoldedMap fold α).get? key =
        ((pairs.map (Prod.map fold id)).reverse.find? fun pair => pair.1 == fold key).map
          (·.2) := by
    rw [ofList, get?_foldl_insert, get?_empty, Option.or_none, ← List.map_reverse, List.find?_map,
      Option.map_map]
    rfl
  rw [beq_iff_get?]
  intro key
  rw [searched, searched, same]

end FoldedMap

section Resolve

variable {binding other : Binding} {metadata later : Metadata}

theorem Placeholder.value?_congr (bound : ∀ key, binding.get? key = other.get? key)
    (stored : ∀ key, metadata.get? key = later.get? key) (placeholder : Placeholder) :
    placeholder.value? binding metadata = placeholder.value? other later := by
  cases placeholder with
  | capture name => exact bound name
  | metadata text => exact stored _

theorem Resolver.substitute_congr (bound : ∀ key, binding.get? key = other.get? key)
    (stored : ∀ key, metadata.get? key = later.get? key) (tokens : List Token) :
    substitute binding metadata tokens = substitute other later tokens := by
  induction tokens with
  | nil => rfl
  | cons token rest ih =>
    cases token with
    | literal text => rw [substitute, substitute, ih]
    | parameter placeholder =>
      rw [substitute, substitute, placeholder.value?_congr bound stored, ih]

theorem Resolver.resolve_congr (bound : ∀ key, binding.get? key = other.get? key)
    (stored : ∀ key, metadata.get? key = later.get? key) (resolver : Resolver) :
    resolver.resolve binding metadata = resolver.resolve other later := by
  rw [resolve, resolve, substitute_congr bound stored]

end Resolve

/-- Maps are equal just when every lookup gives equal values in both, by the equality test of values
itself; where that is an equivalence, so is equality of maps, and where it is equality, maps are
equal just when their entries are the same but for order and the spelling of keys. Equal bindings
and equal metadata resolve every pattern alike, to the same address or with the same error. -/
theorem FoldedMap.equal_iff_alike {fold : String → String} {α : Type u} [BEq α] :
    (∀ m n : FoldedMap fold α,
      (m == n) = true ↔ ∀ key, (n.get? key == m.get? key) = true) ∧
    (∀ [EquivBEq α], Equivalence fun m n : FoldedMap fold α => (m == n) = true) ∧
    (∀ [LawfulBEq α] (m n : FoldedMap fold α),
      ((m == n) = true ↔ ∀ key, m.get? key = n.get? key) ∧
      ((m == n) = true ↔ m.folded.Perm n.folded)) ∧
    ∀ {binding other : Binding} {metadata later : Metadata}, (binding == other) = true →
      (metadata == later) = true →
      (∀ resolver : Resolver,
        resolver.resolve binding metadata = resolver.resolve other later) ∧
      ∀ pattern, resolvePattern pattern binding metadata = resolvePattern pattern other later := by
  refine ⟨fun m n => beq_iff_get?_beq, beq_equivalence, ?_, ?_⟩
  · exact fun m n => ⟨beq_iff_get?, beq_iff_get?.trans perm_folded_iff.symm⟩
  · intro binding other metadata later bound stored
    have resolves (resolver : Resolver) :
        resolver.resolve binding metadata = resolver.resolve other later :=
      resolver.resolve_congr (beq_iff_get?.1 bound) (beq_iff_get?.1 stored)
    refine ⟨resolves, fun pattern => ?_⟩
    rw [resolvePattern, resolvePattern]
    exact congrArg _ (funext resolves)

/-- A binding and metadata filled again in another order and another spelling. -/
theorem FoldedMap.equal_iff_alike_respelled :
    let binding : Binding := ofList [("name", "x"), ("Folder", "f")]
    let other : Binding := ofList [("folder", "f"), ("NAME", "x")]
    let metadata : Metadata := ofList [("Owner", "bob")]
    let later : Metadata := ofList [("owner", "bob")]
    (binding == other) = true ∧ (metadata == later) = true ∧ binding.keys ≠ other.keys ∧
      (other == binding) = true ∧ (∀ key, binding.get? key = other.get? key) ∧
      resolvePattern "{folder}/{metadata.owner}/{name}" binding metadata =
        resolvePattern "{folder}/{metadata.owner}/{name}" other later ∧
      resolvePattern "{folder}/{metadata.owner}/{name}" other later = .ok ⟨"f", "bob/x"⟩ := by
  intro binding other metadata later
  have bound : (binding == other) = true := by decide
  have stored : (metadata == later) = true := by decide
  obtain ⟨_, equivalent, lookups, resolves⟩ := @equal_iff_alike Text.lower String _
  exact ⟨bound, stored, by decide, equivalent.symm bound, (lookups binding other).1.1 bound,
    (resolves bound stored).2 _, by decide⟩

end BlobDispatch
