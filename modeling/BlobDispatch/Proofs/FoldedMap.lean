import BlobDispatch.FoldedMap.Lemmas
import Mathlib.Data.List.Nodup
import Mathlib.Data.List.Perm.Subperm

/-! Reading a folded map back by the keys of its entries, and what is in it after insertions into
it, whether or not their keys were there. -/

namespace BlobDispatch.FoldedMap

universe u v

variable {fold : String → String} {α : Type u} {β : Type v}

theorem contains_eq_of_keys {m : FoldedMap fold α} {n : FoldedMap fold β} (same : m.keys = n.keys)
    (key : String) : m.contains key = n.contains key := by
  have folded : (m.entries.map fun entry => fold entry.1) =
      n.entries.map fun entry => fold entry.1 := by
    have mapped := congrArg (List.map fold) same
    rwa [keys, keys, List.map_map, List.map_map] at mapped
  rw [Bool.eq_iff_iff, contains_eq_true_iff, contains_eq_true_iff, folded]

theorem get?_congr {key other : String} (alike : fold key = fold other) (m : FoldedMap fold α) :
    m.get? key = m.get? other := by
  rw [get?, get?, stored?, stored?, position?, position?, alike]

theorem get?_of_mem {m : FoldedMap fold α} {key : String} {value : α}
    (member : (key, value) ∈ m.entries) : m.get? key = some value := by
  rw [get?, stored?_eq_find?]
  cases found : m.entries.find? fun entry => fold entry.1 == fold key with
  | none =>
    have apart := List.find?_eq_none.1 found _ member
    exact absurd (beq_self_eq_true _) apart
  | some entry =>
    have same : fold entry.1 = fold key := by simpa using List.find?_some found
    have here := List.mem_of_find?_eq_some found
    rw [List.inj_on_of_nodup_map m.distinct here member same]
    rfl

theorem get?_foldl_insert (m : FoldedMap fold α) (pairs : List (String × α)) (key : String) :
    (pairs.foldl (fun m pair => m.insert pair.1 pair.2) m).get? key =
      ((pairs.reverse.find? fun pair => fold pair.1 == fold key).map (·.2)).or (m.get? key) := by
  induction pairs generalizing m with
  | nil => rfl
  | cons pair rest ih =>
    rw [List.foldl_cons, ih, get?_insert, List.reverse_cons, List.find?_append]
    cases rest.reverse.find? fun pair => fold pair.1 == fold key with
    | some later => rfl
    | none =>
      by_cases same : fold key = fold pair.1
      · simp [same]
      · simp [same, Ne.symm same]

/-- The keys fold apart, so a search from the end finds the same entry. -/
theorem get?_eq_find?_reverse (m : FoldedMap fold α) (key : String) :
    m.get? key = (m.entries.reverse.find? fun entry => fold entry.1 == fold key).map (·.2) := by
  have rebuilt := get?_foldl_insert (empty : FoldedMap fold α) m.entries key
  rw [← ofList, ofList_entries, get?_empty, Option.or_none] at rebuilt
  exact rebuilt

theorem contains_foldl_insert (m : FoldedMap fold α) (pairs : List (String × α)) (key : String) :
    (pairs.foldl (fun m pair => m.insert pair.1 pair.2) m).contains key = true ↔
      fold key ∈ (m.entries ++ pairs).map fun entry => fold entry.1 := by
  rw [contains_eq_isSome_get?, get?_foldl_insert, Option.isSome_or, Option.isSome_map,
    ← contains_eq_isSome_get?, Bool.or_eq_true, contains_eq_true_iff, List.map_append,
    List.mem_append, List.find?_isSome]
  simp [or_comm]

/-- No insertion meets a key that is there exactly when all the keys fold apart. -/
theorem size_foldl_insert_iff (m : FoldedMap fold α) (pairs : List (String × α)) :
    (pairs.foldl (fun m pair => m.insert pair.1 pair.2) m).size = m.size + pairs.length ↔
      ((m.entries ++ pairs).map fun entry => fold entry.1).Nodup := by
  constructor
  · intro counted
    have distinct := (pairs.foldl (fun m pair => m.insert pair.1 pair.2) m).distinct
    have covered : ((pairs.foldl (fun m pair => m.insert pair.1 pair.2) m).entries.map
        fun entry => fold entry.1) ⊆ (m.entries ++ pairs).map fun entry => fold entry.1 := by
      intro key member
      obtain ⟨entry, _, rfl⟩ := List.mem_map.1 member
      exact (contains_foldl_insert m pairs entry.1).1 (contains_eq_true_iff.2 member)
    have level : ((m.entries ++ pairs).map fun entry => fold entry.1).length ≤
        ((pairs.foldl (fun m pair => m.insert pair.1 pair.2) m).entries.map
          fun entry => fold entry.1).length := by
      rw [List.length_map, List.length_map, List.length_append]
      exact Nat.le_of_eq counted.symm
    exact ((distinct.subperm covered).perm_of_length_le level).nodup distinct
  · intro distinct
    rw [size, entries_foldl_insert pairs m distinct, List.length_append]
    rfl

end BlobDispatch.FoldedMap
