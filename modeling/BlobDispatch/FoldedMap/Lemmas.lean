import BlobDispatch.FoldedMap.Basic

/-! What the operations of a folded map do to its entries and to its lookups. A lookup through the
index finds what a search of the entries would find, so nothing else has to know the index; an
insertion and a removal are seen under the keys that fold alike and under no other. -/

namespace BlobDispatch.FoldedMap

universe u

variable {fold : String → String} {α : Type u}

private theorem find?_eq_lookup_zipIdx (entries : List (String × α)) (k : String) (start : Nat) :
    (entries.find? fun entry => fold entry.1 == k) =
      (((entries.map fun entry => fold entry.1).zipIdx start).lookup k).bind
        fun i => entries[i - start]? := by
  induction entries generalizing start with
  | nil => rfl
  | cons first rest ih =>
    rw [List.find?_cons, List.map_cons, List.zipIdx_cons, List.lookup_cons,
      show (fold first.1 == k) = (k == fold first.1) from BEq.comm]
    cases same : k == fold first.1 with
    | true => simp
    | false =>
      rw [ih (start + 1)]
      cases found : ((rest.map fun entry => fold entry.1).zipIdx (start + 1)).lookup k with
      | none => rfl
      | some i =>
        have above := (mem_of_lookup_zipIdx found).1
        simp only [Option.bind_some]
        rw [show i - start = i - (start + 1) + 1 by omega, List.getElem?_cons_succ]

/-- A lookup finds the entry that a search by the folded key finds. -/
theorem stored?_eq_find? (m : FoldedMap fold α) (key : String) :
    m.stored? key = m.entries.find? fun entry => fold entry.1 == fold key := by
  rw [stored?, position?, m.indexed, positions, find?_eq_lookup_zipIdx m.entries (fold key) 0]
  rfl

theorem contains_eq_true_iff {m : FoldedMap fold α} {key : String} :
    m.contains key = true ↔ fold key ∈ m.entries.map fun entry => fold entry.1 := by
  rw [contains, Option.isSome_iff_exists]
  constructor
  · rintro ⟨i, found⟩
    exact List.mem_of_getElem? (folded_of_position? found)
  · intro member
    cases found : m.position? key with
    | none => exact absurd member (not_mem_of_position? found)
    | some i => exact ⟨i, rfl⟩

theorem contains_eq_isSome_get? (m : FoldedMap fold α) (key : String) :
    m.contains key = (m.get? key).isSome := by
  rw [Bool.eq_iff_iff, contains_eq_true_iff, get?, stored?_eq_find?, Option.isSome_map,
    List.find?_isSome]
  simp

private theorem setAt_eq_map {value : α} {entries : List (String × α)} {i : Nat} {k : String}
    (distinct : (entries.map fun entry => fold entry.1).Nodup)
    (there : (entries.map fun entry => fold entry.1)[i]? = some k) :
    setAt value entries i =
      entries.map fun entry => if fold entry.1 = k then (entry.1, value) else entry := by
  induction entries generalizing i with
  | nil => rfl
  | cons first rest ih =>
    have fresh : fold first.1 ∉ rest.map fun entry => fold entry.1 := (List.nodup_cons.1 distinct).1
    have restDistinct := (List.nodup_cons.1 distinct).2
    cases i with
    | zero =>
      have here : fold first.1 = k := by simpa using there
      have others : ∀ entry ∈ rest,
          (if fold entry.1 = k then (entry.1, value) else entry) = entry := fun entry member =>
        if_neg fun same : fold entry.1 = k =>
          fresh (List.mem_map.2 ⟨entry, member, same.trans here.symm⟩)
      rw [setAt, List.map_cons, if_pos here, List.map_congr_left others, List.map_id']
    | succ i =>
      have later : (rest.map fun entry => fold entry.1)[i]? = some k := by simpa using there
      have apart : fold first.1 ≠ k := fun same => fresh (same ▸ List.mem_of_getElem? later)
      rw [setAt, List.map_cons, if_neg apart, ih restDistinct later]

/-- Under a key that is there, an insertion changes the value of its entry. -/
theorem entries_insert_of_contains {m : FoldedMap fold α} {key : String} (value : α)
    (there : m.contains key = true) : (m.insert key value).entries =
      m.entries.map fun entry =>
        if fold entry.1 = fold key then (entry.1, value) else entry := by
  unfold insert
  split
  · rename_i found
    exact setAt_eq_map m.distinct (folded_of_position? found)
  · rename_i absent
    exact absurd (contains_eq_true_iff.1 there) (not_mem_of_position? absent)

/-- Under a new key, an insertion adds an entry after the others. -/
theorem entries_insert_of_not_contains {m : FoldedMap fold α} {key : String} (value : α)
    (absent : m.contains key = false) :
    (m.insert key value).entries = m.entries ++ [(key, value)] := by
  unfold insert
  split
  · rename_i found
    simp [contains, found] at absent
  · rfl

private theorem eraseIdx_eq_filter {entries : List (String × α)} {i : Nat} {k : String}
    (distinct : (entries.map fun entry => fold entry.1).Nodup)
    (there : (entries.map fun entry => fold entry.1)[i]? = some k) :
    entries.eraseIdx i = entries.filter fun entry => fold entry.1 != k := by
  induction entries generalizing i with
  | nil => rfl
  | cons first rest ih =>
    have fresh : fold first.1 ∉ rest.map fun entry => fold entry.1 := (List.nodup_cons.1 distinct).1
    have restDistinct := (List.nodup_cons.1 distinct).2
    cases i with
    | zero =>
      have here : fold first.1 = k := by simpa using there
      have others : ∀ entry ∈ rest, (fold entry.1 != k) = true := fun entry member =>
        bne_iff_ne.2 fun same => fresh (List.mem_map.2 ⟨entry, member, same.trans here.symm⟩)
      rw [List.eraseIdx_cons_zero, List.filter_cons_of_neg (by simp [here]),
        List.filter_eq_self.2 others]
    | succ i =>
      have later : (rest.map fun entry => fold entry.1)[i]? = some k := by simpa using there
      have apart : fold first.1 ≠ k := fun same => fresh (same ▸ List.mem_of_getElem? later)
      rw [List.eraseIdx_cons_succ, List.filter_cons_of_pos (by simpa using apart),
        ih restDistinct later]

/-- A removal leaves the entries of the other keys, in their order. -/
theorem entries_erase (m : FoldedMap fold α) (key : String) :
    (m.erase key).entries = m.entries.filter fun entry => fold entry.1 != fold key := by
  unfold erase
  split
  · rename_i absent
    refine (List.filter_eq_self.2 fun entry member => bne_iff_ne.2 fun same => ?_).symm
    exact not_mem_of_position? absent (same ▸ List.mem_map_of_mem member)
  · rename_i found
    exact eraseIdx_eq_filter m.distinct (folded_of_position? found)

@[simp] theorem get?_empty (key : String) : (empty : FoldedMap fold α).get? key = none := rfl

/-- The entry that a lookup finds has a key that folds alike. -/
theorem fold_of_stored? {m : FoldedMap fold α} {key : String} {entry : String × α}
    (found : m.stored? key = some entry) : fold entry.1 = fold key := by
  rw [stored?_eq_find?] at found
  simpa using List.find?_some found

/-- An insertion is seen under the keys that fold alike and under no other. -/
theorem get?_insert (m : FoldedMap fold α) (key : String) (value : α) (other : String) :
    (m.insert key value).get? other =
      if fold other = fold key then some value else m.get? other := by
  cases there : m.contains key with
  | true =>
    have moved : (m.insert key value).stored? other = (m.stored? other).map fun entry =>
        if fold entry.1 = fold key then (entry.1, value) else entry := by
      rw [stored?_eq_find?, stored?_eq_find?, entries_insert_of_contains value there,
        List.find?_map]
      congr 2
      funext entry
      simp only [Function.comp]
      split <;> rfl
    rw [get?, get?, moved]
    cases found : m.stored? other with
    | none =>
      have absent : fold other ≠ fold key := fun same => by
        rw [contains_eq_isSome_get?, get?, stored?_eq_find?, ← same, ← stored?_eq_find?,
          found] at there
        cases there
      simp [absent]
    | some entry =>
      rw [Option.map_some, fold_of_stored? found]
      by_cases same : fold other = fold key <;> simp [same]
  | false =>
    rw [get?, get?, stored?_eq_find?, stored?_eq_find?, entries_insert_of_not_contains value there,
      List.find?_append]
    by_cases same : fold other = fold key
    · have absent := there
      rw [contains_eq_isSome_get?, get?, stored?_eq_find?, ← same, Option.isSome_map,
        Option.isSome_eq_false_iff, Option.isNone_iff_eq_none] at absent
      rw [if_pos same, absent]
      simp [same]
    · simp [same, Ne.symm same]

/-- A removal is seen under the keys that fold alike and under no other. -/
theorem get?_erase (m : FoldedMap fold α) (key other : String) :
    (m.erase key).get? other = if fold other = fold key then none else m.get? other := by
  rw [get?, get?, stored?_eq_find?, stored?_eq_find?, entries_erase, List.find?_filter]
  by_cases same : fold other = fold key
  · simp [same]
  · rw [if_neg same]
    congr 2
    funext entry
    by_cases hit : fold entry.1 = fold other
    · simp [hit, same]
    · simp [hit]

theorem entries_foldl_insert (pairs : List (String × α)) (m : FoldedMap fold α)
    (distinct : ((m.entries ++ pairs).map fun entry => fold entry.1).Nodup) :
    (pairs.foldl (fun m pair => m.insert pair.1 pair.2) m).entries = m.entries ++ pairs := by
  induction pairs generalizing m with
  | nil => simp
  | cons pair rest ih =>
    have absent : m.contains pair.1 = false := by
      rw [Bool.eq_false_iff]
      intro there
      rw [List.map_append, List.nodup_append] at distinct
      exact distinct.2.2 _ (contains_eq_true_iff.1 there) (fold pair.1) (by simp) rfl
    have inserted := entries_insert_of_not_contains pair.2 absent
    rw [List.foldl_cons, ih, inserted, List.append_assoc, List.singleton_append]
    rwa [inserted, List.append_assoc, List.singleton_append]

/-- Pairs whose keys fold apart are the entries of the map that holds them. -/
theorem entries_ofList {pairs : List (String × α)}
    (distinct : (pairs.map fun entry => fold entry.1).Nodup) :
    (ofList pairs : FoldedMap fold α).entries = pairs := by
  rw [ofList, entries_foldl_insert pairs empty (by simpa [empty] using distinct)]
  rfl

/-- A map is the one that holds its entries. -/
@[simp] theorem ofList_entries (m : FoldedMap fold α) : ofList m.entries = m :=
  ext_entries (entries_ofList m.distinct)

end BlobDispatch.FoldedMap
