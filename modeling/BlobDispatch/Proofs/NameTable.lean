import BlobDispatch.NameTable

/-! Name tables as sorted lists of entries: a lookup finds exactly the entries that are there, and
the parts above a name are filters of the whole. -/

namespace BlobDispatch

universe u v

variable {α : Type u} {β : Type v}

theorem eq_of_ascending {key : α → String} {items others : List α}
    (ascending : items.Pairwise fun a b => key a < key b)
    (othersAscending : others.Pairwise fun a b => key a < key b)
    (same : ∀ item, item ∈ items ↔ item ∈ others) : items = others := by
  have apart {a b : α} (below : key a < key b) : a ≠ b := by
    intro equal
    subst equal
    exact String.lt_irrefl _ below
  have permuted : items.Perm others :=
    (List.perm_ext_iff_of_nodup (ascending.imp apart) (othersAscending.imp apart)).2 same
  apply permuted.eq_of_pairwise _ ascending othersAscending
  intro a b _ _ below above
  exact absurd (String.lt_trans below above) (String.lt_irrefl _)

namespace NameTable

private theorem lookup_eq_some_iff {entries : List (String × α)}
    (ascending : entries.Pairwise fun a b => a.1 < b.1) {name : String} {value : α} :
    entries.lookup name = some value ↔ (name, value) ∈ entries := by
  induction entries with
  | nil => simp
  | cons first rest ih =>
    obtain ⟨above, later⟩ := List.pairwise_cons.1 ascending
    obtain ⟨key, stored⟩ := first
    rw [List.lookup_cons, List.mem_cons]
    by_cases same : name = key
    · subst same
      have absent : (name, value) ∉ rest := fun member =>
        String.lt_irrefl name (above _ member)
      simp [absent, eq_comm]
    · rw [beq_eq_false_iff_ne.2 same]
      simp [same, ih later]

theorem get?_eq_some_iff {t : NameTable α} {name : String} {value : α} :
    t.get? name = some value ↔ (name, value) ∈ t.entries :=
  lookup_eq_some_iff t.ascending

theorem mem_values_iff {t : NameTable α} {value : α} :
    value ∈ t.values ↔ ∃ name, t.get? name = some value := by
  simp only [values, List.mem_map, get?_eq_some_iff]
  constructor
  · intro stored
    obtain ⟨⟨name, stored⟩, member, rfl⟩ := stored
    exact ⟨name, member⟩
  · intro stored
    obtain ⟨name, member⟩ := stored
    exact ⟨(name, value), member, rfl⟩

theorem mem_names_iff {t : NameTable α} {name : String} :
    name ∈ t.names ↔ ∃ value, t.get? name = some value := by
  simp only [names, List.mem_map, get?_eq_some_iff]
  constructor
  · intro named
    obtain ⟨⟨_, value⟩, member, rfl⟩ := named
    exact ⟨value, member⟩
  · intro stored
    obtain ⟨value, member⟩ := stored
    exact ⟨(name, value), member, rfl⟩

theorem names_ascending (t : NameTable α) : t.names.Pairwise (· < ·) :=
  List.pairwise_map.2 t.ascending

theorem ext_get? {t u : NameTable α} (same : ∀ name, t.get? name = u.get? name) : t = u := by
  have entries : t.entries = u.entries := by
    apply eq_of_ascending t.ascending u.ascending
    intro entry
    rw [← get?_eq_some_iff, ← get?_eq_some_iff, same]
  cases t
  cases u
  cases entries
  rfl

theorem get?_insert_of_ne {t : NameTable α} {name key : String} {value : α} (apart : key ≠ name) :
    (t.insert name value).get? key = t.get? key := by
  rw [get?_insert, if_neg apart]

theorem get?_erase_of_ne {t : NameTable α} {name key : String} (apart : key ≠ name) :
    (t.erase name).get? key = t.get? key := by
  rw [get?_erase, if_neg apart]

def map (f : α → β) (t : NameTable α) : NameTable β where
  entries := t.entries.map fun entry => (entry.1, f entry.2)
  ascending := List.pairwise_map.2 t.ascending

section Map

variable (f : α → β) (t : NameTable α)

private theorem lookup_map (entries : List (String × α)) (name : String) :
    (entries.map fun entry => (entry.1, f entry.2)).lookup name =
      (entries.lookup name).map f := by
  induction entries with
  | nil => rfl
  | cons entry rest ih =>
    rw [List.map_cons, List.lookup_cons, List.lookup_cons, ih]
    cases name == entry.1 <;> rfl

@[simp] theorem get?_map (name : String) : (t.map f).get? name = (t.get? name).map f :=
  lookup_map f t.entries name

@[simp] theorem contains_map (name : String) : (t.map f).contains name = t.contains name := by
  simp [contains]

@[simp] theorem size_map : (t.map f).size = t.size := List.length_map _

theorem map_insert (name : String) (value : α) :
    (t.insert name value).map f = (t.map f).insert name (f value) := by
  apply ext_get?
  intro key
  rw [get?_map, get?_insert, get?_insert, get?_map]
  split <;> rfl

theorem map_erase (name : String) : (t.erase name).map f = (t.map f).erase name := by
  apply ext_get?
  intro key
  rw [get?_map, get?_erase, get?_erase, get?_map]
  split <;> rfl

theorem above_map (name : String) : (t.map f).above name = (t.above name).map f := by
  simp only [above, map, List.filter_map, List.map_map]
  rfl

theorem atLeast_map (name : String) : (t.map f).atLeast name = (t.atLeast name).map f := by
  simp only [atLeast, map, List.filter_map, List.map_map]
  rfl

end Map

end NameTable

end BlobDispatch
