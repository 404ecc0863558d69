/-! Tables from names to values, kept in ascending order of name. The order is by code point and
every walk over a table follows it, so two tables with the same entries are the same value. -/

namespace BlobDispatch

universe u

structure NameTable (α : Type u) where
  entries : List (String × α)
  ascending : entries.Pairwise fun a b => a.1 < b.1

namespace NameTable

variable {α : Type u}

def empty : NameTable α := ⟨[], .nil⟩

def names (t : NameTable α) : List String := t.entries.map (·.1)

def values (t : NameTable α) : List α := t.entries.map (·.2)

def size (t : NameTable α) : Nat := t.entries.length

/-- The value under a name. -/
def get? (t : NameTable α) (name : String) : Option α := t.entries.lookup name

def contains (t : NameTable α) (name : String) : Bool := (t.get? name).isSome

/-- Places an entry among ascending ones, over an entry of the same name. -/
def place (name : String) (value : α) : List (String × α) → List (String × α)
  | [] => [(name, value)]
  | entry :: rest =>
    if name < entry.1 then (name, value) :: entry :: rest
    else if name = entry.1 then (name, value) :: rest
    else entry :: place name value rest

private theorem mem_place {name : String} {value : α} {entries : List (String × α)}
    {entry : String × α} (member : entry ∈ place name value entries) :
    entry = (name, value) ∨ entry ∈ entries := by
  induction entries with
  | nil => simpa [place] using member
  | cons first rest ih =>
    rw [place] at member
    split at member
    · simpa using member
    · split at member
      · rcases List.mem_cons.1 member with rfl | inside
        · simp
        · simp [inside]
      · rcases List.mem_cons.1 member with rfl | inside
        · simp
        · rcases ih inside with rfl | there
          · simp
          · simp [there]

theorem place_ascending {name : String} {value : α} {entries : List (String × α)}
    (ascending : entries.Pairwise fun a b => a.1 < b.1) :
    (place name value entries).Pairwise fun a b => a.1 < b.1 := by
  induction entries with
  | nil => simp [place]
  | cons first rest ih =>
    obtain ⟨above, later⟩ := List.pairwise_cons.1 ascending
    rw [place]
    split
    · rename_i below
      refine List.pairwise_cons.2 ⟨fun entry member => ?_, ascending⟩
      rcases List.mem_cons.1 member with rfl | inside
      · exact below
      · exact String.lt_trans below (above entry inside)
    · split
      · rename_i same
        exact List.pairwise_cons.2 ⟨fun entry member => same ▸ above entry member, later⟩
      · rename_i notBelow apart
        refine List.pairwise_cons.2 ⟨fun entry member => ?_, ih later⟩
        rcases mem_place member with rfl | inside
        · exact Std.lt_of_le_of_ne (String.not_lt.1 notBelow) (Ne.symm apart)
        · exact above entry inside

/-- The table with `value` under `name`, in place of the value there before. -/
def insert (t : NameTable α) (name : String) (value : α) : NameTable α :=
  ⟨place name value t.entries, place_ascending t.ascending⟩

/-- The table without the entry under `name`. -/
def erase (t : NameTable α) (name : String) : NameTable α :=
  ⟨t.entries.filter fun entry => entry.1 != name, t.ascending.filter _⟩

/-- The values under the names above `name`, in order. -/
def above (t : NameTable α) (name : String) : List α :=
  (t.entries.filter fun entry => name < entry.1).map (·.2)

/-- The values under `name` and the names above it, in order. -/
def atLeast (t : NameTable α) (name : String) : List α :=
  (t.entries.filter fun entry => name ≤ entry.1).map (·.2)

@[simp] theorem get?_empty (key : String) : (empty : NameTable α).get? key = none := rfl

private theorem lookup_entry (entry : String × α) (rest : List (String × α)) (key : String) :
    (entry :: rest).lookup key = if key = entry.1 then some entry.2 else rest.lookup key := by
  rw [List.lookup_cons]
  by_cases same : key = entry.1 <;> simp [same]
  rw [beq_eq_false_iff_ne.2 same]

private theorem lookup_place (name : String) (value : α) (entries : List (String × α))
    (key : String) : (place name value entries).lookup key =
      if key = name then some value else entries.lookup key := by
  induction entries with
  | nil => exact lookup_entry (name, value) [] key
  | cons first rest ih =>
    rw [place]
    split
    · exact lookup_entry (name, value) (first :: rest) key
    · split
      · rename_i here
        rw [lookup_entry, lookup_entry]
        by_cases same : key = name <;> simp [same, ← here]
      · rename_i apart
        rw [lookup_entry, lookup_entry, ih]
        by_cases same : key = name <;> simp [same, apart]

/-- An insertion is seen under its own name and nowhere else. -/
@[simp] theorem get?_insert (t : NameTable α) (name : String) (value : α) (key : String) :
    (t.insert name value).get? key = if key = name then some value else t.get? key :=
  lookup_place name value t.entries key

private theorem lookup_without (name : String) (entries : List (String × α)) (key : String) :
    (entries.filter fun entry => entry.1 != name).lookup key =
      if key = name then none else entries.lookup key := by
  induction entries with
  | nil => simp
  | cons first rest ih =>
    rw [List.filter_cons, lookup_entry]
    by_cases gone : first.1 = name
    · rw [if_neg (by simpa using gone), ih, gone]
      by_cases same : key = name <;> simp [same]
    · rw [if_pos (by simpa using gone), lookup_entry, ih]
      by_cases same : key = name
      · simp [same, Ne.symm gone]
      · simp [same]

/-- A removal is seen under its own name and nowhere else. -/
@[simp] theorem get?_erase (t : NameTable α) (name key : String) :
    (t.erase name).get? key = if key = name then none else t.get? key :=
  lookup_without name t.entries key

end NameTable

end BlobDispatch
