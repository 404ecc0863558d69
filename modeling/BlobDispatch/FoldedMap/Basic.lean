import BlobDispatch.Text.Lowercase
import BlobDispatch.Text.Quoted

/-! Maps whose keys are compared by a folded form, such as the lower-case one, while the spelling
of a key is the one it was first stored with. Entries stay in the order of their first insertion.
An index from folded keys to positions serves every lookup; a proof kept in the map says that it
is the index of the entries, so no position in it is out of range. -/

namespace BlobDispatch

universe u

/-- The index of a list of entries: every folded key with its position. -/
def positions {α : Type u} (fold : String → String) (entries : List (String × α)) :
    List (String × Nat) :=
  (entries.map fun entry => fold entry.1).zipIdx

structure FoldedMap (fold : String → String) (α : Type u) where
  entries : List (String × α)
  index : List (String × Nat)
  indexed : index = positions fold entries
  distinct : (entries.map fun entry => fold entry.1).Nodup

namespace FoldedMap

variable {fold : String → String} {α : Type u}

/-- A map is settled by its entries. -/
theorem ext_entries {m n : FoldedMap fold α} (same : m.entries = n.entries) : m = n := by
  cases m with | mk e i hi hd => cases n with | mk e' i' hi' hd' =>
    subst same; subst hi; subst hi'; rfl

def empty : FoldedMap fold α := ⟨[], [], rfl, .nil⟩

def size (m : FoldedMap fold α) : Nat := m.entries.length

def isEmpty (m : FoldedMap fold α) : Bool := m.entries.isEmpty

/-- The keys in insertion order, as first spelled. -/
def keys (m : FoldedMap fold α) : List String := m.entries.map (·.1)

/-- The values in insertion order. -/
def values (m : FoldedMap fold α) : List α := m.entries.map (·.2)

/-- The position of the entry under a key of any spelling. -/
def position? (m : FoldedMap fold α) (key : String) : Option Nat := m.index.lookup (fold key)

/-- The entry under a key of any spelling, with the spelling that is stored. -/
def stored? (m : FoldedMap fold α) (key : String) : Option (String × α) :=
  (m.position? key).bind fun i => m.entries[i]?

def get? (m : FoldedMap fold α) (key : String) : Option α := (m.stored? key).map (·.2)

def contains (m : FoldedMap fold α) (key : String) : Bool := (m.position? key).isSome

theorem mem_of_lookup_zipIdx {keys : List String} {start i : Nat} {k : String}
    (found : (keys.zipIdx start).lookup k = some i) : start ≤ i ∧ keys[i - start]? = some k := by
  induction keys generalizing start with
  | nil => simp at found
  | cons first rest ih =>
    rw [List.zipIdx_cons, List.lookup_cons] at found
    split at found
    · rename_i same
      have same : k = first := by simpa using same
      have here : start = i := by simpa using found
      subst same; subst here; simp
    · obtain ⟨bound, there⟩ := ih found
      refine ⟨by omega, ?_⟩
      rw [show i - start = (i - (start + 1)) + 1 by omega, List.getElem?_cons_succ]
      exact there

private theorem not_mem_of_lookup_zipIdx {keys : List String} {start : Nat} {k : String}
    (absent : (keys.zipIdx start).lookup k = none) : k ∉ keys := by
  induction keys generalizing start with
  | nil => simp
  | cons first rest ih =>
    rw [List.zipIdx_cons, List.lookup_cons] at absent
    split at absent
    · simp at absent
    · rename_i apart
      have apart : k ≠ first := by simpa using apart
      simp [apart, ih absent]

/-- The index leads to the entry whose key folds alike. -/
theorem folded_of_position? {m : FoldedMap fold α} {key : String} {i : Nat}
    (found : m.position? key = some i) :
    (m.entries.map fun entry => fold entry.1)[i]? = some (fold key) := by
  rw [position?, m.indexed, positions] at found
  simpa using (mem_of_lookup_zipIdx found).2

theorem not_mem_of_position? {m : FoldedMap fold α} {key : String}
    (absent : m.position? key = none) : fold key ∉ m.entries.map fun entry => fold entry.1 := by
  rw [position?, m.indexed, positions] at absent
  exact not_mem_of_lookup_zipIdx absent

/-- Puts a value at a position and leaves every key where it is. -/
def setAt (value : α) : List (String × α) → Nat → List (String × α)
  | [], _ => []
  | entry :: rest, 0 => (entry.1, value) :: rest
  | entry :: rest, i + 1 => entry :: setAt value rest i

theorem map_fold_setAt (value : α) (entries : List (String × α)) (i : Nat) :
    ((setAt value entries i).map fun entry => fold entry.1) =
      entries.map fun entry => fold entry.1 := by
  induction entries generalizing i with
  | nil => rfl
  | cons entry rest ih => cases i <;> simp [setAt, ih]

/-- Stores a value. Under a key that is there in some spelling it takes the place of the old value
and leaves spelling and position alone; under a new key it comes last. -/
def insert (m : FoldedMap fold α) (key : String) (value : α) : FoldedMap fold α :=
  match found : m.position? key with
  | some i =>
    { entries := setAt value m.entries i
      index := m.index
      indexed := by rw [m.indexed, positions, positions, map_fold_setAt]
      distinct := by rw [map_fold_setAt]; exact m.distinct }
  | none =>
    { entries := m.entries ++ [(key, value)]
      index := m.index ++ [(fold key, m.entries.length)]
      indexed := by rw [m.indexed, positions, positions]; simp [List.zipIdx_append]
      distinct := by
        rw [List.map_append, List.nodup_append]
        refine ⟨m.distinct, by simp, ?_⟩
        rintro k present _ member rfl
        simp only [List.map_cons, List.map_nil, List.mem_singleton] at member
        exact not_mem_of_position? found (member ▸ present) }

/-- The index after the entry at position `i` is gone: later entries move up by one. -/
def shiftDown (k : String) (i : Nat) (index : List (String × Nat)) : List (String × Nat) :=
  (index.filter fun slot => slot.1 != k).map fun (other, j) => (other, if i < j then j - 1 else j)

private theorem shiftDown_zipIdx {keys : List String} {k : String} {i : Nat} (start : Nat)
    (distinct : keys.Nodup) (there : keys[i]? = some k) :
    shiftDown k (start + i) (keys.zipIdx start) = (keys.eraseIdx i).zipIdx start := by
  induction keys generalizing i start with
  | nil => simp at there
  | cons first rest ih =>
    obtain ⟨fresh, restDistinct⟩ := List.nodup_cons.1 distinct
    cases i with
    | zero =>
      have here : first = k := by simpa using there
      subst here
      rw [List.eraseIdx_cons_zero, List.zipIdx_cons, shiftDown]
      simp only [Nat.add_zero, bne_self_eq_false, Bool.false_eq_true, not_false_eq_true,
        List.filter_cons_of_neg]
      have shift : ∀ (l : List String) (n : Nat), first ∉ l → start < n →
          ((l.zipIdx n).filter fun slot => slot.1 != first).map
            (fun (other, j) => (other, if start < j then j - 1 else j)) = l.zipIdx (n - 1) := by
        intro l
        induction l with
        | nil => simp
        | cons a l ih' =>
          intro n absent above
          have apart : a ≠ first := fun h => absent (by simp [h])
          have absentRest : first ∉ l := fun h => absent (by simp [h])
          rw [List.zipIdx_cons, List.filter_cons_of_pos (by simpa using apart), List.map_cons,
            ih' (n + 1) absentRest (by omega), List.zipIdx_cons]
          simp only [above, ↓reduceIte]
          rw [show n + 1 - 1 = n - 1 + 1 by omega]
      simpa using shift rest (start + 1) fresh (by omega)
    | succ i =>
      have later : rest[i]? = some k := by simpa using there
      have apart : first ≠ k := fun h => fresh (h ▸ List.mem_of_getElem? later)
      have step := ih (start + 1) restDistinct later
      rw [shiftDown, show start + 1 + i = start + (i + 1) by omega] at step
      rw [List.eraseIdx_cons_succ, List.zipIdx_cons, List.zipIdx_cons, shiftDown,
        List.filter_cons_of_pos (by simpa using apart), List.map_cons, step]
      have low : ¬ start + (i + 1) < start := by omega
      simp [low]

private theorem map_eraseIdx_folded {β : Type} (f : String × α → β) (entries : List (String × α))
    (i : Nat) : (entries.eraseIdx i).map f = (entries.map f).eraseIdx i := by
  induction entries generalizing i with
  | nil => rfl
  | cons entry rest ih => cases i <;> simp [ih]

/-- Removes the entry under a key of any spelling. The others keep their order. -/
def erase (m : FoldedMap fold α) (key : String) : FoldedMap fold α :=
  match found : m.position? key with
  | none => m
  | some i =>
    { entries := m.entries.eraseIdx i
      index := shiftDown (fold key) i m.index
      indexed := by
        rw [m.indexed, positions, positions, map_eraseIdx_folded]
        simpa using shiftDown_zipIdx 0 m.distinct (folded_of_position? found)
      distinct := by
        rw [map_eraseIdx_folded]
        exact m.distinct.sublist (List.eraseIdx_sublist _ _) }

/-- The map that holds the given pairs, inserted in order. -/
def ofList (pairs : List (String × α)) : FoldedMap fold α :=
  pairs.foldl (fun m pair => m.insert pair.1 pair.2) empty

/-- Two maps are equal for a reader when they have the same size and every entry of the first is
found in the second with an equal value. Order and spelling do not count. -/
instance [BEq α] : BEq (FoldedMap fold α) :=
  ⟨fun m n => m.size == n.size && m.entries.all fun (key, value) => n.get? key == some value⟩

end FoldedMap

/-- A map whose keys are equal when their full lower-case forms are. -/
abbrev CaseMap (α : Type u) := FoldedMap Text.lower α

/-- Metadata of a container or a blob. -/
abbrev Metadata := CaseMap String

/-- The diagnostic form of a map of texts. -/
def CaseMap.inspect (m : CaseMap String) : String :=
  Text.inspectPairs (m.entries.map fun (key, value) => (key, Text.quoted value))

end BlobDispatch
