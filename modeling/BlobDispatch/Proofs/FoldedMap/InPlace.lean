import BlobDispatch.Proofs.FoldedMap.Association
import BlobDispatch.Proofs.InPlace

/-! The operations of a folded map as programs that overwrite its entries and a hash index, two
copies of one truth that no proof ties together. The index gives a position, at which a program then
reads; were it ever wrong, the program would throw or read another entry. Each program does what the
operation does as a function, so none of that happens. -/

namespace BlobDispatch.FoldedMap

open InPlace

variable (fold : String → String) {α : Type}

structure Slots (α : Type) where
  entries : List (String × α)
  index : Std.HashMap String Nat

def Slots.empty : Slots α := ⟨[], ∅⟩

/-- No entry is at the position that was read. -/
structure OutOfRange where
  position : Nat

namespace Program

def position? (key : String) : InPlace (Slots α) OutOfRange (Option Nat) :=
  ask fun slots => .ok slots.index[fold key]?

def entryAt (i : Nat) : InPlace (Slots α) OutOfRange (String × α) := ask fun slots =>
  match slots.entries[i]? with
  | some entry => .ok entry
  | none => .error ⟨i⟩

def stored? (key : String) : InPlace (Slots α) OutOfRange (Option (String × α)) := do
  match ← position? fold key with
  | some i => return some (← entryAt i)
  | none => return none

def insert (key : String) (value : α) : InPlace (Slots α) OutOfRange (Option α) := do
  match ← position? fold key with
  | some i =>
    let entry ← entryAt i
    update fun slots => { slots with entries := slots.entries.set i (entry.1, value) }
    return some entry.2
  | none =>
    update fun slots => { slots with index := slots.index.insert (fold key) slots.entries.length }
    update fun slots => { slots with entries := slots.entries ++ [(key, value)] }
    return none

/-- Positions after the removed one are lowered last, when the entries have moved already. -/
def erase (key : String) : InPlace (Slots α) OutOfRange (Option α) := do
  match ← position? fold key with
  | none => return none
  | some i =>
    update fun slots => { slots with index := slots.index.erase (fold key) }
    let entry ← entryAt i
    update fun slots => { slots with entries := slots.entries.eraseIdx i }
    update fun slots =>
      { slots with index := slots.index.map fun _ j => if i < j then j - 1 else j }
    return some entry.2

def ofList : List (String × α) → InPlace (Slots α) OutOfRange Unit
  | [] => return ()
  | pair :: rest => do
    let _ ← insert fold pair.1 pair.2
    ofList rest

def perform : Operation α → InPlace (Slots α) OutOfRange (Reply α)
  | .insert key value => return .value (← insert fold key value)
  | .erase key => return .value (← erase fold key)
  | .get key => return .value ((← stored? fold key).map (·.2))
  | .stored key => return .entry (← stored? fold key)
  | .contains key => return .flag ((← current).index.contains (fold key))
  | .size => return .count (← current).entries.length
  | .isEmpty => return .flag (← current).entries.isEmpty
  | .keys => return .keys ((← current).entries.map (·.1))
  | .values => return .values ((← current).entries.map (·.2))
  | .entries => return .entries (← current).entries

def run : List (Operation α) → InPlace (Slots α) OutOfRange (List (Reply α))
  | [] => return []
  | operation :: rest => do
    let reply ← perform fold operation
    return reply :: (← run rest)

end Program

variable {fold}

/-- The two copies hold what the map holds. -/
structure Slots.Holds (slots : Slots α) (m : FoldedMap fold α) : Prop where
  entries : slots.entries = m.entries
  index : ∀ k, slots.index[k]? = m.index.lookup k

/-- A program gives the answer of a function on maps, throws nothing, and leaves what the function
leaves. -/
def Serves {β : Type} (program : InPlace (Slots α) OutOfRange β)
    (outcome : FoldedMap fold α → β × FoldedMap fold α) : Prop :=
  ∀ slots m, Slots.Holds slots m → ∃ next, program.exec slots = (.ok (outcome m).1, next) ∧
    next.Holds (outcome m).2

section Serves

variable {m : FoldedMap fold α} {slots : Slots α} {key : String}

theorem holds_empty : Slots.Holds Slots.empty (empty : FoldedMap fold α) :=
  ⟨rfl, fun _ => Std.HashMap.getElem?_empty⟩

theorem exec_position? (holds : slots.Holds m) (key : String) :
    (Program.position? fold key).exec slots = (.ok (m.position? key), slots) := by
  rw [Program.position?, asks_ask, holds.index, position?]

theorem exec_entryAt (holds : slots.Holds m) {i : Nat} {entry : String × α}
    (there : m.entries[i]? = some entry) :
    (Program.entryAt i).exec slots = (.ok entry, slots) := by
  rw [Program.entryAt, asks_ask, holds.entries, there]

theorem exists_entry {i : Nat} (found : m.position? key = some i) :
    ∃ entry, m.stored? key = some entry ∧ m.entries[i]? = some entry := by
  have inside := folded_of_position? found
  rw [List.getElem?_map] at inside
  obtain ⟨entry, there, _⟩ := Option.map_eq_some_iff.1 inside
  exact ⟨entry, by rw [stored?, found, Option.bind_some, there], there⟩

theorem stored?_of_missing (missing : m.position? key = none) : m.stored? key = none := by
  rw [stored?, missing]
  rfl

theorem serves_stored? (key : String) :
    Serves (Program.stored? fold key) fun m : FoldedMap fold α => (m.stored? key, m) := by
  intro slots m holds
  refine ⟨slots, ?_, holds⟩
  rw [Program.stored?, exec_bind, exec_position? holds]
  dsimp only
  cases found : m.position? key with
  | none =>
    rw [stored?_of_missing found]
    rfl
  | some i =>
    obtain ⟨entry, stored, there⟩ := exists_entry found
    dsimp only
    rw [exec_bind, exec_entryAt holds there, stored]
    rfl

theorem setAt_eq_set {entries : List (String × α)} {i : Nat} {entry : String × α}
    (there : entries[i]? = some entry) (value : α) :
    setAt value entries i = entries.set i (entry.1, value) := by
  induction entries generalizing i with
  | nil => cases there
  | cons first rest ih =>
    cases i with
    | zero =>
      cases there
      rfl
    | succ i => exact congrArg (first :: ·) (ih there)

theorem insert_of_missing (missing : m.position? key = none) (value : α) :
    (m.insert key value).entries = m.entries ++ [(key, value)] ∧
      (m.insert key value).index = m.index ++ [(fold key, m.entries.length)] := by
  unfold FoldedMap.insert
  split
  · rename_i found
    cases missing.symm.trans found
  · exact ⟨rfl, rfl⟩

theorem insert_of_position {i : Nat} {entry : String × α} (found : m.position? key = some i)
    (there : m.entries[i]? = some entry) (value : α) :
    (m.insert key value).entries = m.entries.set i (entry.1, value) ∧
      (m.insert key value).index = m.index := by
  unfold FoldedMap.insert
  split
  · rename_i again
    cases found.symm.trans again
    exact ⟨setAt_eq_set there value, rfl⟩
  · rename_i missing
    cases missing.symm.trans found

private theorem lookup_slot (slot : String × Nat) (rest : List (String × Nat)) (k : String) :
    (slot :: rest).lookup k = if slot.1 = k then some slot.2 else rest.lookup k := by
  rw [List.lookup_cons]
  by_cases here : slot.1 = k
  · simp [here]
  · simp [here, beq_eq_false_iff_ne.2 (Ne.symm here)]

theorem serves_insert (key : String) (value : α) : Serves (Program.insert fold key value)
    fun m : FoldedMap fold α => (m.get? key, m.insert key value) := by
  intro slots m holds
  rw [Program.insert, exec_bind, exec_position? holds]
  dsimp only [get?]
  cases found : m.position? key with
  | none =>
    obtain ⟨entries, index⟩ := insert_of_missing found value
    rw [stored?_of_missing found]
    refine ⟨_, rfl, ?_, fun k => ?_⟩
    · rw [entries, ← holds.entries]
    · rw [index, List.lookup_append, lookup_slot, ← holds.index, ← holds.entries,
        Std.HashMap.getElem?_insert]
      by_cases same : fold key = k
      · have absent : slots.index[k]? = none := by rw [← same, holds.index, ← position?, found]
        simp [same, absent]
      · simp [same]
  | some i =>
    obtain ⟨entry, stored, there⟩ := exists_entry found
    obtain ⟨entries, index⟩ := insert_of_position found there value
    dsimp only
    rw [exec_bind, exec_entryAt holds there, stored]
    refine ⟨_, rfl, ?_, fun k => ?_⟩
    · rw [entries, ← holds.entries]
    · rw [index]
      exact holds.index k

theorem erase_of_missing (missing : m.position? key = none) : m.erase key = m := by
  unfold FoldedMap.erase
  split
  · rfl
  · rename_i found
    cases missing.symm.trans found

theorem erase_of_position {i : Nat} (found : m.position? key = some i) :
    (m.erase key).entries = m.entries.eraseIdx i ∧
      (m.erase key).index = shiftDown (fold key) i m.index := by
  unfold FoldedMap.erase
  split
  · rename_i missing
    cases missing.symm.trans found
  · rename_i again
    cases found.symm.trans again
    exact ⟨rfl, rfl⟩

theorem lookup_shiftDown (gone : String) (i : Nat) (index : List (String × Nat)) (k : String) :
    (shiftDown gone i index).lookup k =
      if gone = k then none else (index.lookup k).map fun j => if i < j then j - 1 else j := by
  induction index with
  | nil => simp [shiftDown]
  | cons slot rest ih =>
    rw [shiftDown] at ih ⊢
    by_cases removed : slot.1 = gone
    · rw [List.filter_cons_of_neg (by simpa using removed), ih, lookup_slot, removed]
      by_cases same : gone = k <;> simp [same]
    · rw [List.filter_cons_of_pos (by simpa using removed), List.map_cons, lookup_slot,
        lookup_slot, ih]
      by_cases here : slot.1 = k
      · simp [here, Ne.symm (here ▸ removed)]
      · simp [here]

theorem serves_erase (key : String) : Serves (Program.erase fold key)
    fun m : FoldedMap fold α => (m.get? key, m.erase key) := by
  intro slots m holds
  rw [Program.erase, exec_bind, exec_position? holds]
  dsimp only [get?]
  cases found : m.position? key with
  | none =>
    rw [stored?_of_missing found, erase_of_missing found]
    exact ⟨slots, rfl, holds⟩
  | some i =>
    obtain ⟨entry, stored, there⟩ := exists_entry found
    obtain ⟨entries, index⟩ := erase_of_position found
    have read (changed : Std.HashMap String Nat) :
        (Program.entryAt i).exec { slots with index := changed } =
          (.ok entry, { slots with index := changed }) := by
      rw [Program.entryAt, asks_ask, holds.entries, there]
    dsimp only
    rw [exec_bind, exec_update]
    dsimp only
    rw [exec_bind, read, stored]
    refine ⟨_, rfl, ?_, fun k => ?_⟩
    · rw [entries, ← holds.entries]
    · rw [index, lookup_shiftDown, ← holds.index, Std.HashMap.getElem?_map,
        Std.HashMap.getElem?_erase]
      by_cases same : fold key = k <;> simp [same]

theorem Serves.bind_pure {β γ : Type} {program : InPlace (Slots α) OutOfRange β}
    {outcome : FoldedMap fold α → β × FoldedMap fold α} (serves : Serves program outcome)
    (f : β → γ) : Serves (program >>= fun value => pure (f value))
      fun m => (f (outcome m).1, (outcome m).2) := by
  intro slots m holds
  obtain ⟨next, done, held⟩ := serves slots m holds
  refine ⟨next, ?_, held⟩
  rw [exec_bind, done]
  rfl

theorem serves_perform (operation : Operation α) :
    Serves (Program.perform fold operation) fun m : FoldedMap fold α => m.step operation := by
  cases operation with
  | insert key value => exact (serves_insert key value).bind_pure _
  | erase key => exact (serves_erase key).bind_pure _
  | get key => exact (serves_stored? key).bind_pure _
  | stored key => exact (serves_stored? key).bind_pure _
  | contains key =>
    intro slots m holds
    refine ⟨slots, ?_, holds⟩
    change (Except.ok (Reply.flag (slots.index.contains (fold key))), slots) = _
    rw [Std.HashMap.contains_eq_isSome_getElem?, holds.index]
    rfl
  | size | isEmpty | keys | values | entries =>
    rintro ⟨_, index⟩ m ⟨rfl, same⟩
    exact ⟨_, rfl, rfl, same⟩

theorem serves_run (operations : List (Operation α)) :
    Serves (Program.run fold operations) fun m : FoldedMap fold α => m.run operations := by
  induction operations with
  | nil => exact fun slots m holds => ⟨slots, rfl, holds⟩
  | cons operation rest ih =>
    intro slots m holds
    obtain ⟨between, answered, kept⟩ := serves_perform operation slots m holds
    obtain ⟨last, later, held⟩ := ih between _ kept
    refine ⟨last, ?_, held⟩
    rw [Program.run, exec_bind, answered]
    dsimp only
    rw [exec_bind, later]
    rfl

theorem exec_ofList (pairs : List (String × α)) : ∃ slots,
    (Program.ofList fold pairs).exec Slots.empty = (.ok (), slots) ∧
      slots.Holds (ofList pairs : FoldedMap fold α) := by
  suffices ∀ (slots : Slots α) (m : FoldedMap fold α), slots.Holds m → ∃ next,
      (Program.ofList fold pairs).exec slots = (.ok (), next) ∧
        next.Holds (pairs.foldl (fun m pair => m.insert pair.1 pair.2) m) from
    this _ _ holds_empty
  induction pairs with
  | nil => exact fun slots m holds => ⟨slots, rfl, holds⟩
  | cons pair rest ih =>
    intro slots m holds
    obtain ⟨between, stored, kept⟩ := serves_insert pair.1 pair.2 slots m holds
    obtain ⟨last, later, held⟩ := ih between _ kept
    refine ⟨last, ?_, held⟩
    rw [Program.ofList, exec_bind, stored]
    exact later

end Serves

/-- The index of a map has the position of every entry under its folded key, and nothing else. -/
theorem lookup_index_iff (m : FoldedMap fold α) {k : String} {i : Nat} :
    m.index.lookup k = some i ↔ ∃ entry, m.entries[i]? = some entry ∧ fold entry.1 = k := by
  have inside {j : Nat} (found : m.index.lookup k = some j) :
      (m.entries.map fun entry => fold entry.1)[j]? = some k := by
    rw [m.indexed, positions] at found
    simpa using (mem_of_lookup_zipIdx found).2
  constructor
  · intro found
    have there := inside found
    rwa [List.getElem?_map, Option.map_eq_some_iff] at there
  · rintro ⟨entry, there, rfl⟩
    have here : (m.entries.map fun entry => fold entry.1)[i]? = some (fold entry.1) := by
      rw [List.getElem?_map, there, Option.map_some]
    cases found : m.index.lookup (fold entry.1) with
    | none => exact absurd (List.mem_of_getElem? here) (not_mem_of_position? found)
    | some j =>
      have bound := (List.getElem?_eq_some_iff.1 here).1
      rw [(List.getElem?_inj bound m.distinct).1 (here.trans (inside found).symm)]

/-- Any run of operations, on a map made of any pairs and under any folding of keys, cannot be told
from the same run on a plain list of pairs that is searched from the front. A key that is there
keeps its place and spelling while its value is replaced; a new one comes last; a removal closes the
gap, after which the key may come again in another spelling, last. The programs that keep a hash
index beside the entries give these answers too and never read a position without an entry: at the
end, the index has the position of every folded key and nothing else. -/
theorem run_eq_association (fold : String → String) (pairs : List (String × α))
    (operations : List (Operation α)) :
    ∃ (replies : List (Reply α)) (m : FoldedMap fold α) (slots : Slots α),
      (ofList pairs).run operations = (replies, m) ∧
      Association.run fold (Association.ofList fold pairs) operations = (replies, m.entries) ∧
      (Program.ofList fold pairs >>= fun _ => Program.run fold operations).exec Slots.empty =
        (.ok replies, slots) ∧
      slots.entries = m.entries ∧
      (∀ k i, slots.index[k]? = some i ↔ ∃ entry, slots.entries[i]? = some entry ∧
        fold entry.1 = k) ∧
      (slots.entries.map fun entry => fold entry.1).Nodup ∧
      ∀ key, m.Around key := by
  obtain ⟨filled, made, holds⟩ := @exec_ofList fold α pairs
  obtain ⟨slots, ran, held⟩ := serves_run operations filled _ holds
  refine ⟨_, _, slots, rfl, ?_, ?_, held.entries, ?_, ?_, around _⟩
  · rw [← entries_ofList_eq, run_eq]
  · rw [exec_bind, made]
    exact ran
  · intro k i
    rw [held.index, held.entries, lookup_index_iff]
  · rw [held.entries]
    exact FoldedMap.distinct _

example : ((ofList [("a", 1), ("B", 2), ("c", 3)] : CaseMap Nat).run
    [.erase "A", .insert "b" 4, .insert "A" 5, .entries]).1 =
      [.value (some 1), .value (some 2), .value none,
        .entries [("B", 4), ("c", 3), ("A", 5)]] := by decide

end BlobDispatch.FoldedMap
