import BlobDispatch.FoldedMap.Operation
import BlobDispatch.Proofs.FoldedMap

/-! Pairs in a list, searched from the front by folded key and without any index. A folded map gives
the answers of such a list, and its entries are the list that the same operations make. -/

namespace BlobDispatch

universe u

variable (fold : String → String) {α : Type u}

namespace Association

open FoldedMap

/-- The first pair whose key folds alike. -/
def stored? (pairs : List (String × α)) (key : String) : Option (String × α) :=
  pairs.find? fun pair => fold pair.1 == fold key

/-- Puts a value into the first pair whose key folds alike, or else into a new pair at the end. -/
def insert (key : String) (value : α) : List (String × α) → List (String × α)
  | [] => [(key, value)]
  | pair :: rest =>
    if fold pair.1 = fold key then (pair.1, value) :: rest else pair :: insert key value rest

/-- Takes out the first pair whose key folds alike. -/
def erase (key : String) (pairs : List (String × α)) : List (String × α) :=
  pairs.eraseP fun pair => fold pair.1 == fold key

def ofList (pairs : List (String × α)) : List (String × α) :=
  pairs.foldl (fun made pair => insert fold pair.1 pair.2 made) []

def step (pairs : List (String × α)) : Operation α → Reply α × List (String × α)
  | .insert key value => (.value ((stored? fold pairs key).map (·.2)), insert fold key value pairs)
  | .erase key => (.value ((stored? fold pairs key).map (·.2)), erase fold key pairs)
  | .get key => (.value ((stored? fold pairs key).map (·.2)), pairs)
  | .stored key => (.entry (stored? fold pairs key), pairs)
  | .contains key => (.flag (stored? fold pairs key).isSome, pairs)
  | .size => (.count pairs.length, pairs)
  | .isEmpty => (.flag pairs.isEmpty, pairs)
  | .keys => (.keys (pairs.map (·.1)), pairs)
  | .values => (.values (pairs.map (·.2)), pairs)
  | .entries => (.entries pairs, pairs)

def run (pairs : List (String × α)) : List (Operation α) → List (Reply α) × List (String × α)
  | [] => ([], pairs)
  | operation :: rest =>
    let (reply, next) := step fold pairs operation
    let (replies, last) := run next rest
    (reply :: replies, last)

/-- Where a key is in a list: nowhere, or in a first pair. -/
inductive Place (key : String) (pairs : List (String × α)) : Prop
  | nowhere (apart : ∀ pair ∈ pairs, fold pair.1 ≠ fold key)
  | first {before after : List (String × α)} {spelling : String} {old : α}
      (split : pairs = before ++ (spelling, old) :: after) (alike : fold spelling = fold key)
      (apart : ∀ pair ∈ before, fold pair.1 ≠ fold key)

variable {fold} {key : String} {pairs : List (String × α)}

theorem place (fold : String → String) (key : String) (pairs : List (String × α)) :
    Place fold key pairs := by
  cases found : stored? fold pairs key with
  | none =>
    refine .nowhere ?_
    simpa [stored?] using found
  | some pair =>
    obtain ⟨alike, before, after, split, apart⟩ := List.find?_eq_some_iff_append.1 found
    exact .first split (by simpa using alike) (by simpa using apart)

theorem insert_of_apart (value : α) (apart : ∀ pair ∈ pairs, fold pair.1 ≠ fold key) :
    insert fold key value pairs = pairs ++ [(key, value)] := by
  induction pairs with
  | nil => rfl
  | cons pair rest ih =>
    obtain ⟨here, later⟩ := List.forall_mem_cons.1 apart
    rw [insert, if_neg here, ih later, List.cons_append]

theorem insert_of_split {before after : List (String × α)} {spelling : String} {old : α}
    (value : α) (alike : fold spelling = fold key)
    (apart : ∀ pair ∈ before, fold pair.1 ≠ fold key) :
    insert fold key value (before ++ (spelling, old) :: after) =
      before ++ (spelling, value) :: after := by
  induction before with
  | nil => rw [List.nil_append, insert, if_pos alike, List.nil_append]
  | cons pair rest ih =>
    obtain ⟨here, later⟩ := List.forall_mem_cons.1 apart
    rw [List.cons_append, insert, if_neg here, ih later, List.cons_append]

theorem erase_of_apart (apart : ∀ pair ∈ pairs, fold pair.1 ≠ fold key) :
    erase fold key pairs = pairs :=
  List.eraseP_of_forall_not (by simpa using apart)

theorem erase_of_split {before after : List (String × α)} {spelling : String} {old : α}
    (alike : fold spelling = fold key) (apart : ∀ pair ∈ before, fold pair.1 ≠ fold key) :
    erase fold key (before ++ (spelling, old) :: after) = before ++ after := by
  rw [erase, List.eraseP_append_right _ (by simpa using apart),
    List.eraseP_cons_of_pos (by simpa using alike)]

end Association

namespace FoldedMap

variable {fold} (m : FoldedMap fold α)

/-- What is around an entry of a map folds apart from it. -/
theorem apart_of_entries {m : FoldedMap fold α} {before after : List (String × α)}
    {spelling : String} {old : α} (split : m.entries = before ++ (spelling, old) :: after) :
    ∀ pair ∈ before ++ after, fold pair.1 ≠ fold spelling := by
  have distinct := m.distinct
  rw [split, List.map_append, List.map_cons, List.nodup_middle, List.nodup_cons,
    ← List.map_append] at distinct
  exact fun pair member same => distinct.1 (List.mem_map.2 ⟨pair, member, same⟩)

theorem contains_of_apart {m : FoldedMap fold α} {key : String}
    (apart : ∀ pair ∈ m.entries, fold pair.1 ≠ fold key) : m.contains key = false := by
  rw [Bool.eq_false_iff, ne_eq, contains_eq_true_iff]
  simpa using apart

theorem contains_of_split {m : FoldedMap fold α} {before after : List (String × α)}
    {key spelling : String} {old : α} (split : m.entries = before ++ (spelling, old) :: after)
    (alike : fold spelling = fold key) : m.contains key = true := by
  rw [contains_eq_true_iff, split, ← alike]
  simp

theorem entries_insert (key : String) (value : α) :
    (m.insert key value).entries = Association.insert fold key value m.entries := by
  cases Association.place fold key m.entries with
  | nowhere apart =>
    rw [entries_insert_of_not_contains value (contains_of_apart apart),
      Association.insert_of_apart value apart]
  | @first before after spelling old split alike apart =>
    have others := apart_of_entries split
    rw [alike] at others
    have kept : ∀ pairs : List (String × α), pairs ⊆ before ++ after → (pairs.map fun entry =>
        if fold entry.1 = fold key then (entry.1, value) else entry) = pairs := by
      intro pairs inside
      rw [List.map_congr_left fun pair member => if_neg (others pair (inside member)),
        List.map_id']
    rw [entries_insert_of_contains value (contains_of_split split alike), split,
      Association.insert_of_split value alike apart, List.map_append, List.map_cons, if_pos alike,
      kept before (List.subset_append_left ..), kept after (List.subset_append_right ..)]

theorem entries_erase_eq (key : String) :
    (m.erase key).entries = Association.erase fold key m.entries := by
  rw [entries_erase]
  cases Association.place fold key m.entries with
  | nowhere apart =>
    rw [Association.erase_of_apart apart]
    exact List.filter_eq_self.2 fun pair member => bne_iff_ne.2 (apart pair member)
  | @first before after spelling old split alike apart =>
    have others := apart_of_entries split
    rw [alike, List.forall_mem_append] at others
    rw [split, Association.erase_of_split alike apart, List.filter_append,
      List.filter_cons_of_neg (by simpa using alike),
      List.filter_eq_self.2 fun pair member => bne_iff_ne.2 (others.1 pair member),
      List.filter_eq_self.2 fun pair member => bne_iff_ne.2 (others.2 pair member)]

theorem step_eq (operation : Operation α) :
    Association.step fold m.entries operation =
      ((m.step operation).1, (m.step operation).2.entries) := by
  have found (key : String) : Association.stored? fold m.entries key = m.stored? key :=
    (stored?_eq_find? m key).symm
  cases operation with
  | insert key value => rw [Association.step, found, step, entries_insert]; rfl
  | erase key => rw [Association.step, found, step, entries_erase_eq]; rfl
  | get key => rw [Association.step, found]; rfl
  | stored key => rw [Association.step, found]; rfl
  | contains key =>
    rw [Association.step, found, step, contains_eq_isSome_get?, get?, Option.isSome_map]
  | size | isEmpty | keys | values | entries => rfl

theorem run_eq (operations : List (Operation α)) :
    Association.run fold m.entries operations =
      ((m.run operations).1, (m.run operations).2.entries) := by
  induction operations generalizing m with
  | nil => rfl
  | cons operation rest ih => simp only [Association.run, run, step_eq, ih]

theorem entries_ofList_eq (pairs : List (String × α)) :
    (ofList pairs : FoldedMap fold α).entries = Association.ofList fold pairs := by
  suffices ∀ m : FoldedMap fold α,
      (pairs.foldl (fun m pair => m.insert pair.1 pair.2) m).entries =
        pairs.foldl (fun made pair => Association.insert fold pair.1 pair.2 made) m.entries from
    this empty
  induction pairs with
  | nil => exact fun m => rfl
  | cons pair rest ih => exact fun m => by rw [List.foldl_cons, ih, entries_insert]; rfl

/-- What an insertion and a removal do about a key: it is not there, or there are entries before and
after the one that it is in. -/
inductive Around (key : String) : Prop
  | nowhere (missing : m.get? key = none)
      (appended : ∀ value, (m.insert key value).entries = m.entries ++ [(key, value)])
      (kept : m.erase key = m)
  | within {before after : List (String × α)} {spelling : String} {old : α}
      (split : m.entries = before ++ (spelling, old) :: after) (alike : fold spelling = fold key)
      (found : m.get? key = some old)
      (replaced : ∀ value, (m.insert key value).entries = before ++ (spelling, value) :: after)
      (removed : (m.erase key).entries = before ++ after)
      (appended : ∀ other value, fold other = fold key →
        ((m.erase key).insert other value).entries = before ++ after ++ [(other, value)])

theorem around (key : String) : m.Around key := by
  cases Association.place fold key m.entries with
  | nowhere apart =>
    have missing := contains_of_apart apart
    refine .nowhere ?_ (fun value => entries_insert_of_not_contains value missing) ?_
    · rwa [contains_eq_isSome_get?, Option.isSome_eq_false_iff,
        Option.isNone_iff_eq_none] at missing
    · exact ext_entries ((m.entries_erase_eq key).trans (Association.erase_of_apart apart))
  | @first before after spelling old split alike apart =>
    have others := apart_of_entries split
    rw [alike] at others
    have removed : (m.erase key).entries = before ++ after := by
      rw [entries_erase_eq, split, Association.erase_of_split alike apart]
    refine .within split alike ?_ ?_ removed ?_
    · rw [← get?_congr alike]
      exact get?_of_mem (by simp [split])
    · intro value
      rw [entries_insert, split, Association.insert_of_split value alike apart]
    · intro other value same
      rw [entries_insert, removed, Association.insert_of_apart value (same ▸ others)]

end FoldedMap

end BlobDispatch
