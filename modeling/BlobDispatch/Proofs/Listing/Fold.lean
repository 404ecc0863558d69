import BlobDispatch.Listing.Page
import BlobDispatch.Proofs.Text.ByteOrder
import BlobDispatch.Proofs.Text.Segments

/-! What a fold of blobs gives: the entries of the blobs, each once and in ascending order of key.
A blob's entry is the blob itself or the directory that it lies in. All names of a directory lie
together and come after the directory's own key, so entries ascend with the names of their blobs
and a directory is given at one place only. -/

namespace BlobDispatch.Listing

/-- A directory lies below a prefix and ends at the first separator after it. -/
theorem directory?_eq_some_iff {namePrefix name directory : String} :
    directory? namePrefix name = some directory ↔ ∃ level deeper,
      name.toList = namePrefix.toList ++ level ++ '/' :: deeper ∧ '/' ∉ level ∧
        directory = String.ofList (namePrefix.toList ++ level ++ ['/']) := by
  simp only [directory?, Option.bind_eq_bind, Option.bind_eq_some_iff,
    Text.stripLead?_eq_some_iff, Option.pure_def, Option.some.injEq]
  constructor
  · intro folded
    obtain ⟨rest, under, ⟨level, deeper⟩, found, rfl⟩ := folded
    obtain ⟨rfl, single⟩ := Text.cut?_eq_some_iff.1 found
    exact ⟨level, deeper, by rw [under, List.append_assoc], single, rfl⟩
  · intro shape
    obtain ⟨level, deeper, under, single, rfl⟩ := shape
    refine ⟨level ++ '/' :: deeper, by rw [under, List.append_assoc], (level, deeper), ?_, rfl⟩
    exact Text.cut?_eq_some_iff.2 ⟨rfl, single⟩

theorem directory?_eq_none_iff {namePrefix name : String} {rest : List Char}
    (under : name.toList = namePrefix.toList ++ rest) :
    directory? namePrefix name = none ↔ '/' ∉ rest := by
  have stripped : Text.stripLead? namePrefix.toList name.toList = some rest :=
    Text.stripLead?_eq_some_iff.2 under
  simp only [directory?, Option.bind_eq_bind, stripped, Option.bind_some, Option.pure_def,
    Option.bind_eq_none_iff, reduceCtorEq, imp_false]
  rw [← Option.eq_none_iff_forall_ne_some, Text.cut?_eq_none_iff]

/-- The item that stands for a blob in the listing of a target. -/
def entry (target : Target) (flat : Bool) (blob : Blob) : Item :=
  if flat then .blob blob
  else match directory? target.namePrefix blob.name with
    | none => .blob blob
    | some directory => .directory target.container directory

theorem isEntry_iff {target : Target} {flat : Bool} {blobs : List Blob} {item : Item} :
    IsEntry target flat blobs item ↔ ∃ blob ∈ blobs,
      Text.startsWith target.namePrefix blob.name = true ∧ entry target flat blob = item := by
  constructor
  · intro listed
    rcases listed with
      ⟨stored, under, shown⟩ | @⟨_, level, deeper, hierarchical, stored, under, single⟩
    · refine ⟨_, stored, Text.startsWith_iff.2 ⟨_, under.symm⟩, ?_⟩
      rcases shown with rfl | clean
      · rfl
      · rw [entry, (directory?_eq_none_iff under).2 clean]
        split <;> rfl
    · refine ⟨_, stored, Text.startsWith_iff.2 ⟨level ++ '/' :: deeper, ?_⟩, ?_⟩
      · rw [under, List.append_assoc]
      · rw [entry, directory?_eq_some_iff.2 ⟨_, _, under, single, rfl⟩, hierarchical]
        rfl
  · intro listed
    obtain ⟨blob, stored, begins, rfl⟩ := listed
    obtain ⟨rest, under⟩ := Text.startsWith_iff.1 begins
    cases flat with
    | true => exact .blob stored under.symm (.inl rfl)
    | false =>
      cases found : directory? target.namePrefix blob.name with
      | none =>
        have clean := (directory?_eq_none_iff under.symm).1 found
        have shape : entry target false blob = .blob blob := by simp [entry, found]
        rw [shape]
        exact .blob stored under.symm (.inr clean)
      | some directory =>
        obtain ⟨level, deeper, split, single, rfl⟩ := directory?_eq_some_iff.1 found
        have shape : entry target false blob = .directory target.container
            (String.ofList (target.namePrefix.toList ++ level ++ ['/'])) := by
          simp [entry, found]
        rw [shape]
        exact .directory rfl stored split single

theorem entry_shape (target : Target) (flat : Bool) (blob : Blob) :
    entry target flat blob = .blob blob ∨ flat = false ∧ ∃ directory,
      directory? target.namePrefix blob.name = some directory ∧
        entry target flat blob = .directory target.container directory := by
  cases flat with
  | true => exact .inl rfl
  | false =>
    cases found : directory? target.namePrefix blob.name with
    | none => exact .inl (by simp [entry, found])
    | some directory => exact .inr ⟨rfl, directory, rfl, by simp [entry, found]⟩

theorem startsWith_name (target : Target) (flat : Bool) (blob : Blob) :
    Text.startsWith (entry target flat blob).key blob.name = true := by
  rcases entry_shape target flat blob with shape | ⟨_, directory, found, shape⟩
  · rw [shape]
    exact Text.startsWith_iff.2 (List.prefix_refl _)
  · obtain ⟨level, deeper, under, _, rfl⟩ := directory?_eq_some_iff.1 found
    rw [shape]
    refine Text.startsWith_iff.2 ⟨deeper, ?_⟩
    simp [Item.key, under]

theorem entry_key_le (target : Target) (flat : Bool) (blob : Blob) :
    (entry target flat blob).key ≤ blob.name :=
  Text.le_of_startsWith (startsWith_name target flat blob)

theorem startsWith_entry_key {target : Target} (flat : Bool) {blob : Blob}
    (begins : Text.startsWith target.namePrefix blob.name = true) :
    Text.startsWith target.namePrefix (entry target flat blob).key = true := by
  rcases entry_shape target flat blob with shape | ⟨_, directory, found, shape⟩
  · rw [shape]
    exact begins
  · obtain ⟨level, deeper, _, _, rfl⟩ := directory?_eq_some_iff.1 found
    rw [shape]
    refine Text.startsWith_iff.2 ⟨level ++ ['/'], ?_⟩
    simp [Item.key]

theorem directory?_of_startsWith {namePrefix name other directory : String}
    (found : directory? namePrefix name = some directory)
    (begins : Text.startsWith directory other = true) :
    directory? namePrefix other = some directory := by
  obtain ⟨level, _, _, single, rfl⟩ := directory?_eq_some_iff.1 found
  obtain ⟨deeper, under⟩ := Text.startsWith_iff.1 begins
  refine directory?_eq_some_iff.2 ⟨level, deeper, ?_, single, rfl⟩
  rw [← under]
  simp

/-- Entries ascend with the names of their blobs, and equal keys are those of one directory. -/
theorem entry_lt_or_eq (target : Target) (flat : Bool) {first second : Blob}
    (below : first.name < second.name) :
    (entry target flat first).key < (entry target flat second).key ∨
      entry target flat first = entry target flat second := by
  have reach := entry_key_le target flat first
  rcases entry_shape target flat second with shape | ⟨hierarchical, directory, found, shape⟩
  · rw [shape]
    exact .inl (Std.lt_of_le_of_lt reach below)
  · have begins : Text.startsWith directory second.name = true := by
      have := startsWith_name target flat second
      rwa [shape] at this
    by_cases inside : directory ≤ first.name
    · have shared := Text.startsWith_of_between inside (Std.le_of_lt below) begins
      have same := directory?_of_startsWith found shared
      right
      rw [shape, entry, same, hierarchical]
      rfl
    · rw [shape]
      exact .inl (Std.lt_of_le_of_lt reach (String.not_le.1 inside))

private theorem blob_lt_entry {target : Target} {flat : Bool} {first second : Blob}
    (shape : entry target flat first = .blob first) (below : first.name < second.name) :
    first.name < (entry target flat second).key := by
  have order := entry_lt_or_eq target flat below
  rw [shape] at order
  rcases order with less | same
  · exact less
  · rcases entry_shape target flat second with other | ⟨_, _, _, other⟩
    · rw [other] at same
      cases same
      exact absurd below (String.lt_irrefl _)
    · rw [other] at same
      cases same

private theorem fold_cons_blob {target : Target} {flat : Bool} {blob : Blob}
    (shape : entry target flat blob = .blob blob) (current : Option String) (rest : List Blob) :
    fold target flat current (blob :: rest) = .blob blob :: fold target flat current rest := by
  rw [fold]
  cases flat with
  | true => rfl
  | false =>
    cases found : directory? target.namePrefix blob.name with
    | none => rfl
    | some directory => simp [entry, found] at shape

private theorem fold_cons_directory {target : Target} {blob : Blob} {directory : String}
    (found : directory? target.namePrefix blob.name = some directory) (current : Option String)
    (rest : List Blob) : fold target false current (blob :: rest) =
      if current = some directory then fold target false current rest
      else .directory target.container directory :: fold target false (some directory) rest := by
  rw [fold, found]
  rfl

private theorem of_mem_fold {target : Target} {flat : Bool} {current : Option String}
    {blobs : List Blob} {item : Item} (member : item ∈ fold target flat current blobs) :
    ∃ blob ∈ blobs, entry target flat blob = item := by
  induction blobs generalizing current with
  | nil => cases member
  | cons blob rest ih =>
    have later (other : Option String) (inside : item ∈ fold target flat other rest) :
        ∃ b ∈ blob :: rest, entry target flat b = item := by
      obtain ⟨b, present, same⟩ := ih inside
      exact ⟨b, List.mem_cons_of_mem _ present, same⟩
    rcases entry_shape target flat blob with shape | ⟨rfl, directory, found, shape⟩
    · rw [fold_cons_blob shape] at member
      rcases List.mem_cons.1 member with rfl | inside
      · exact ⟨blob, List.mem_cons_self, shape⟩
      · exact later _ inside
    · rw [fold_cons_directory found] at member
      split at member
      · exact later _ member
      · rcases List.mem_cons.1 member with rfl | inside
        · exact ⟨blob, List.mem_cons_self, shape⟩
        · exact later _ inside

private theorem entry_mem_fold (target : Target) (flat : Bool) (current : Option String)
    {blobs : List Blob} {blob : Blob} (member : blob ∈ blobs) :
    entry target flat blob ∈ fold target flat current blobs ∨
      ∃ directory, current = some directory ∧
        entry target flat blob = .directory target.container directory := by
  induction blobs generalizing current with
  | nil => cases member
  | cons first rest ih =>
    rcases entry_shape target flat first with shape | ⟨rfl, directory, found, shape⟩
    · rw [fold_cons_blob shape]
      rcases List.mem_cons.1 member with rfl | inside
      · exact .inl (by simp [shape])
      · rcases ih current inside with there | given
        · exact .inl (List.mem_cons_of_mem _ there)
        · exact .inr given
    · rw [fold_cons_directory found]
      split
      · rename_i given
        rcases List.mem_cons.1 member with rfl | inside
        · exact .inr ⟨directory, given, shape⟩
        · exact ih current inside
      · rcases List.mem_cons.1 member with rfl | inside
        · exact .inl (by simp [shape])
        · rcases ih (some directory) inside with there | ⟨_, given, same⟩
          · exact .inl (List.mem_cons_of_mem _ there)
          · cases given
            exact .inl (by simp [same])

/-- The directory given last is below the items of the blobs to come, or is one of them. -/
private def Follows (target : Target) (flat : Bool) (current : Option String)
    (blobs : List Blob) : Prop :=
  ∀ directory, current = some directory → ∀ blob ∈ blobs,
    directory < (entry target flat blob).key ∨
      entry target flat blob = .directory target.container directory

private theorem follows_tail {target : Target} {flat : Bool} {current : Option String}
    {blob : Blob} {rest : List Blob} (follows : Follows target flat current (blob :: rest)) :
    Follows target flat current rest := by
  intro directory given other member
  exact follows directory given other (List.mem_cons_of_mem _ member)

private theorem follows_directory {target : Target} {blob : Blob} {directory : String}
    (shape : entry target false blob = .directory target.container directory) {rest : List Blob}
    (above : ∀ other ∈ rest, blob.name < other.name) :
    Follows target false (some directory) rest := by
  intro given same other member
  cases same
  have order := entry_lt_or_eq target false (above other member)
  rw [shape] at order
  exact order.imp id Eq.symm

private theorem lt_key_of_follows {target : Target} {flat : Bool} {blob : Blob}
    {rest : List Blob} {given : String}
    (follows : Follows target flat (some given) (blob :: rest))
    (apart : entry target flat blob ≠ .directory target.container given) :
    given < (entry target flat blob).key := by
  rcases follows given rfl blob List.mem_cons_self with less | same
  · exact less
  · exact absurd same apart

/-- A fold of ascending blobs ascends, above the directory given last. -/
private theorem fold_above {target : Target} {flat : Bool} {current : Option String}
    {blobs : List Blob} (ascending : blobs.Pairwise fun a b => a.name < b.name)
    (follows : Follows target flat current blobs) :
    (fold target flat current blobs).Pairwise (fun a b => a.key < b.key) ∧
      ∀ given, current = some given →
        ∀ item ∈ fold target flat current blobs, given < item.key := by
  induction blobs generalizing current with
  | nil => exact ⟨.nil, fun _ _ _ member => by cases member⟩
  | cons blob rest ih =>
    obtain ⟨above, later⟩ := List.pairwise_cons.1 ascending
    rcases entry_shape target flat blob with shape | ⟨rfl, directory, found, shape⟩
    · rw [fold_cons_blob shape]
      obtain ⟨sorted, beyond⟩ := ih later (follows_tail follows)
      refine ⟨List.pairwise_cons.2 ⟨?_, sorted⟩, ?_⟩
      · intro item member
        obtain ⟨other, present, rfl⟩ := of_mem_fold member
        exact blob_lt_entry shape (above other present)
      · intro given same item member
        cases same
        rcases List.mem_cons.1 member with rfl | inside
        · have less := lt_key_of_follows follows (by simp [shape])
          rwa [shape] at less
        · exact beyond given rfl item inside
    · rw [fold_cons_directory found]
      split
      · exact ih later (follows_tail follows)
      · rename_i fresh
        obtain ⟨sorted, beyond⟩ := ih later (follows_directory shape above)
        refine ⟨List.pairwise_cons.2 ⟨beyond directory rfl, sorted⟩, ?_⟩
        intro given same item member
        cases same
        have apart : entry target false blob ≠ .directory target.container given := by
          intro again
          cases shape.symm.trans again
          exact fresh rfl
        have below := lt_key_of_follows follows apart
        rw [shape] at below
        rcases List.mem_cons.1 member with rfl | inside
        · exact below
        · exact String.lt_trans below (beyond directory rfl item inside)

theorem mem_fold_iff {target : Target} {flat : Bool} {blobs : List Blob} {item : Item} :
    item ∈ fold target flat none blobs ↔ ∃ blob ∈ blobs, entry target flat blob = item := by
  constructor
  · exact of_mem_fold
  · intro listed
    obtain ⟨blob, member, rfl⟩ := listed
    rcases entry_mem_fold target flat none member with there | ⟨_, given, _⟩
    · exact there
    · cases given

theorem fold_ascending {target : Target} {flat : Bool} {blobs : List Blob}
    (ascending : blobs.Pairwise fun a b => a.name < b.name) :
    (fold target flat none blobs).Pairwise fun a b => a.key < b.key := by
  have follows : Follows target flat none blobs := by
    intro directory given
    cases given
  exact (fold_above ascending follows).1

theorem fold_length_le (target : Target) (flat : Bool) (current : Option String)
    (blobs : List Blob) : (fold target flat current blobs).length ≤ blobs.length := by
  induction blobs generalizing current with
  | nil => exact Nat.le_refl 0
  | cons blob rest ih =>
    rcases entry_shape target flat blob with shape | ⟨rfl, directory, found, _⟩
    · rw [fold_cons_blob shape]
      exact Nat.succ_le_succ (ih current)
    · rw [fold_cons_directory found]
      split
      · exact Nat.le_succ_of_le (ih current)
      · exact Nat.succ_le_succ (ih (some directory))

end BlobDispatch.Listing
