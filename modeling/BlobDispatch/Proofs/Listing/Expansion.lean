import BlobDispatch.Proofs.Listing.Page

/-! Folding undone. A directory of a listing stands for the blobs whose names begin with it, and
these are the blobs whose entry it is. Putting them in its place gives the blobs under the prefix
back, each once and in the order of their names. -/

namespace BlobDispatch.Listing

/-- The blobs that an item stands for. -/
def Item.under (blobs : List Blob) : Item → List Blob
  | .blob stored => [stored]
  | .directory _ namePrefix => blobs.filter fun blob => Text.startsWith namePrefix blob.name

section Expansion

variable {target : Target} {blobs : List Blob}

private theorem mem_under_entry_iff {blob other : Blob} (stored : blob ∈ blobs) :
    other ∈ (entry target false blob).under blobs ↔
      other ∈ blobs ∧ entry target false other = entry target false blob := by
  rcases entry_shape target false blob with shape | ⟨_, directory, found, shape⟩
  · rw [shape, Item.under, List.mem_singleton]
    constructor
    · intro same
      subst same
      exact ⟨stored, shape⟩
    · intro same
      rcases entry_shape target false other with alone | ⟨_, _, _, folded⟩
      · cases alone.symm.trans same.2
        rfl
      · cases folded.symm.trans same.2
  · rw [shape, Item.under, List.mem_filter]
    apply and_congr_right
    intro _
    constructor
    · intro begins
      have inside := directory?_of_startsWith found begins
      simp [entry, inside]
    · intro same
      have begins := startsWith_name target false other
      rwa [same] at begins

theorem mem_under_iff {item : Item} (listed : item ∈ listing target false blobs) {blob : Blob} :
    blob ∈ item.under blobs ↔ blob ∈ blobs ∧ entry target false blob = item := by
  obtain ⟨_, stored, _, rfl⟩ := isEntry_iff.1 (mem_listing_iff.1 listed)
  exact mem_under_entry_iff stored

private theorem under_ascending (ascending : blobs.Pairwise fun a b => a.name < b.name)
    (item : Item) : (item.under blobs).Pairwise fun a b => a.name < b.name := by
  cases item with
  | blob stored => exact List.pairwise_singleton _ _
  | directory _ _ => exact ascending.filter _

private theorem entry_key_of_name {first second : Blob} (same : first.name = second.name) :
    (entry target false first).key = (entry target false second).key := by
  simp only [entry, same, Bool.false_eq_true, if_false]
  split
  · exact same
  · rfl

private theorem name_lt_of_key_lt {first second : Blob}
    (below : (entry target false first).key < (entry target false second).key) :
    first.name < second.name := by
  apply String.not_le.1
  intro reach
  rcases Std.le_iff_lt_or_eq.1 reach with above | same
  · rcases entry_lt_or_eq target false above with less | equal
    · exact String.lt_irrefl _ (String.lt_trans below less)
    · rw [equal] at below
      exact String.lt_irrefl _ below
  · rw [entry_key_of_name same] at below
    exact String.lt_irrefl _ below

/-- The items of a listing of one level, each replaced by the blobs that it stands for, are the
blobs under the prefix. -/
theorem flatMap_under (target : Target)
    (ascending : blobs.Pairwise fun a b => a.name < b.name) :
    (listing target false blobs).flatMap (Item.under blobs) =
      blobs.filter fun blob => Text.startsWith target.namePrefix blob.name := by
  have sorted : ((listing target false blobs).flatMap (Item.under blobs)).Pairwise
      fun a b => a.name < b.name := by
    rw [List.pairwise_flatMap]
    refine ⟨fun item _ => under_ascending ascending item, ?_⟩
    refine (listing_ascending target false ascending).imp_of_mem ?_
    intro item later listed listedLater below first inside second insideLater
    obtain ⟨_, rfl⟩ := (mem_under_iff listed).1 inside
    obtain ⟨_, rfl⟩ := (mem_under_iff listedLater).1 insideLater
    exact name_lt_of_key_lt below
  apply eq_of_ascending sorted (ascending.filter _)
  intro blob
  rw [List.mem_flatMap, List.mem_filter]
  constructor
  · intro shown
    obtain ⟨item, listed, inside⟩ := shown
    obtain ⟨stored, rfl⟩ := (mem_under_iff listed).1 inside
    have begins := startsWith_key_of_mem_listing listed
    exact ⟨stored, Text.startsWith_trans begins (startsWith_name target false blob)⟩
  · intro stored
    have listed : entry target false blob ∈ listing target false blobs :=
      mem_listing_iff.2 (isEntry_iff.2 ⟨blob, stored.1, stored.2, rfl⟩)
    exact ⟨_, listed, (mem_under_iff listed).2 ⟨stored.1, rfl⟩⟩

/-- A directory of a listing is deeper than the prefix, ends in a separator and is not empty. -/
theorem directory_of_mem_listing {container namePrefix : String}
    (listed : .directory container namePrefix ∈ listing target false blobs) :
    container = target.container ∧
      (∃ level, namePrefix.toList = target.namePrefix.toList ++ level ++ ['/']) ∧
      ∃ blob ∈ blobs, Text.startsWith namePrefix blob.name = true := by
  cases mem_listing_iff.1 listed with
  | @directory blob level deeper _ stored under _ =>
    refine ⟨rfl, ⟨level, String.toList_ofList⟩, blob, stored, Text.startsWith_iff.2 ⟨deeper, ?_⟩⟩
    rw [String.toList_ofList, under]
    simp

end Expansion

end BlobDispatch.Listing
