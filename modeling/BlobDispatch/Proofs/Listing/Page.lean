import BlobDispatch.Proofs.Listing.Fold
import BlobDispatch.Proofs.NameTable

/-! Pages as cuts of the full listing. The listing of a target ascends and holds the entries of
`IsEntry`, each once. A page that resumes after a key reads only the blobs above that key, and yet
shows the first items of what the listing has above it. -/

namespace BlobDispatch.Listing

/-- The full listing of a target over the blobs of its container. -/
def listing (target : Target) (flat : Bool) (blobs : List Blob) : List Item :=
  fold target flat none (blobs.filter fun blob => Text.startsWith target.namePrefix blob.name)

theorem mem_listing_iff {target : Target} {flat : Bool} {blobs : List Blob} {item : Item} :
    item ∈ listing target flat blobs ↔ IsEntry target flat blobs item := by
  rw [isEntry_iff, listing, mem_fold_iff]
  simp only [List.mem_filter, and_assoc]

theorem listing_ascending (target : Target) (flat : Bool) {blobs : List Blob}
    (ascending : blobs.Pairwise fun a b => a.name < b.name) :
    (listing target flat blobs).Pairwise fun a b => a.key < b.key :=
  fold_ascending (ascending.filter _)

theorem startsWith_key_of_mem_listing {target : Target} {flat : Bool} {blobs : List Blob}
    {item : Item} (member : item ∈ listing target flat blobs) :
    Text.startsWith target.namePrefix item.key = true := by
  obtain ⟨blob, _, begins, rfl⟩ := isEntry_iff.1 (mem_listing_iff.1 member)
  exact startsWith_entry_key flat begins

theorem listing_length_le (target : Target) (flat : Bool) (blobs : List Blob) :
    (listing target flat blobs).length ≤ blobs.length :=
  Nat.le_trans (fold_length_le target flat none _) (List.length_filter_le _ _)

theorem blobs_listing_flat (target : Target) (blobs : List Blob) :
    (listing target true blobs).filterMap Item.blob? =
      blobs.filter fun blob => Text.startsWith target.namePrefix blob.name := by
  rw [listing]
  induction blobs.filter fun blob => Text.startsWith target.namePrefix blob.name with
  | nil => rfl
  | cons blob rest ih =>
    rw [fold, if_pos rfl, List.filterMap_cons, ih]
    rfl

/-- What is left of a listing after a key, or all of it before the first page. -/
def remaining (items : List Item) : Option String → List Item
  | none => items
  | some last => items.filter fun item => last < item.key

theorem mem_remaining_iff {items : List Item} {after : Option String} {item : Item} :
    item ∈ remaining items after ↔
      item ∈ items ∧ ∀ last, after = some last → last < item.key := by
  cases after with
  | none => simp [remaining]
  | some last => simp [remaining]

theorem remaining_ascending {items : List Item} (after : Option String)
    (ascending : items.Pairwise fun a b => a.key < b.key) :
    (remaining items after).Pairwise fun a b => a.key < b.key := by
  cases after with
  | none => exact ascending
  | some last => exact ascending.filter _

def firstPage (query : Query) (items : List Item) (size : Nat) : Page :=
  { items := items.take size
    next := match items.drop size, (items.take size).getLast? with
      | _ :: _, some last => some ⟨query, last.key⟩
      | _, _ => none }

private theorem dropWhile_eq_filter {items : List Item} {last : String}
    (ascending : items.Pairwise fun a b => a.key < b.key) :
    (items.dropWhile fun item => item.key ≤ last) = items.filter fun item => last < item.key := by
  induction items with
  | nil => rfl
  | cons item rest ih =>
    obtain ⟨above, later⟩ := List.pairwise_cons.1 ascending
    by_cases passed : item.key ≤ last
    · have hidden : ¬ last < item.key := String.not_lt.2 passed
      rw [List.dropWhile_cons_of_pos (by simpa using passed),
        List.filter_cons_of_neg (by simpa using hidden), ih later]
    · have beyond : last < item.key := String.not_le.1 passed
      rw [List.dropWhile_cons_of_neg (by simpa using passed)]
      symm
      apply List.filter_eq_self.2
      intro other member
      rcases List.mem_cons.1 member with rfl | inside
      · simpa using beyond
      · simpa using String.lt_trans beyond (above other inside)

private theorem takeWhile_eq_filter {namePrefix : String} {blobs : List Blob}
    (ascending : blobs.Pairwise fun a b => a.name < b.name)
    (low : ∀ blob ∈ blobs, namePrefix ≤ blob.name) :
    (blobs.takeWhile fun blob => Text.startsWith namePrefix blob.name) =
      blobs.filter fun blob => Text.startsWith namePrefix blob.name := by
  induction blobs with
  | nil => rfl
  | cons blob rest ih =>
    obtain ⟨above, later⟩ := List.pairwise_cons.1 ascending
    by_cases begins : Text.startsWith namePrefix blob.name = true
    · have narrowed := ih later fun b member => low b (List.mem_cons_of_mem _ member)
      simp only [List.takeWhile_cons, List.filter_cons, begins, ↓reduceIte, narrowed]
    · simp only [List.takeWhile_cons, List.filter_cons, begins]
      symm
      apply List.filter_eq_nil_iff.2
      intro other member inside
      have between := Std.le_of_lt (above other member)
      exact begins (Text.startsWith_of_between (low blob List.mem_cons_self) between inside)

/-- A first page reads the blobs from the prefix on and shows the beginning of the listing. -/
theorem page_first {query : Query} {target : Target} {blobs : List Blob}
    (ascending : blobs.Pairwise fun a b => a.name < b.name) (size : Nat) :
    page query target
        ((blobs.filter fun blob => target.namePrefix ≤ blob.name).takeWhile fun blob =>
          Text.startsWith target.namePrefix blob.name) none size =
      firstPage query (listing target query.flat blobs) size := by
  have narrowed : ((blobs.filter fun blob => target.namePrefix ≤ blob.name).takeWhile fun blob =>
      Text.startsWith target.namePrefix blob.name) =
        blobs.filter fun blob => Text.startsWith target.namePrefix blob.name := by
    rw [takeWhile_eq_filter (ascending.filter _) (by simp), List.filter_filter]
    apply List.filter_congr
    intro blob _
    cases begins : Text.startsWith target.namePrefix blob.name with
    | true => simpa using Text.le_of_startsWith begins
    | false => rfl
  have kept (items : List Item) : items.dropWhile (fun _ => false) = items := by
    cases items <;> rfl
  rw [narrowed]
  exact congrArg (firstPage query · size) (kept _)

/-- A later page reads the blobs above the last key and shows the beginning of what the listing has
above it: a directory above the key has all its blobs above it, and one that is not is dropped. -/
theorem page_after {query : Query} {target : Target} {blobs : List Blob} {last : String}
    (ascending : blobs.Pairwise fun a b => a.name < b.name)
    (begins : Text.startsWith target.namePrefix last = true) (size : Nat) :
    page query target
        ((blobs.filter fun blob => last < blob.name).takeWhile fun blob =>
          Text.startsWith target.namePrefix blob.name) (some last) size =
      firstPage query ((listing target query.flat blobs).filter fun item => last < item.key)
        size := by
  have low : ∀ blob ∈ blobs.filter fun blob => last < blob.name,
      target.namePrefix ≤ blob.name := by
    intro blob member
    have beyond : last < blob.name := by simpa using (List.mem_filter.1 member).2
    exact Std.le_trans (Text.le_of_startsWith begins) (Std.le_of_lt beyond)
  have sorted : ((blobs.filter fun blob => last < blob.name).filter fun blob =>
      Text.startsWith target.namePrefix blob.name).Pairwise fun a b => a.name < b.name :=
    (ascending.filter _).filter _
  have items : ((fold target query.flat none ((blobs.filter fun blob => last < blob.name).filter
        fun blob => Text.startsWith target.namePrefix blob.name)).dropWhile
          fun item => item.key ≤ last) =
      (listing target query.flat blobs).filter fun item => last < item.key := by
    rw [dropWhile_eq_filter (fold_ascending sorted)]
    apply eq_of_ascending ((fold_ascending sorted).filter _)
      ((listing_ascending target query.flat ascending).filter _)
    intro item
    simp only [listing, List.mem_filter, mem_fold_iff, decide_eq_true_eq]
    constructor
    · intro resumed
      obtain ⟨⟨blob, ⟨⟨stored, _⟩, inside⟩, rfl⟩, beyond⟩ := resumed
      exact ⟨⟨blob, ⟨stored, inside⟩, rfl⟩, beyond⟩
    · intro left
      obtain ⟨⟨blob, ⟨stored, inside⟩, rfl⟩, beyond⟩ := left
      have above := Std.lt_of_lt_of_le beyond (entry_key_le target query.flat blob)
      exact ⟨⟨blob, ⟨⟨stored, above⟩, inside⟩, rfl⟩, beyond⟩
  rw [takeWhile_eq_filter (ascending.filter _) low]
  exact congrArg (firstPage query · size) items

end BlobDispatch.Listing
