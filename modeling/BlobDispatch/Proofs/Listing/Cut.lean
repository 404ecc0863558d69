import BlobDispatch.Proofs.Listing.Page

/-! A list of items cut into pages: all of a page's length but the last, and an empty page only
where there are no items. A page either shows all that is left and has no next page, or is full and
names its last key, above which the rest is what is left for the pages that follow. -/

namespace BlobDispatch.Listing

structure Cuts (pages : List Page) (items : List Item) (size : Nat) : Prop where
  whole : pages.flatMap (·.items) = items
  count : pages.length = max 1 ((items.length + size - 1) / size)
  full : ∀ page ∈ pages.dropLast, page.items.length = size

theorem Cuts.length_le {pages : List Page} {items : List Item} {size : Nat}
    (cut : Cuts pages items size) (positive : 0 < size) : pages.length ≤ items.length + 1 := by
  have bound : (items.length + size - 1) / size ≤ items.length := by
    apply Nat.le_of_lt_succ
    apply Nat.div_lt_of_lt_mul
    rw [Nat.mul_succ]
    have scaled := Nat.le_mul_of_pos_left items.length positive
    omega
  rw [cut.count]
  omega

theorem Cuts.blobs_eq {pages : List Page} {items : List Item} {size : Nat}
    (cut : Cuts pages items size) : pages.flatMap Page.blobs = items.filterMap Item.blob? := by
  rw [← cut.whole, List.filterMap_flatMap]
  rfl

theorem cuts_last {items : List Item} {size : Nat} (fits : items.length ≤ size)
    (next : Option Cursor) : Cuts [⟨items, next⟩] items size := by
  refine ⟨by simp, ?_, by simp⟩
  have few : (items.length + size - 1) / size ≤ 1 := by
    rcases Nat.eq_zero_or_pos size with rfl | positive
    · simp
    · have bound := Nat.div_lt_of_lt_mul (show items.length + size - 1 < size * 2 by omega)
      omega
  simp only [List.length_singleton]
  omega

theorem cuts_more {pages : List Page} {shown rest : List Item} {last : Item} {size : Nat}
    (next : Option Cursor) (filled : shown.length + 1 = size) (more : rest ≠ [])
    (later : Cuts pages rest size) :
    Cuts (⟨shown ++ [last], next⟩ :: pages) (shown ++ last :: rest) size := by
  have left : 0 < rest.length := List.length_pos_iff.2 more
  have step : ((shown ++ last :: rest).length + size - 1) / size =
      (rest.length + size - 1) / size + 1 := by
    rw [← Nat.add_div_right _ (show 0 < size by omega)]
    congr 1
    simp only [List.length_append, List.length_cons]
    omega
  have another : 1 ≤ (rest.length + size - 1) / size :=
    (Nat.one_le_div_iff (by omega)).2 (by omega)
  refine ⟨?_, ?_, ?_⟩
  · simp [later.whole]
  · rw [List.length_cons, later.count, step]
    omega
  · intro page member
    cases pages with
    | nil => cases member
    | cons following rest =>
      rw [List.dropLast_cons_cons, List.mem_cons] at member
      rcases member with rfl | inside
      · simpa using filled
      · exact later.full page inside

/-- A page of no length is empty and has no next page, whatever is left. -/
theorem firstPage_zero (query : Query) (items : List Item) :
    firstPage query items 0 = ⟨[], none⟩ := by
  cases items <;> rfl

/-- A page of a positive length shows all that is left, or is full and followed by another. -/
theorem firstPage_cases (query : Query) (items : List Item) {size : Nat} (positive : 0 < size) :
    (items.length ≤ size ∧ firstPage query items size = ⟨items, none⟩) ∨
      ∃ shown last rest, items = shown ++ last :: rest ∧ shown.length + 1 = size ∧ rest ≠ [] ∧
        firstPage query items size = ⟨shown ++ [last], some ⟨query, last.key⟩⟩ := by
  by_cases fits : items.length ≤ size
  · left
    refine ⟨fits, ?_⟩
    rw [firstPage, List.take_of_length_le fits, List.drop_of_length_le fits]
  · right
    have filled : (items.take size).length = size := List.length_take_of_le (by omega)
    have shownSome : items.take size ≠ [] := by
      intro empty
      rw [empty] at filled
      simp at filled
      omega
    have more : items.drop size ≠ [] := by
      intro empty
      have left := congrArg List.length empty
      simp at left
      omega
    obtain ⟨next, others, dropped⟩ := List.exists_cons_of_ne_nil more
    have split := List.dropLast_concat_getLast shownSome
    refine ⟨(items.take size).dropLast, (items.take size).getLast shownSome, items.drop size, ?_,
      ?_, more, ?_⟩
    · have whole := List.take_append_drop size items
      rw [← split, List.append_assoc, List.singleton_append] at whole
      exact whole.symm
    · rw [List.length_dropLast, filled]
      omega
    · rw [split, firstPage, dropped, List.getLast?_eq_some_getLast shownSome]

theorem next_firstPage_of_lt (query : Query) {items : List Item} {size : Nat} (positive : 0 < size)
    (more : size < items.length) : ∃ last, (firstPage query items size).items.getLast? = some last ∧
      (firstPage query items size).next = some ⟨query, last.key⟩ := by
  rcases firstPage_cases query items positive with
    ⟨fits, _⟩ | ⟨shown, last, rest, _, _, _, shape⟩
  · exact absurd more (Nat.not_lt.2 fits)
  · rw [shape]
    exact ⟨last, by simp, rfl⟩

theorem next_firstPage_of_le (query : Query) {items : List Item} {size : Nat}
    (fits : items.length ≤ size) : (firstPage query items size).next = none := by
  rw [firstPage, List.drop_of_length_le fits]

/-- After a full page, what is left is what comes after its last item. -/
theorem remaining_after {items shown rest : List Item} {last : Item} {after : Option String}
    (ascending : items.Pairwise fun a b => a.key < b.key)
    (left : remaining items after = shown ++ last :: rest) :
    remaining items (some last.key) = rest := by
  have narrowed : remaining items (some last.key) =
      (remaining items after).filter fun item => last.key < item.key := by
    cases after with
    | none => rfl
    | some key =>
      have beyond : key < last.key := by
        have member : last ∈ remaining items (some key) := by simp [left]
        exact (mem_remaining_iff.1 member).2 key rfl
      simp only [remaining, List.filter_filter]
      apply List.filter_congr
      intro item _
      by_cases above : last.key < item.key
      · simp [above, String.lt_trans beyond above]
      · simp [above]
  have sorted : (shown ++ last :: rest).Pairwise fun a b => a.key < b.key := by
    rw [← left]
    exact remaining_ascending after ascending
  obtain ⟨_, tail, before⟩ := List.pairwise_append.1 sorted
  obtain ⟨above, _⟩ := List.pairwise_cons.1 tail
  have hidden : shown.filter (fun item => last.key < item.key) = [] := by
    apply List.filter_eq_nil_iff.2
    intro item member
    have below := before item member last List.mem_cons_self
    intro above
    exact String.lt_irrefl _ (String.lt_trans below (of_decide_eq_true above))
  have kept : rest.filter (fun item => last.key < item.key) = rest := by
    apply List.filter_eq_self.2
    intro item member
    simpa using above item member
  rw [narrowed, left, List.filter_append, hidden, List.filter_cons_of_neg (by simp), kept]
  rfl

end BlobDispatch.Listing
