import BlobDispatch.Text.Segments

/-! Segments of joined texts. Cutting at a mark undoes joining with it as long as the joined texts
are free of the mark. -/

namespace BlobDispatch.Text

theorem segments_eq_splitOn (mark : Char) (text : List Char) :
    segments mark text = text.splitOn mark := by
  induction text with
  | nil => rfl
  | cons c rest ih =>
    rw [segments, ih, List.splitOn_cons_eq_if_modifyHead]
    by_cases same : c = mark
    · rw [if_pos same, if_pos (by simpa using same)]
    · obtain ⟨first, more, split⟩ :=
        List.exists_cons_of_ne_nil (List.splitOn_ne_nil mark rest)
      rw [if_neg same, if_neg (by simpa using same), split]
      rfl

theorem segments_intercalate {mark : Char} {texts : List (List Char)}
    (free : ∀ text ∈ texts, mark ∉ text) (several : texts ≠ []) :
    segments mark ([mark].intercalate texts) = texts := by
  rw [segments_eq_splitOn]
  exact List.splitOn_intercalate mark free several

theorem cut?_eq_none_iff {mark : Char} {text : List Char} :
    cut? mark text = none ↔ mark ∉ text := by
  induction text with
  | nil => simp [cut?]
  | cons c rest ih =>
    rw [cut?]
    by_cases same : c = mark
    · simp [same]
    · simp [same, Ne.symm same, ih]

theorem cut?_of_mem {mark : Char} {text : List Char} (inside : mark ∈ text) :
    cut? mark text = some (text.takeWhile (· ≠ mark), (text.dropWhile (· ≠ mark)).tail) := by
  obtain ⟨before, after, rfl, free⟩ := List.eq_append_cons_of_mem inside
  have clean : ∀ c ∈ before, decide (c ≠ mark) = true := by
    intro c member
    simpa using ne_of_mem_of_not_mem member free
  rw [List.takeWhile_append_of_pos clean, List.dropWhile_append_of_pos clean, cut?_eq_some_iff]
  simp [free]

theorem subset_of_mem_segments {mark : Char} {text segment : List Char}
    (member : segment ∈ segments mark text) : segment ⊆ text := by
  have joined (texts : List (List Char)) (inside : segment ∈ texts) :
      segment ⊆ [mark].intercalate texts := by
    induction texts with
    | nil => cases inside
    | cons first rest ih =>
      cases rest with
      | nil =>
        rw [List.mem_singleton.1 inside, List.intercalate_singleton]
        exact List.Subset.refl first
      | cons second rest =>
        rw [List.intercalate_cons_cons]
        rcases List.mem_cons.1 inside with rfl | later
        · exact List.subset_append_of_subset_left _ (List.subset_append_left _ _)
        · exact List.subset_append_of_subset_right _ (ih later)
  rw [← intercalate_segments mark text]
  exact joined _ member

end BlobDispatch.Text
