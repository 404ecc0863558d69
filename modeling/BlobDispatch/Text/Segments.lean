/-! Cutting a text at every occurrence of one character. A text with `n` such characters has
`n + 1` segments, some of them possibly empty, and joining them gives the text back. -/

namespace BlobDispatch.Text

/-- The segments of a text between the occurrences of `mark`. -/
def segments (mark : Char) : List Char → List (List Char)
  | [] => [[]]
  | c :: rest =>
    if c = mark then [] :: segments mark rest
    else match segments mark rest with
      | [] => [[c]]
      | first :: more => (c :: first) :: more

/-- The text before the first `mark` and the text after it, if there is one. -/
def cut? (mark : Char) : List Char → Option (List Char × List Char)
  | [] => none
  | c :: rest =>
    if c = mark then some ([], rest)
    else (cut? mark rest).map fun (before, after) => (c :: before, after)

/-- What follows `lead` in a text that begins with it. -/
def stripLead? : (lead text : List Char) → Option (List Char)
  | [], text => some text
  | _ :: _, [] => none
  | l :: lead, c :: text => if l = c then stripLead? lead text else none

/-- Whether a text begins with `lead`. -/
def startsWith (lead text : String) : Bool := lead.toList.isPrefixOf text.toList

theorem segments_ne_nil (mark : Char) (text : List Char) : segments mark text ≠ [] := by
  cases text with
  | nil => simp [segments]
  | cons c rest => simp only [segments]; split <;> (try split) <;> simp

/-- Joining the segments gives the text back. -/
theorem intercalate_segments (mark : Char) (text : List Char) :
    [mark].intercalate (segments mark text) = text := by
  induction text with
  | nil => rfl
  | cons c rest ih =>
    rw [segments]
    obtain ⟨first, more, split⟩ := List.exists_cons_of_ne_nil (segments_ne_nil mark rest)
    rw [split] at ih ⊢
    by_cases same : c = mark
    · subst same; simp only [↓reduceIte]; rw [← ih]; cases more <;> rfl
    · simp only [same, ↓reduceIte]; rw [← ih]; cases more <;> rfl

theorem not_mem_of_mem_segments {mark : Char} {text segment : List Char}
    (member : segment ∈ segments mark text) : mark ∉ segment := by
  induction text generalizing segment with
  | nil => simp [segments] at member; simp [member]
  | cons c rest ih =>
    rw [segments] at member
    obtain ⟨first, more, split⟩ := List.exists_cons_of_ne_nil (segments_ne_nil mark rest)
    rw [split] at member ih
    by_cases same : c = mark
    · simp only [same, ↓reduceIte, List.mem_cons] at member
      rcases member with rfl | inside
      · simp
      · exact ih (by simpa using inside)
    · simp only [same, ↓reduceIte, List.mem_cons] at member
      rcases member with rfl | inside
      · have clean : mark ∉ first := ih (by simp)
        simp [clean, Ne.symm same]
      · exact ih (by simp [inside])

theorem cut?_eq_some_iff {mark : Char} {text before after : List Char} :
    cut? mark text = some (before, after) ↔ text = before ++ mark :: after ∧ mark ∉ before := by
  induction text generalizing before with
  | nil => simp [cut?]
  | cons c rest ih =>
    rw [cut?]
    by_cases same : c = mark
    · subst same
      cases before with
      | nil => simp
      | cons b bs =>
        simp only [↓reduceIte, List.cons_append, Option.some.injEq, Prod.mk.injEq, List.cons.injEq,
          List.mem_cons, not_or]
        constructor
        · simp
        · rintro ⟨⟨rfl, _⟩, apart, _⟩; exact absurd rfl apart
    · cases before with
      | nil => simp [same]
      | cons b bs =>
        simp only [same, ↓reduceIte, Option.map_eq_some_iff, Prod.exists, Prod.mk.injEq,
          List.cons.injEq, List.cons_append, List.mem_cons, not_or]
        constructor
        · rintro ⟨b', a', found, ⟨rfl, rfl⟩, rfl⟩
          obtain ⟨rfl, clean⟩ := ih.1 found
          exact ⟨⟨rfl, rfl⟩, Ne.symm same, clean⟩
        · rintro ⟨⟨rfl, rfl⟩, _, clean⟩
          exact ⟨bs, after, ih.2 ⟨rfl, clean⟩, ⟨rfl, rfl⟩, rfl⟩

theorem stripLead?_eq_some_iff {lead text rest : List Char} :
    stripLead? lead text = some rest ↔ text = lead ++ rest := by
  induction lead generalizing text with
  | nil => simp [stripLead?]
  | cons l lead ih =>
    cases text with
    | nil => simp [stripLead?]
    | cons c text =>
      rw [stripLead?]
      by_cases same : l = c
      · simp [same, ih]
      · simp [same, Ne.symm same]

end BlobDispatch.Text
