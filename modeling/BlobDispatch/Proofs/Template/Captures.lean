import BlobDispatch.Template.Match

/-! The search for captures. It finds a way to cut the texts whenever there is one, and of all the
ways it finds the one in which the lengths of the captures, read in order, are the least. -/

namespace BlobDispatch

/-- The ways to cut a text after a component: its literals as they are and a text that is not empty
for each parameter. -/
inductive Component.Fits : Component → List (List Char) → List Char → Prop
  | nil : Fits [] [] []
  | literal {lead : String} {rest : Component} {values : List (List Char)} {text : List Char}
      (fits : Fits rest values text) :
      Fits (.literal lead :: rest) values (lead.toList ++ text)
  | parameter {name : String} {rest : Component} {values : List (List Char)}
      {taken text : List Char} (apart : taken ≠ []) (fits : Fits rest values text) :
      Fits (.parameter name :: rest) (taken :: values) (taken ++ text)

/-- The ways to cut as many texts as there are components. -/
inductive FitsAll : List Component → List (List Char) → List (List Char) → Prop
  | nil : FitsAll [] [] []
  | cons {component : Component} {components : List Component}
      {first others texts : List (List Char)} {text : List Char}
      (fits : component.Fits first text) (rest : FitsAll components others texts) :
      FitsAll (component :: components) (first ++ others) (text :: texts)

private theorem append_lt_append {a b : List Nat} (less : a < b) (level : a.length = b.length)
    (c d : List Nat) : a ++ c < b ++ d := by
  induction a generalizing b with
  | nil =>
    rw [List.length_eq_zero_iff.1 level.symm] at less
    exact absurd less (List.lt_irrefl [])
  | cons x a ih =>
    obtain ⟨y, b, rfl⟩ := List.exists_cons_of_length_eq_add_one level.symm
    rw [List.cons_append, List.cons_append, List.cons_lt_cons_iff]
    rcases List.cons_lt_cons_iff.1 less with smaller | ⟨same, smaller⟩
    · exact .inl smaller
    · exact .inr ⟨same, ih smaller (Nat.succ.inj level)⟩

/-- Two lists of captures, of which the first is the same or has the lesser lengths. -/
def NoLonger (found values : List (List Char)) : Prop :=
  found = values ∨ found.map List.length < values.map List.length

namespace NoLonger

theorem refl (values : List (List Char)) : NoLonger values values := .inl rfl

theorem cons {found values : List (List Char)} (taken : List Char)
    (least : NoLonger found values) : NoLonger (taken :: found) (taken :: values) := by
  rcases least with rfl | fewer
  · exact .refl _
  · exact .inr (.cons fewer)

theorem append {found values others rest : List (List Char)} (least : NoLonger found values)
    (level : found.length = values.length) (later : NoLonger others rest) :
    NoLonger (found ++ others) (values ++ rest) := by
  rcases least with rfl | fewer
  · rcases later with rfl | fewer
    · exact .refl _
    · right
      rw [List.map_append, List.map_append]
      exact List.append_left_lt fewer
  · right
    rw [List.map_append, List.map_append]
    exact append_lt_append fewer (by simpa using level) _ _

end NoLonger

section Split

variable {β : Type} {fits : List Char → Option β}

theorem split_of_shortestSplit {text taken : List Char} {found : β}
    (split : shortestSplit fits text = some (taken, found)) :
    taken ≠ [] ∧ ∃ rest, text = taken ++ rest ∧ fits rest = some found := by
  induction text generalizing taken with
  | nil => cases split
  | cons c text ih =>
    unfold shortestSplit at split
    split at split
    · rename_i fit
      cases split
      exact ⟨List.cons_ne_nil _ _, text, rfl, fit⟩
    · obtain ⟨⟨shorter, _⟩, inner, same⟩ := Option.map_eq_some_iff.1 split
      cases same
      obtain ⟨_, rest, rfl, fit⟩ := ih inner
      exact ⟨List.cons_ne_nil _ _, rest, rfl, fit⟩

/-- A split whose remainder fits is found, or else a shorter one. -/
theorem shortestSplit_of_split {taken rest : List Char} {found : β} (apart : taken ≠ [])
    (fit : fits rest = some found) :
    shortestSplit fits (taken ++ rest) = some (taken, found) ∨
      ∃ shorter other, shortestSplit fits (taken ++ rest) = some (shorter, other) ∧
        shorter.length < taken.length := by
  induction taken with
  | nil => exact absurd rfl apart
  | cons c taken ih =>
    rw [List.cons_append, shortestSplit]
    cases taken with
    | nil =>
      left
      rw [List.nil_append, fit]
    | cons d taken =>
      -- The search looks after the first character before it looks any further.
      cases early : fits (d :: taken ++ rest) with
      | some other => exact .inr ⟨[c], other, rfl, by simp⟩
      | none =>
        rcases ih (List.cons_ne_nil _ _) with exactly | ⟨shorter, other, inner, fewer⟩
        · left
          rw [exactly]
          rfl
        · right
          refine ⟨c :: shorter, other, ?_, by simpa using fewer⟩
          rw [inner]
          rfl

end Split

namespace Component

theorem fits_of_captures {component : Component} {text : List Char} {values : List (List Char)}
    (found : component.captures text = some values) : component.Fits values text := by
  induction component generalizing text values with
  | nil =>
    unfold captures at found
    split at found
    · rename_i ended
      cases found
      rw [ended]
      exact .nil
    · cases found
  | cons piece rest ih =>
    cases piece with
    | literal lead =>
      obtain ⟨remaining, stripped, inner⟩ := Option.bind_eq_some_iff.1 found
      rw [Text.stripLead?_eq_some_iff.1 stripped]
      exact .literal (ih inner)
    | parameter name =>
      obtain ⟨⟨taken, others⟩, split, same⟩ := Option.map_eq_some_iff.1 found
      obtain ⟨apart, remaining, rfl, inner⟩ := split_of_shortestSplit split
      cases same
      exact .parameter apart (ih inner)

/-- A text that fits in some way has captures, and they are no longer than the texts of that way. -/
theorem captures_of_fits {component : Component} {text : List Char} {values : List (List Char)}
    (fits : component.Fits values text) :
    ∃ found, component.captures text = some found ∧ NoLonger found values := by
  induction fits with
  | nil => exact ⟨[], rfl, .refl _⟩
  | @literal lead rest values text fits ih =>
    obtain ⟨found, captured, least⟩ := ih
    refine ⟨found, ?_, least⟩
    rw [captures, Text.stripLead?_eq_some_iff.2 rfl, Option.bind_some, captured]
  | @parameter name rest values taken text apart fits ih =>
    obtain ⟨found, captured, least⟩ := ih
    -- A shorter first capture settles the comparison, whatever the later ones are.
    rcases shortestSplit_of_split apart captured with exactly | ⟨shorter, other, inner, fewer⟩
    · refine ⟨taken :: found, ?_, least.cons taken⟩
      rw [captures, exactly]
      rfl
    · refine ⟨shorter :: other, ?_, .inr (.rel fewer)⟩
      rw [captures, inner]
      rfl

theorem Fits.length_eq {component : Component} {text : List Char} {values : List (List Char)}
    (fits : component.Fits values text) : values.length = component.names.length := by
  induction fits with
  | nil => rfl
  | literal _ ih => exact ih
  | parameter _ _ ih => simpa [names] using ih

end Component

theorem FitsAll.length_eq {components : List Component} {texts values : List (List Char)}
    (fits : FitsAll components values texts) :
    values.length = (components.flatMap Component.names).length := by
  induction fits with
  | nil => rfl
  | cons fits _ ih =>
    rw [List.length_append, List.flatMap_cons, List.length_append, ih, fits.length_eq]

theorem fitsAll_of_captureAll {components : List Component} {texts values : List (List Char)}
    (found : captureAll components texts = some values) : FitsAll components values texts := by
  induction components generalizing texts values with
  | nil =>
    cases texts with
    | nil =>
      cases found
      exact .nil
    | cons text texts => cases found
  | cons component components ih =>
    cases texts with
    | nil => cases found
    | cons text texts =>
      obtain ⟨first, captured, rest⟩ := Option.bind_eq_some_iff.1 found
      obtain ⟨others, inner, same⟩ := Option.bind_eq_some_iff.1 rest
      cases same
      exact .cons (Component.fits_of_captures captured) (ih inner)

theorem captureAll_of_fitsAll {components : List Component} {texts values : List (List Char)}
    (fits : FitsAll components values texts) :
    ∃ found, captureAll components texts = some found ∧ NoLonger found values := by
  induction fits with
  | nil => exact ⟨[], rfl, .refl _⟩
  | cons fits _ ih =>
    obtain ⟨found, captured, least⟩ := Component.captures_of_fits fits
    obtain ⟨others, inner, later⟩ := ih
    have level := (Component.fits_of_captures captured).length_eq.trans fits.length_eq.symm
    refine ⟨found ++ others, ?_, least.append level later⟩
    rw [captureAll, captured, inner]
    rfl

end BlobDispatch
