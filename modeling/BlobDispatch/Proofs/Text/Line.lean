import BlobDispatch.Text.Line

/-! The one-line form of a message, made in passes over the whole of it, is what reading it from
left to right gives. There is no break left in it. The rule of that reading is stated once more as
a relation, `Flattens`, in which a break is the longest of its spellings at a place. -/

namespace BlobDispatch.Text

/-- The text has no character that ends a line. -/
def OnOneLine (text : String) : Prop := '\n' ∉ text.toList ∧ '\r' ∉ text.toList

instance (text : String) : Decidable (OnOneLine text) := inferInstanceAs (Decidable (_ ∧ _))

theorem onOneLine_append {a b : String} : OnOneLine (a ++ b) ↔ OnOneLine a ∧ OnOneLine b := by
  simp only [OnOneLine, String.toList_append, List.mem_append, not_or]
  exact and_and_and_comm

private theorem intercalate_segments_eq_flatMap (mark : Char) (joint text : List Char) :
    joint.intercalate (segments mark text) =
      text.flatMap fun c => if c = mark then joint else [c] := by
  induction text with
  | nil => rfl
  | cons c rest ih =>
    obtain ⟨first, more, split⟩ := List.exists_cons_of_ne_nil (segments_ne_nil mark rest)
    rw [List.flatMap_cons, ← ih, segments, split]
    by_cases same : c = mark
    · rw [if_pos same, if_pos same, List.intercalate_cons_cons, List.nil_append]
    · rw [if_neg same, if_neg same]
      cases more with
      | nil => rw [List.intercalate_singleton, List.intercalate_singleton, List.singleton_append]
      | cons next more => simp [List.intercalate_cons_cons]

/-- The passes over a message come to one reading from left to right. -/
theorem toList_oneLine (message : String) :
    (oneLine message).toList = scanBreaks message.toList := by
  rw [oneLine, String.toList_ofList, lines, intercalate_segments_eq_flatMap, List.flatMap_map]
  fun_induction scanBreaks message.toList with
  | case1 => rfl
  | case2 rest ih => simpa [mergeBreaks] using ih
  | case3 rest alone ih =>
    rw [mergeBreaks]
    · simpa using ih
    · rintro next _ rfl
      exact alone next rfl
  | case4 rest ih => simpa [mergeBreaks] using ih
  | case5 c rest single unreturned unfed ih =>
    have noReturn : c ≠ '\r' := unreturned
    have noFeed : c ≠ '\n' := unfed
    rw [mergeBreaks]
    · simpa [noReturn, noFeed] using ih
    · exact single

theorem onOneLine_oneLine (message : String) : OnOneLine (oneLine message) := by
  rw [OnOneLine, toList_oneLine]
  fun_induction scanBreaks message.toList with
  | case1 => exact ⟨List.not_mem_nil, List.not_mem_nil⟩
  | case2 rest ih => simpa using ih
  | case3 rest alone ih => simpa using ih
  | case4 rest ih => simpa using ih
  | case5 c rest _ unreturned unfed ih =>
    have noReturn : '\r' ≠ c := fun same => unreturned same.symm
    have noFeed : '\n' ≠ c := fun same => unfed same.symm
    simpa [noReturn, noFeed] using ih

private theorem scanBreaks_of_free {text : List Char} (noFeed : '\n' ∉ text)
    (noReturn : '\r' ∉ text) : scanBreaks text = text := by
  fun_induction scanBreaks text with
  | case1 => rfl
  | case2 | case3 => exact absurd List.mem_cons_self noReturn
  | case4 => exact absurd List.mem_cons_self noFeed
  | case5 c rest _ _ _ ih =>
    rw [ih (mt (List.mem_cons_of_mem c) noFeed) (mt (List.mem_cons_of_mem c) noReturn)]

theorem oneLine_eq_self_iff {message : String} : oneLine message = message ↔ OnOneLine message := by
  constructor
  · intro same
    rw [← same]
    exact onOneLine_oneLine message
  · intro single
    apply String.toList_inj.1
    rw [toList_oneLine, scanBreaks_of_free single.1 single.2]

/-- The spellings of a line break. -/
def lineBreaks : List (List Char) := [['\r', '\n'], ['\r'], ['\n']]

/-- Reading a text from left to right: where breaks begin the longest of them is replaced, and where
none does the character is kept. The number is that of the breaks replaced. -/
inductive Flattens : List Char → List Char → Nat → Prop
  | done : Flattens [] [] 0
  | lineBreak {mark rest flat : List Char} {count : Nat} (here : mark ∈ lineBreaks)
      (longest : ∀ other ∈ lineBreaks, other <+: mark ++ rest → other.length ≤ mark.length)
      (later : Flattens rest flat count) : Flattens (mark ++ rest) (';' :: ' ' :: flat) (count + 1)
  | character {c : Char} {rest flat : List Char} {count : Nat}
      (plain : ∀ mark ∈ lineBreaks, ¬ mark <+: c :: rest) (later : Flattens rest flat count) :
      Flattens (c :: rest) (c :: flat) count

namespace Flattens

theorem exists_count (text : List Char) : ∃ count, Flattens text (scanBreaks text) count := by
  fun_induction scanBreaks text with
  | case1 => exact ⟨0, .done⟩
  | case2 rest ih =>
    obtain ⟨count, later⟩ := ih
    exact ⟨count + 1, @lineBreak ['\r', '\n'] _ _ _ (by decide) (by simp [lineBreaks]) later⟩
  | case3 rest alone ih =>
    obtain ⟨count, later⟩ := ih
    refine ⟨count + 1, @lineBreak ['\r'] _ _ _ (by decide) ?_ later⟩
    simp only [lineBreaks, List.forall_mem_cons, List.not_mem_nil, false_implies, implies_true]
    refine ⟨?_, fun _ => Nat.le_refl _, fun _ => Nat.le_refl _, trivial⟩
    rintro ⟨behind, same⟩
    exact absurd (List.cons.inj same).2.symm (alone behind)
  | case4 rest ih =>
    obtain ⟨count, later⟩ := ih
    exact ⟨count + 1, @lineBreak ['\n'] _ _ _ (by decide) (by simp [lineBreaks]) later⟩
  | case5 c rest _ unreturned unfed ih =>
    obtain ⟨count, later⟩ := ih
    refine ⟨count, .character ?_ later⟩
    simp [lineBreaks, Ne.symm unreturned, Ne.symm unfed]

variable {text flat : List Char} {count : Nat}

/-- At each place at most one rule applies. -/
theorem eq_scanBreaks (flattens : Flattens text flat count) : flat = scanBreaks text := by
  induction flattens with
  | done => rfl
  | @lineBreak mark rest flat count here longest _ ih =>
    simp only [lineBreaks, List.mem_cons, List.not_mem_nil, or_false] at here
    rcases here with rfl | rfl | rfl
    · simp [scanBreaks, ih]
    · rw [List.singleton_append, scanBreaks, ih]
      rintro behind rfl
      exact absurd (longest ['\r', '\n'] (by decide) ⟨behind, rfl⟩) (by decide)
    · simp [scanBreaks, ih]
  | @character c rest flat count plain _ ih =>
    have unreturned : c ≠ '\r' := by
      rintro rfl
      exact plain ['\r'] (by decide) ⟨rest, rfl⟩
    have unfed : c ≠ '\n' := by
      rintro rfl
      exact plain ['\n'] (by decide) ⟨rest, rfl⟩
    rw [scanBreaks, ih]
    · exact fun _ same _ => unreturned same
    · exact unreturned
    · exact unfed

/-- Nothing but breaks gives a new semicolon. -/
theorem count_semicolon (flattens : Flattens text flat count) :
    flat.count ';' = text.count ';' + count := by
  induction flattens with
  | done => rfl
  | @lineBreak mark rest flat count here _ _ ih =>
    have none : mark.count ';' = 0 := by
      simp only [lineBreaks, List.mem_cons, List.not_mem_nil, or_false] at here
      rcases here with rfl | rfl | rfl <;> rfl
    rw [List.count_append, none, List.count_cons_self, List.count_cons_of_ne (by decide), ih]
    omega
  | @character c rest flat count _ _ ih =>
    rw [List.count_cons, List.count_cons, ih]
    omega

end Flattens

/-- There is one way to read a message, and it is the one-line form. -/
theorem exists_flattens_iff (message : String) : ∃ breaks, ∀ flat count,
    Flattens message.toList flat count ↔ flat = (oneLine message).toList ∧ count = breaks := by
  rw [toList_oneLine]
  obtain ⟨breaks, read⟩ := Flattens.exists_count message.toList
  refine ⟨breaks, fun flat count => ⟨fun other => ?_, ?_⟩⟩
  · have same := other.eq_scanBreaks
    subst same
    have counted := other.count_semicolon
    rw [read.count_semicolon] at counted
    exact ⟨rfl, (Nat.add_left_cancel counted).symm⟩
  · rintro ⟨rfl, rfl⟩
    exact read

end BlobDispatch.Text
