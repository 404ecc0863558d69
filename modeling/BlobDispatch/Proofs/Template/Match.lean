import BlobDispatch.Proofs.FoldedMap
import BlobDispatch.Proofs.Template.Captures
import BlobDispatch.Proofs.Template.Substitution
import BlobDispatch.Template.Basic

/-! Matching as the inverse of substitution. A template matches an address when some values for its
parameters turn its two parts into the address, and the binding holds such values: of all of them
those whose lengths, in order of declaration, are the least. -/

namespace BlobDispatch

def Binding.captured (binding : Binding) (name : String) : String := (binding.get? name).getD ""

namespace Binding

theorem captured_of_get? {binding : Binding} {name value : String}
    (held : binding.get? name = some value) : binding.captured name = value := by
  rw [captured, held]
  rfl

theorem captured_of_mem (binding : Binding) {entry : String × String}
    (member : entry ∈ binding.entries) : binding.captured entry.1 = entry.2 :=
  captured_of_get? (FoldedMap.get?_of_mem member)

theorem get?_of_mem_keys {binding : Binding} {name : String} (member : name ∈ binding.keys) :
    binding.get? name = some (binding.captured name) := by
  obtain ⟨entry, inside, rfl⟩ := List.mem_map.1 member
  rw [binding.captured_of_mem inside]
  exact FoldedMap.get?_of_mem inside

end Binding

namespace Template

/-- Values for the parameters, not empty and free of the separator, that make an address out of the
two parts of a template. -/
structure Assigns (t : Template) (value : String → String) (container object : String) : Prop where
  free : ∀ name ∈ t.names, value name ≠ "" ∧ '/' ∉ (value name).toList
  container_eq : substitute value t.layout.containerPart = container
  object_eq : substitute value t.layout.objectPart = object

/-- The lengths of the values of the parameters, in characters and in order of declaration. -/
def lengths (t : Template) (value : String → String) : List Nat :=
  t.names.map fun name => (value name).length

theorem wellFormed (t : Template) : t.layout.WellFormed := Layout.wellFormed_of_ofPattern t.compiled

theorem isIdentifier_of_mem_names (t : Template) {name : String} (member : name ∈ t.names) :
    Placeholder.IsIdentifier name.toList := by
  obtain ⟨tokens, read, _, captures⟩ := Layout.tokens_of_ofPattern t.compiled
  apply Token.isIdentifier_of_ofPattern read
  rw [captures]
  exact List.mem_map_of_mem member

end Template

section Fill

variable {value : String → String}

theorem Component.fits_fill {component : Component}
    (some : ∀ name ∈ component.names, value name ≠ "") :
    component.Fits (component.names.map fun name => (value name).toList)
      (component.fill value) := by
  induction component with
  | nil => exact .nil
  | cons piece rest ih =>
    cases piece with
    | literal text => exact .literal (ih some)
    | parameter name =>
      obtain ⟨first, later⟩ := List.forall_mem_cons.1 some
      exact .parameter (by simpa using first) (ih later)

theorem fitsAll_fill {components : List Component}
    (some : ∀ name ∈ components.flatMap Component.names, value name ≠ "") :
    FitsAll components
      ((components.flatMap Component.names).map fun name => (value name).toList)
      (components.map (Component.fill value)) := by
  induction components with
  | nil => exact .nil
  | cons component rest ih =>
    rw [List.flatMap_cons] at some ⊢
    obtain ⟨first, later⟩ := List.forall_mem_append.1 some
    rw [List.map_append]
    exact .cons (Component.fits_fill first) (ih later)

theorem Component.fill_of_fits {component : Component} {values : List (List Char)}
    {text : List Char} (fits : component.Fits values text)
    (taken : component.names.map (fun name => (value name).toList) = values) :
    component.fill value = text := by
  induction fits with
  | nil => rfl
  | literal _ ih => rw [fill_literal, ih taken]
  | parameter _ _ ih =>
    rw [names_parameter, List.map_cons, List.cons.injEq] at taken
    rw [fill_parameter, taken.1, ih taken.2]

theorem fill_of_fitsAll {components : List Component} {values texts : List (List Char)}
    (fits : FitsAll components values texts)
    (taken : (components.flatMap Component.names).map (fun name => (value name).toList) = values) :
    components.map (Component.fill value) = texts := by
  induction fits with
  | nil => rfl
  | cons fits _ ih =>
    rw [List.flatMap_cons, List.map_append] at taken
    obtain ⟨first, later⟩ := List.append_inj taken (by rw [List.length_map, fits.length_eq])
    rw [List.map_cons, Component.fill_of_fits fits first, ih later]

theorem Component.fill_free {component : Component} (plain : ∀ piece ∈ component, piece.Plain)
    (free : ∀ name ∈ component.names, '/' ∉ (value name).toList) :
    '/' ∉ component.fill value := by
  induction component with
  | nil => exact List.not_mem_nil
  | cons piece rest ih =>
    obtain ⟨first, later⟩ := List.forall_mem_cons.1 plain
    cases piece with
    | literal text =>
      rw [fill_literal, List.mem_append, not_or]
      exact ⟨first.2.1, ih later free⟩
    | parameter name =>
      obtain ⟨here, others⟩ := List.forall_mem_cons.1 free
      rw [fill_parameter, List.mem_append, not_or]
      exact ⟨here, ih later others⟩

theorem Component.fill_ne_nil {component : Component} (filled : component ≠ [])
    (plain : ∀ piece ∈ component, piece.Plain)
    (some : ∀ name ∈ component.names, value name ≠ "") : component.fill value ≠ [] := by
  obtain ⟨piece, rest, rfl⟩ := List.exists_cons_of_ne_nil filled
  cases piece with
  | literal text =>
    have first := (plain (.literal text) List.mem_cons_self).1
    simp [first]
  | parameter name =>
    have first := some name List.mem_cons_self
    simp [first]

/-- Captures are not empty, and no separator gets into one from the texts. -/
theorem Component.Fits.free {component : Component} {values : List (List Char)} {text : List Char}
    (fits : component.Fits values text) (free : '/' ∉ text) :
    ∀ taken ∈ values, taken ≠ [] ∧ '/' ∉ taken := by
  induction fits with
  | nil => exact List.forall_mem_nil _
  | literal _ ih => exact ih fun inside => free (List.mem_append_right _ inside)
  | parameter apart _ ih =>
    rw [List.mem_append, not_or] at free
    exact List.forall_mem_cons.2 ⟨⟨apart, free.1⟩, ih free.2⟩

theorem FitsAll.free {components : List Component} {values texts : List (List Char)}
    (fits : FitsAll components values texts) (free : ∀ text ∈ texts, '/' ∉ text) :
    ∀ taken ∈ values, taken ≠ [] ∧ '/' ∉ taken := by
  induction fits with
  | nil => exact List.forall_mem_nil _
  | cons fits _ ih =>
    obtain ⟨first, later⟩ := List.forall_mem_cons.1 free
    exact List.forall_mem_append.2 ⟨fits.free first, ih later⟩

end Fill

namespace Template

variable {t : Template} {value : String → String} {container object : String}

private theorem fill_part (free : ∀ name ∈ t.names, value name ≠ "" ∧ '/' ∉ (value name).toList)
    {component : Component} (member : component ∈ t.layout.parts) :
    component.fill value ≠ [] ∧ '/' ∉ component.fill value := by
  have plain := t.wellFormed.plain component member
  have declared name (inside : name ∈ component.names) : name ∈ t.names :=
    List.mem_flatMap.2 ⟨component, member, inside⟩
  constructor
  · refine Component.fill_ne_nil (t.wellFormed.filled component member) plain ?_
    exact fun name inside => (free name (declared name inside)).1
  · exact Component.fill_free plain fun name inside => (free name (declared name inside)).2

/-- The values that make an address are those that fill the components into its segments. -/
theorem assigns_iff : t.Assigns value container object ↔
    (∀ name ∈ t.names, value name ≠ "" ∧ '/' ∉ (value name).toList) ∧
      t.layout.parts.map (Component.fill value) =
        container.toList :: Text.segments '/' object.toList := by
  have first := t.wellFormed.substitute_containerPart value
  have later := t.wellFormed.substitute_objectPart value
  constructor
  · intro assigns
    obtain ⟨free, rfl, rfl⟩ := assigns
    refine ⟨free, ?_⟩
    have clean : ∀ text ∈ t.layout.object.map (Component.fill value), '/' ∉ text := by
      intro text made
      obtain ⟨component, member, rfl⟩ := List.mem_map.1 made
      exact (fill_part free (List.mem_cons_of_mem _ member)).2
    have several : t.layout.object.map (Component.fill value) ≠ [] := by
      simpa using t.wellFormed.several
    rw [first, later, String.toList_ofList, String.toList_ofList,
      Text.segments_intercalate clean several]
    rfl
  · intro fills
    obtain ⟨free, filled⟩ := fills
    obtain ⟨start, segments⟩ := List.cons.inj filled
    refine ⟨free, ?_, ?_⟩
    · rw [first, start, String.ofList_toList]
    · rw [later, segments, Text.intercalate_segments, String.ofList_toList]

theorem Assigns.valid (assigns : t.Assigns value container object) :
    Address.Valid ⟨container, object⟩ := by
  obtain ⟨free, filled⟩ := assigns_iff.1 assigns
  obtain ⟨start, segments⟩ := List.cons.inj filled
  obtain ⟨some, unseparated⟩ := fill_part free List.mem_cons_self
  have contained : container ≠ "" := by
    intro empty
    rw [empty] at start
    exact some start
  have named : object ≠ "" := by
    obtain ⟨first, rest, split⟩ := List.exists_cons_of_ne_nil t.wellFormed.several
    have member : first ∈ t.layout.parts := by simp [Layout.parts, split]
    intro empty
    rw [split, empty] at segments
    exact (fill_part free member).1 (List.cons.inj segments).1
  exact ⟨contained, start ▸ unseparated, named⟩

private theorem captures_eq_some_iff {layout : Layout} {captures : List (List Char)} :
    layout.captures container object = some captures ↔
      (container ≠ "" ∧ '/' ∉ container.toList) ∧
        captureAll layout.parts (container.toList :: Text.segments '/' object.toList) =
          some captures := by
  unfold Layout.captures
  split
  · rename_i refused
    rw [← not_or]
    exact iff_of_false nofun fun accepted => accepted.1 refused
  · rename_i accepted
    rw [not_or] at accepted
    exact (and_iff_right accepted).symm

private theorem entries_binding {captures : List (List Char)}
    (level : captures.length = t.names.length) :
    (FoldedMap.ofList (t.names.zip (captures.map String.ofList)) : Binding).entries =
      t.names.zip (captures.map String.ofList) := by
  apply FoldedMap.entries_ofList
  have folded : ((t.names.zip (captures.map String.ofList)).map Prod.fst).map Text.lower =
      t.names.map Text.lower := by rw [List.map_fst_zip (by simp [level])]
  rw [List.map_map] at folded
  exact folded ▸ t.wellFormed.distinct

private theorem captured_keys (data : Binding) :
    data.keys.map (fun name => (data.captured name).toList) = data.values.map String.toList := by
  rw [FoldedMap.keys, FoldedMap.values, List.map_map, List.map_map]
  apply List.map_congr_left
  intro entry member
  rw [Function.comp, data.captured_of_mem member]
  rfl

private theorem captured_of_match? {data : Binding}
    (found : t.match? container object = some data) :
    ∃ captures, t.layout.captures container object = some captures ∧ data.keys = t.names ∧
      t.names.map (fun name => (data.captured name).toList) = captures := by
  obtain ⟨captures, taken, rfl⟩ := Option.map_eq_some_iff.1 found
  have level : captures.length = t.names.length :=
    (fitsAll_of_captureAll (captures_eq_some_iff.1 taken).2).length_eq
  have entries := entries_binding level
  have named := captured_keys (FoldedMap.ofList (t.names.zip (captures.map String.ofList)))
  have keys : (FoldedMap.ofList (t.names.zip (captures.map String.ofList)) : Binding).keys =
      t.names := by
    rw [FoldedMap.keys, entries]
    exact List.map_fst_zip (by simp [level])
  refine ⟨captures, taken, keys, ?_⟩
  have values : (FoldedMap.ofList (t.names.zip (captures.map String.ofList)) : Binding).values =
      captures.map String.ofList := by
    rw [FoldedMap.values, entries]
    exact List.map_snd_zip (by simp [level])
  rw [keys, values] at named
  rw [named]
  simp [Function.comp_def]

theorem keys_of_match? {data : Binding} (found : t.match? container object = some data) :
    data.keys = t.names := by
  obtain ⟨_, _, keys, _⟩ := captured_of_match? found
  exact keys

theorem assigns_of_match? {data : Binding} (found : t.match? container object = some data) :
    t.Assigns data.captured container object := by
  obtain ⟨captures, taken, _, held⟩ := captured_of_match? found
  obtain ⟨⟨_, unseparated⟩, inner⟩ := captures_eq_some_iff.1 taken
  have fits := fitsAll_of_captureAll inner
  refine assigns_iff.2 ⟨?_, fill_of_fitsAll fits held⟩
  have clean : ∀ text ∈ container.toList :: Text.segments '/' object.toList, '/' ∉ text :=
    List.forall_mem_cons.2 ⟨unseparated, fun _ => Text.not_mem_of_mem_segments⟩
  intro name member
  have kept := fits.free clean (data.captured name).toList (by
    rw [← held]
    exact List.mem_map_of_mem member)
  exact ⟨by simpa using kept.1, kept.2⟩

/-- An address that some values make is matched, by captures that are no longer than they. -/
theorem match?_of_assigns (assigns : t.Assigns value container object) :
    ∃ data, t.match? container object = some data ∧
      ((∀ name ∈ t.names, data.captured name = value name) ∨
        t.lengths data.captured < t.lengths value) := by
  obtain ⟨free, filled⟩ := assigns_iff.1 assigns
  -- The values are one way to cut the address, and the search finds one that is no longer.
  have fits : FitsAll t.layout.parts (t.names.map fun name => (value name).toList)
      (t.layout.parts.map (Component.fill value)) :=
    fitsAll_fill fun name member => (free name member).1
  rw [filled] at fits
  obtain ⟨captures, inner, least⟩ := captureAll_of_fitsAll fits
  have taken := captures_eq_some_iff.2 ⟨⟨assigns.valid.1, assigns.valid.2.1⟩, inner⟩
  obtain ⟨data, found⟩ : ∃ data, t.match? container object = some data := by
    rw [match?, taken]
    exact ⟨_, rfl⟩
  obtain ⟨others, again, _, held⟩ := captured_of_match? found
  cases taken.symm.trans again
  have measured (value : String → String) : t.lengths value =
      (t.names.map fun name => (value name).toList).map List.length := by
    simp [lengths, Function.comp_def, String.length_toList]
  refine ⟨data, found, ?_⟩
  rcases least with same | fewer
  · left
    rw [← held] at same
    intro name member
    exact String.toList_inj.1 (List.map_inj_left.1 same name member)
  · right
    rw [measured, measured, held]
    exact fewer

/-- A template matches an address if and only if some values make the address out of it. The match
holds such values, one for every parameter in order of declaration, and whatever other values make
the address have lengths that are greater, the first difference deciding. -/
theorem matches_least_assignment (t : Template) (container object : String) :
    ((t.match? container object).isSome = true ↔
      container ≠ "" ∧ '/' ∉ container.toList ∧ ∃ value, t.Assigns value container object) ∧
    ∀ data, t.match? container object = some data →
      data.keys = t.names ∧ t.Assigns data.captured container object ∧
        ∀ value, t.Assigns value container object →
          (∀ name ∈ t.names, value name = data.captured name) ∨
            t.lengths data.captured < t.lengths value := by
  constructor
  · rw [Option.isSome_iff_exists]
    constructor
    · intro matched
      obtain ⟨data, found⟩ := matched
      have assigns := assigns_of_match? found
      exact ⟨assigns.valid.1, assigns.valid.2.1, _, assigns⟩
    · intro assigned
      obtain ⟨_, _, value, assigns⟩ := assigned
      obtain ⟨data, found, _⟩ := match?_of_assigns assigns
      exact ⟨data, found⟩
  · intro data found
    refine ⟨keys_of_match? found, assigns_of_match? found, ?_⟩
    intro value assigns
    obtain ⟨other, again, least⟩ := match?_of_assigns assigns
    cases found.symm.trans again
    rcases least with same | fewer
    · exact .inl fun name member => (same name member).symm
    · exact .inr fewer

/-- A template with two parameters in one component. -/
def sample : Template where
  pattern := "c/{a}-{b}.txt"
  layout := ⟨[.literal "c"], [[.parameter "a", .literal "-", .parameter "b", .literal ".txt"]]⟩
  compiled := by decide

/-- Values that make the address, and the shorter ones that the match holds instead. -/
theorem matches_least_assignment_sample :
    sample.Assigns (fun name => if name = "a" then "x-y" else "z") "c" "x-y-z.txt" ∧
      ∃ data, sample.match? "c" "x-y-z.txt" = some data ∧ data.captured "a" = "x" ∧
        data.captured "b" = "y-z" ∧ data.keys = sample.names ∧
        sample.lengths data.captured <
          sample.lengths fun name => if name = "a" then "x-y" else "z" := by
  have assigns : sample.Assigns (fun name => if name = "a" then "x-y" else "z") "c"
      "x-y-z.txt" := ⟨by decide, by decide, by decide⟩
  obtain ⟨data, found, first, second⟩ : ∃ data, sample.match? "c" "x-y-z.txt" = some data ∧
      data.captured "a" = "x" ∧ data.captured "b" = "y-z" := ⟨_, rfl, by decide, by decide⟩
  obtain ⟨keys, _, least⟩ := (matches_least_assignment sample "c" "x-y-z.txt").2 data found
  refine ⟨assigns, data, found, first, second, keys, ?_⟩
  rcases least _ assigns with same | fewer
  · have differs := same "a" (by decide)
    rw [first] at differs
    exact absurd differs (by decide)
  · exact fewer

end Template

end BlobDispatch
