import BlobDispatch.Proofs.Template.Grammar
import BlobDispatch.Proofs.Template.Match
import BlobDispatch.Proofs.Text.ByteOrder

/-! What a template tells of the addresses it matches before any of them is seen: every object name
begins with the text before the first parameter, and a container part without parameters is the
name of the only container. Nothing tighter can be told. The first parameter takes any letter, so
names part right there, and so do containers when the parameter is in theirs. -/

namespace BlobDispatch

namespace Component

variable {component : Component}

theorem fill_of_lead (whole : component.lead.2 = true) (value : String → String) :
    component.fill value = component.lead.1 := by
  induction component with
  | nil => rfl
  | cons piece component ih =>
    cases piece with
    | literal text => rw [fill_literal, ih whole, lead]
    | parameter name => cases whole

theorem exists_fill_of_lead (ends : component.lead.2 = false) :
    ∃ name ∈ component.names, ∀ value : String → String, ∃ rest,
      Component.fill value component = component.lead.1 ++ ((value name).toList ++ rest) := by
  induction component with
  | nil => cases ends
  | cons piece component ih =>
    cases piece with
    | literal text =>
      obtain ⟨name, declared, fills⟩ := ih ends
      refine ⟨name, declared, ?_⟩
      intro value
      obtain ⟨rest, filled⟩ := fills value
      exact ⟨rest, by rw [fill_literal, filled, lead, List.append_assoc]⟩
    | parameter name =>
      exact ⟨name, List.mem_cons_self, fun value => ⟨Component.fill value component, rfl⟩⟩

end Component

namespace Layout

theorem leadOf_of_lead {component : Component} (ends : component.lead.2 = false)
    (components : List Component) : leadOf (component :: components) = component.lead.1 := by
  cases components with
  | nil => rfl
  | cons second components => exact if_neg (by simp [ends])

/-- A component without parameters is passed whole and its separator with it; the first one with a
parameter ends the lead, and the value of this parameter follows. -/
theorem leadOf_cases (components : List Component) :
    (∀ value, ['/'].intercalate (components.map (Component.fill value)) = leadOf components) ∨
      ∃ name ∈ components.flatMap Component.names, ∀ value : String → String, ∃ rest,
        ['/'].intercalate (components.map (Component.fill value)) =
          leadOf components ++ ((value name).toList ++ rest) := by
  induction components with
  | nil => exact .inl fun _ => rfl
  | cons component components ih =>
    cases whole : component.lead.2 with
    | false =>
      obtain ⟨name, declared, fills⟩ := Component.exists_fill_of_lead whole
      refine .inr ⟨name, List.mem_append_left _ declared, ?_⟩
      intro value
      obtain ⟨rest, filled⟩ := fills value
      rw [leadOf_of_lead whole, List.map_cons, filled]
      cases components with
      | nil => exact ⟨rest, by simp⟩
      | cons second components =>
        exact ⟨rest ++ '/' :: ['/'].intercalate ((second :: components).map (Component.fill value)),
          by simp [List.intercalate_cons_cons]⟩
    | true =>
      have filled (value : String → String) := Component.fill_of_lead whole value
      cases components with
      | nil => exact .inl fun value => by simp [filled value, leadOf]
      | cons second components =>
        have lead : leadOf (component :: second :: components) =
            component.lead.1 ++ '/' :: leadOf (second :: components) := if_pos whole
        have joined (value : String → String) :
            ['/'].intercalate ((component :: second :: components).map (Component.fill value)) =
              component.lead.1 ++
                '/' :: ['/'].intercalate ((second :: components).map (Component.fill value)) := by
          simp [List.intercalate_cons_cons, filled value]
        rcases ih with same | ⟨name, declared, fills⟩
        · exact .inl fun value => by rw [joined, same, lead]
        · refine .inr ⟨name, List.mem_append_right _ declared, ?_⟩
          intro value
          obtain ⟨rest, follows⟩ := fills value
          exact ⟨rest, by rw [joined, follows, lead, List.append_assoc, List.cons_append]⟩

theorem fixedContainer?_eq_some_iff {layout : Layout} {name : String} :
    layout.fixedContainer? = some name ↔ layout.container = [.literal name] := by
  unfold fixedContainer?
  split
  · rename_i text alone
    simp [alone]
  · rename_i other
    exact iff_of_false nofun (other name)

private theorem lead_consLiteral (text : List Char) (component : Component) :
    (consLiteral text component).lead.2 = component.lead.2 := by
  unfold consLiteral
  split
  · rfl
  · rfl

private theorem first_eq_nil {tokens : List Token} {component : Component} {more : List Component}
    (opening : ∀ token ∈ tokens.head?, token.isLiteral = false)
    (cut : components tokens = component :: more) (whole : component.lead.2 = true) :
    component = [] := by
  cases tokens with
  | nil =>
    cases cut
    rfl
  | cons token rest =>
    cases token with
    | literal text => cases opening _ rfl
    | parameter placeholder =>
      obtain ⟨first, others, split⟩ := List.exists_cons_of_ne_nil (components_ne_nil rest)
      rw [components, split] at cut
      cases cut
      cases whole

/-- A first component without parameters is one literal: no literal follows another, and of those
cut out of one each begins a component. -/
theorem first_of_lead {tokens : List Token} (separated : Token.Separated tokens)
    {component : Component} {more : List Component} (cut : components tokens = component :: more)
    (filled : component ≠ []) (whole : component.lead.2 = true) :
    ∃ text, component = [.literal text] := by
  have alone {text : List Char} (same : component = consLiteral text []) :
      ∃ text, component = [.literal text] := by
    unfold consLiteral at same
    split at same
    · exact absurd same filled
    · exact ⟨_, same⟩
  cases tokens with
  | nil => exact absurd (first_eq_nil (by simp) cut whole) filled
  | cons token rest =>
    cases token with
    | parameter placeholder =>
      exact absurd (first_eq_nil (by simp [Token.isLiteral]) cut whole) filled
    | literal text =>
      rw [components] at cut
      obtain ⟨segment, segments, split⟩ :=
        List.exists_cons_of_ne_nil (Text.segments_ne_nil '/' text.toList)
      rw [split] at cut
      cases segments with
      | nil =>
        obtain ⟨first, others, begins⟩ := List.exists_cons_of_ne_nil (components_ne_nil rest)
        rw [begins, consSegments] at cut
        cases cut
        rw [lead_consLiteral] at whole
        have opening : ∀ token ∈ rest.head?, token.isLiteral = false := by
          intro token member
          have apart := (List.isChain_cons.1 separated).1 token member
          simpa [Token.isLiteral] using apart
        exact alone (by rw [first_eq_nil opening begins whole])
      | cons next segments =>
        rw [consSegments] at cut
        · exact alone (List.cons.inj cut).1.symm
        · simp

end Layout

namespace Template

variable {t : Template} {container object : String} {data : Binding}

theorem startsWith_of_match? (found : t.match? container object = some data) :
    Text.startsWith t.layout.objectLead object = true := by
  have written := (assigns_of_match? found).object_eq
  rw [t.wellFormed.substitute_objectPart] at written
  rw [← written, Text.startsWith_iff, Layout.objectLead, String.toList_ofList,
    String.toList_ofList]
  rcases Layout.leadOf_cases t.layout.object with same | ⟨name, _, fills⟩
  · exact ⟨[], by rw [same, List.append_nil]⟩
  · obtain ⟨rest, filled⟩ := fills data.captured
    rw [filled]
    exact List.prefix_append _ _

theorem container_of_match? {name : String} (fixed : t.layout.fixedContainer? = some name)
    (found : t.match? container object = some data) : container = name := by
  have written := (assigns_of_match? found).container_eq
  rw [t.wellFormed.substitute_containerPart, Layout.fixedContainer?_eq_some_iff.1 fixed] at written
  simpa [Component.fill] using written.symm

/-- Values that may stand in an address fill a template into one that it matches. -/
theorem match?_fill (t : Template) {value : String → String}
    (free : ∀ name ∈ t.names, value name ≠ "" ∧ '/' ∉ (value name).toList) :
    ∃ data, t.match? (String.ofList (t.layout.container.fill value))
      (String.ofList (['/'].intercalate (t.layout.object.map (Component.fill value)))) =
        some data := by
  obtain ⟨data, found, _⟩ := match?_of_assigns ⟨free, rfl, rfl⟩
  rw [t.wellFormed.substitute_containerPart, t.wellFormed.substitute_objectPart] at found
  exact ⟨data, found⟩

private def letter (c : Char) (_ : String) : String := String.ofList [c]

private theorem toList_letter (c : Char) (name : String) : (letter c name).toList = [c] :=
  String.toList_ofList

private theorem letter_free {c : Char} (apart : c ≠ '/') (t : Template) :
    ∀ name ∈ t.names, letter c name ≠ "" ∧ '/' ∉ (letter c name).toList := by
  intro name _
  simp [letter, Ne.symm apart]

/-- Texts that part after a lead have no longer beginning in common. -/
private theorem prefix_of_apart {lead text first second : List Char} {a b : Char} (apart : a ≠ b)
    (one : text <+: lead ++ a :: first) (other : text <+: lead ++ b :: second) :
    text <+: lead := by
  rcases List.prefix_or_prefix_of_prefix one (List.prefix_append lead _) with inside | beyond
  · exact inside
  · obtain ⟨rest, rfl⟩ := beyond
    rw [List.prefix_append_right_inj] at one other
    cases rest with
    | nil => exact ⟨[], by rw [List.append_nil, List.append_nil]⟩
    | cons c rest =>
      obtain ⟨rfl, _⟩ := List.cons_prefix_cons.1 one
      exact absurd (List.cons_prefix_cons.1 other).1 apart

private theorem startsWith_objectLead {lead : String}
    (begins : ∀ container object, (t.match? container object).isSome = true →
      Text.startsWith lead object = true) :
    Text.startsWith lead t.layout.objectLead = true := by
  have filled {c : Char} (apart : c ≠ '/') : lead.toList <+:
      ['/'].intercalate (t.layout.object.map (Component.fill (letter c))) := by
    obtain ⟨data, found⟩ := t.match?_fill (letter_free apart t)
    have named := begins _ _ (Option.isSome_of_eq_some found)
    rwa [Text.startsWith_iff, String.toList_ofList] at named
  rw [Text.startsWith_iff, Layout.objectLead, String.toList_ofList]
  rcases Layout.leadOf_cases t.layout.object with same | ⟨name, _, fills⟩
  · rw [← same (letter 'a')]
    exact filled (by decide)
  · obtain ⟨_, first⟩ := fills (letter 'a')
    obtain ⟨_, second⟩ := fills (letter 'b')
    have one := filled (c := 'a') (by decide)
    have other := filled (c := 'b') (by decide)
    rw [first, toList_letter] at one
    rw [second, toList_letter] at other
    exact prefix_of_apart (by decide) one other

private theorem fixedContainer?_of_only {name : String}
    (only : ∀ container object, (t.match? container object).isSome = true → container = name) :
    t.layout.fixedContainer? = some name := by
  have filled {c : Char} (apart : c ≠ '/') :
      String.ofList (t.layout.container.fill (letter c)) = name := by
    obtain ⟨data, found⟩ := t.match?_fill (letter_free apart t)
    exact only _ _ (Option.isSome_of_eq_some found)
  have first := filled (c := 'a') (by decide)
  cases whole : t.layout.container.lead.2 with
  | true =>
    obtain ⟨tokens, read, cut, _⟩ := Layout.tokens_of_ofPattern t.compiled
    obtain ⟨text, alone⟩ := Layout.first_of_lead (Token.ofPattern_eq_ok_iff.1 read).separated cut
      (t.wellFormed.filled _ List.mem_cons_self) whole
    rw [alone, Component.fill_literal, Component.fill, List.flatMap_nil, List.append_nil,
      String.ofList_toList] at first
    rw [Layout.fixedContainer?_eq_some_iff, alone, first]
  | false =>
    -- Two letters in the place of the first parameter make two containers.
    obtain ⟨_, _, fills⟩ := Component.exists_fill_of_lead whole
    obtain ⟨_, one⟩ := fills (letter 'a')
    obtain ⟨_, other⟩ := fills (letter 'b')
    have same := String.ofList_injective (first.trans (filled (c := 'b') (by decide)).symm)
    rw [one, other, toList_letter, toList_letter] at same
    simp at same

/-- What narrows a listing of a template's blobs is as tight as it can be. The template matches
something; what all object names it matches begin with is the lead or a beginning of it; and the
container is fixed just when its name is the only one that is matched. -/
theorem narrowing_exact (t : Template) :
    (∃ container object, (t.match? container object).isSome = true) ∧
      (∀ lead, (∀ container object, (t.match? container object).isSome = true →
        Text.startsWith lead object = true) ↔ Text.startsWith lead t.layout.objectLead = true) ∧
      ∀ name, t.layout.fixedContainer? = some name ↔
        ∀ container, (∃ object, (t.match? container object).isSome = true) ↔ container = name := by
  obtain ⟨data, some⟩ := t.match?_fill (letter_free (c := 'a') (by decide) t)
  refine ⟨⟨_, _, Option.isSome_of_eq_some some⟩, fun lead => ⟨startsWith_objectLead, ?_⟩, ?_⟩
  · intro begins container object found
    obtain ⟨_, found⟩ := Option.isSome_iff_exists.1 found
    exact Text.startsWith_trans begins (startsWith_of_match? found)
  · intro name
    constructor
    · intro fixed container
      constructor
      · rintro ⟨object, found⟩
        obtain ⟨_, found⟩ := Option.isSome_iff_exists.1 found
        exact container_of_match? fixed found
      · rintro rfl
        obtain rfl := container_of_match? fixed some
        exact ⟨_, Option.isSome_of_eq_some some⟩
    · intro only
      exact fixedContainer?_of_only fun container object found => (only container).1 ⟨object, found⟩

end Template

end BlobDispatch
