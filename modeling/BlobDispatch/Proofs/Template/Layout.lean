import BlobDispatch.Proofs.Template.Token
import BlobDispatch.Proofs.Text.Segments
import BlobDispatch.Template.Layout

/-! What a layout promises. Its pieces are literals that are not empty and have no separator in
them, and parameters whose names differ by more than case; and what it becomes when its parameters
take values is what its tokens become. -/

namespace BlobDispatch

def Piece.Plain : Piece → Prop
  | .literal text => text ≠ "" ∧ '/' ∉ text.toList ∧ Token.Braceless text.toList
  | .parameter name => Token.Braceless name.toList

namespace Component

variable (value : String → String)

@[simp] theorem fill_literal (text : String) (rest : Component) :
    fill value (.literal text :: rest) = text.toList ++ fill value rest := rfl

@[simp] theorem fill_parameter (name : String) (rest : Component) :
    fill value (.parameter name :: rest) = (value name).toList ++ fill value rest := rfl

@[simp] theorem spell_literal (text : String) (rest : Component) :
    spell (.literal text :: rest) = text.toList ++ spell rest := rfl

@[simp] theorem spell_parameter (name : String) (rest : Component) :
    spell (.parameter name :: rest) = '\x7b' :: name.toList ++ ['\x7d'] ++ spell rest := rfl

@[simp] theorem names_parameter (name : String) (rest : Component) :
    names (.parameter name :: rest) = name :: names rest := rfl

end Component

namespace Layout

section Cut

variable (value : String → String)

theorem fill_consLiteral (text : List Char) (component : Component) :
    (consLiteral text component).fill value = text ++ component.fill value := by
  unfold consLiteral
  split
  · rename_i empty
    rw [empty, List.nil_append]
  · rw [Component.fill_literal, String.toList_ofList]

theorem names_consLiteral (text : List Char) (component : Component) :
    (consLiteral text component).names = component.names := by
  unfold consLiteral
  split
  · rfl
  · rfl

theorem consSegments_ne_nil {segments : List (List Char)} {components : List Component}
    (some : components ≠ []) : consSegments segments components ≠ [] := by
  unfold consSegments
  split
  · exact some
  · exact List.cons_ne_nil _ _
  · exact List.cons_ne_nil _ _

theorem components_ne_nil (tokens : List Token) : components tokens ≠ [] := by
  induction tokens with
  | nil => exact List.cons_ne_nil _ _
  | cons token rest ih =>
    cases token with
    | literal text => exact consSegments_ne_nil ih
    | parameter placeholder =>
      obtain ⟨component, more, split⟩ := List.exists_cons_of_ne_nil ih
      rw [components, split]
      exact List.cons_ne_nil _ _

theorem intercalate_consSegments {segments : List (List Char)} {components : List Component}
    (cut : segments ≠ []) (several : components ≠ []) :
    ['/'].intercalate ((consSegments segments components).map (Component.fill value)) =
      ['/'].intercalate segments ++ ['/'].intercalate (components.map (Component.fill value)) := by
  induction segments with
  | nil => exact absurd rfl cut
  | cons segment more ih =>
    cases more with
    | nil =>
      obtain ⟨component, rest, rfl⟩ := List.exists_cons_of_ne_nil several
      rw [consSegments, List.map_cons, fill_consLiteral, List.intercalate_singleton]
      cases rest with
      | nil => simp
      | cons second rest => simp
    | cons next more =>
      have later := ih (List.cons_ne_nil _ _)
      rw [consSegments, List.map_cons, fill_consLiteral, List.intercalate_cons_cons,
        List.intercalate_cons_of_ne_nil, later]
      · simp [Component.fill]
      · simpa using consSegments_ne_nil several
      · simp

theorem intercalate_components (tokens : List Token) :
    ['/'].intercalate ((components tokens).map (Component.fill value)) =
      tokens.flatMap (Token.fill value) := by
  induction tokens with
  | nil => rfl
  | cons token rest ih =>
    rw [List.flatMap_cons, ← ih]
    cases token with
    | literal text =>
      rw [components, intercalate_consSegments value (Text.segments_ne_nil _ _)
        (components_ne_nil rest), Text.intercalate_segments]
      rfl
    | parameter placeholder =>
      obtain ⟨component, more, split⟩ := List.exists_cons_of_ne_nil (components_ne_nil rest)
      rw [components, split]
      cases more with
      | nil => simp [Component.fill, Token.fill]
      | cons second more => simp [Component.fill, Token.fill]

end Cut

theorem names_consSegments (segments : List (List Char)) {components : List Component}
    (several : components ≠ []) :
    (consSegments segments components).flatMap Component.names =
      components.flatMap Component.names := by
  induction segments with
  | nil => rw [consSegments]
  | cons segment more ih =>
    cases more with
    | nil =>
      obtain ⟨component, rest, rfl⟩ := List.exists_cons_of_ne_nil several
      rw [consSegments, List.flatMap_cons, names_consLiteral, List.flatMap_cons]
    | cons next more =>
      rw [consSegments, List.flatMap_cons, names_consLiteral, ih]
      · rfl
      · simp

theorem names_components (tokens : List Token) :
    (components tokens).flatMap Component.names =
      (Token.placeholders tokens).map Placeholder.name := by
  induction tokens with
  | nil => rfl
  | cons token rest ih =>
    cases token with
    | literal text =>
      rw [components, names_consSegments _ (components_ne_nil rest), ih]
      rfl
    | parameter placeholder =>
      obtain ⟨component, more, split⟩ := List.exists_cons_of_ne_nil (components_ne_nil rest)
      rw [components, split, Token.placeholders_parameter, List.map_cons, ← ih, split]
      rfl

theorem names_of_captures {tokens : List Token} {names : List String}
    (captures : Token.placeholders tokens = names.map .capture) :
    (components tokens).flatMap Component.names = names := by
  rw [names_components, captures, List.map_map]
  exact List.map_id names

private theorem mem_consLiteral {text : List Char} {component : Component} {piece : Piece}
    (member : piece ∈ consLiteral text component) :
    (text ≠ [] ∧ piece = .literal (String.ofList text)) ∨ piece ∈ component := by
  unfold consLiteral at member
  split at member
  · exact .inr member
  · rename_i some
    rcases List.mem_cons.1 member with same | inside
    · exact .inl ⟨some, same⟩
    · exact .inr inside

private theorem mem_consSegments {segments : List (List Char)} {components : List Component}
    {component : Component} (member : component ∈ consSegments segments components) {piece : Piece}
    (inside : piece ∈ component) :
    (∃ text ∈ segments, text ≠ [] ∧ piece = .literal (String.ofList text)) ∨
      ∃ other ∈ components, piece ∈ other := by
  fun_induction consSegments segments components with
  | case1 components => exact .inr ⟨component, member, inside⟩
  | case2 last first rest =>
    rcases List.mem_cons.1 member with rfl | further
    · rcases mem_consLiteral inside with ⟨some, same⟩ | old
      · exact .inl ⟨last, List.mem_cons_self, some, same⟩
      · exact .inr ⟨first, List.mem_cons_self, old⟩
    · exact .inr ⟨component, List.mem_cons_of_mem _ further, inside⟩
  | case3 segment more components _ ih =>
    rcases List.mem_cons.1 member with rfl | further
    · rcases mem_consLiteral inside with ⟨some, same⟩ | old
      · exact .inl ⟨segment, List.mem_cons_self, some, same⟩
      · cases old
    · rcases ih further with ⟨text, cut, some, same⟩ | old
      · exact .inl ⟨text, List.mem_cons_of_mem _ cut, some, same⟩
      · exact .inr old

private theorem braceless_of_mem_segments {text segment : List Char}
    (braceless : Token.Braceless text) (member : segment ∈ Text.segments '/' text) :
    Token.Braceless segment := by
  have inside := Text.subset_of_mem_segments member
  exact ⟨fun opened => braceless.1 (inside opened), fun closed => braceless.2 (inside closed)⟩

theorem plain_components {tokens : List Token} (plain : ∀ token ∈ tokens, token.Plain) :
    ∀ component ∈ components tokens, ∀ piece ∈ component, piece.Plain := by
  induction tokens with
  | nil => simp [components]
  | cons token rest ih =>
    have ih := ih fun token member => plain token (List.mem_cons_of_mem _ member)
    have first := plain token List.mem_cons_self
    intro component member piece inside
    cases token with
    | literal text =>
      rcases mem_consSegments member inside with ⟨segment, cut, some, rfl⟩ | ⟨other, there, old⟩
      · refine ⟨by simpa using some, ?_⟩
        rw [String.toList_ofList]
        exact ⟨Text.not_mem_of_mem_segments cut, braceless_of_mem_segments first.2 cut⟩
      · exact ih other there piece old
    | parameter placeholder =>
      obtain ⟨start, more, split⟩ := List.exists_cons_of_ne_nil (components_ne_nil rest)
      rw [components, split] at member
      rw [split] at ih
      rcases List.mem_cons.1 member with rfl | further
      · rcases List.mem_cons.1 inside with rfl | old
        · exact first
        · exact ih start List.mem_cons_self piece old
      · exact ih component (List.mem_cons_of_mem _ further) piece inside

/-- The check passes tokens whose placeholders are captures, none right after another, with names
that differ by more than case. -/
theorem checkTokens_eq_ok_iff {seen : List String} {afterParameter : Bool} {tokens : List Token} :
    checkTokens seen afterParameter tokens = .ok () ↔
      (afterParameter = true → Token.opens tokens = false) ∧ Token.Apart tokens ∧
        ∃ names : List String, Token.placeholders tokens = names.map .capture ∧
          (names.map Text.lower).Nodup ∧ ∀ name ∈ names, Text.lower name ∉ seen := by
  fun_induction checkTokens seen afterParameter tokens with
  | case1 => exact iff_of_true rfl ⟨fun _ => rfl, trivial, [], rfl, .nil, List.forall_mem_nil _⟩
  | case2 seen afterParameter text rest ih =>
    rw [ih]
    exact and_congr_left fun _ => iff_of_true nofun fun _ => rfl
  | case3 seen afterParameter text rest =>
    refine iff_of_false nofun ?_
    intro passed
    obtain ⟨_, _, names, captures, _⟩ := passed
    cases names with
    | nil => cases captures
    | cons name names => cases captures
  | case4 seen name rest =>
    refine iff_of_false nofun ?_
    intro passed
    cases passed.1 rfl
  | case5 seen afterParameter name rest alone again =>
    refine iff_of_false nofun ?_
    intro passed
    obtain ⟨_, _, names, captures, _, unseen⟩ := passed
    cases names with
    | nil => cases captures
    | cons first names =>
      rw [Token.placeholders_parameter, List.map_cons, List.cons.injEq] at captures
      cases captures.1
      exact unseen name List.mem_cons_self again
  | case6 seen afterParameter name rest alone fresh ih =>
    rw [ih]
    constructor
    · intro passed
      obtain ⟨following, apart, names, captures, distinct, unseen⟩ := passed
      refine ⟨fun after => absurd after alone, ⟨following rfl, apart⟩, name :: names, ?_, ?_, ?_⟩
      · rw [Token.placeholders_parameter, captures, List.map_cons]
      · rw [List.map_cons, List.nodup_cons]
        refine ⟨?_, distinct⟩
        intro again
        obtain ⟨other, member, same⟩ := List.mem_map.1 again
        exact unseen other member (same ▸ List.mem_cons_self)
      · intro other member
        rcases List.mem_cons.1 member with rfl | later
        · exact fresh
        · exact fun old => unseen other later (List.mem_cons_of_mem _ old)
    · intro passed
      obtain ⟨_, ⟨following, apart⟩, names, captures, distinct, unseen⟩ := passed
      cases names with
      | nil => cases captures
      | cons first names =>
        rw [Token.placeholders_parameter, List.map_cons, List.cons.injEq] at captures
        obtain ⟨⟨⟩, captures⟩ := captures
        obtain ⟨elsewhere, distinct⟩ := List.nodup_cons.1 distinct
        refine ⟨fun _ => following, apart, names, captures, distinct, ?_⟩
        intro other member seenOrFirst
        rcases List.mem_cons.1 seenOrFirst with same | old
        · exact elsewhere (List.mem_map.2 ⟨other, member, same⟩)
        · exact unseen other (List.mem_cons_of_mem _ member) old

def parts (layout : Layout) : List Component := layout.container :: layout.object

theorem names_eq (layout : Layout) : layout.names = layout.parts.flatMap Component.names := rfl

theorem ofComponents_eq_ok_iff {components : List Component} {layout : Layout} :
    ofComponents components = .ok layout ↔
      components = layout.parts ∧ layout.object ≠ [] ∧ [] ∉ layout.parts := by
  constructor
  · intro made
    unfold ofComponents at made
    split at made
    · split at made
      · cases made
      · rename_i filled
        cases made
        exact ⟨rfl, List.cons_ne_nil _ _, filled⟩
    · cases made
  · intro shape
    obtain ⟨rfl, several, filled⟩ := shape
    obtain ⟨container, object⟩ := layout
    obtain ⟨first, more, rfl⟩ := List.exists_cons_of_ne_nil several
    exact if_neg filled

theorem ofPattern_eq_ok_iff {pattern : String} {layout : Layout} :
    ofPattern pattern = .ok layout ↔ ∃ tokens, Token.ofPattern pattern = .ok tokens ∧
      checkTokens [] false tokens = .ok () ∧ ofComponents (components tokens) = .ok layout := by
  simp only [ofPattern, bind_eq_ok_iff]
  constructor
  · intro compiled
    obtain ⟨tokens, read, _, checked, made⟩ := compiled
    exact ⟨tokens, read, checked, made⟩
  · intro steps
    obtain ⟨tokens, read, checked, made⟩ := steps
    exact ⟨tokens, read, (), checked, made⟩

/-- The tokens behind a layout: its components are cut from them, and their placeholders are its
parameters. -/
theorem tokens_of_ofPattern {pattern : String} {layout : Layout}
    (compiled : ofPattern pattern = .ok layout) :
    ∃ tokens, Token.ofPattern pattern = .ok tokens ∧ components tokens = layout.parts ∧
      Token.placeholders tokens = layout.names.map .capture := by
  obtain ⟨tokens, read, checked, made⟩ := ofPattern_eq_ok_iff.1 compiled
  obtain ⟨cut, _, _⟩ := ofComponents_eq_ok_iff.1 made
  obtain ⟨names, captures, _, _⟩ := (checkTokens_eq_ok_iff.1 checked).2.2
  refine ⟨tokens, read, cut, ?_⟩
  rw [names_eq, ← cut, names_of_captures captures, captures]

/-- What a compiled pattern promises of its layout. -/
structure WellFormed (layout : Layout) : Prop where
  plain : ∀ component ∈ layout.parts, ∀ piece ∈ component, piece.Plain
  filled : ∀ component ∈ layout.parts, component ≠ []
  several : layout.object ≠ []
  distinct : (layout.names.map Text.lower).Nodup

theorem wellFormed_of_ofPattern {pattern : String} {layout : Layout}
    (compiled : ofPattern pattern = .ok layout) : layout.WellFormed := by
  obtain ⟨tokens, read, checked, made⟩ := ofPattern_eq_ok_iff.1 compiled
  obtain ⟨cut, several, filled⟩ := ofComponents_eq_ok_iff.1 made
  refine ⟨?_, ?_, several, ?_⟩
  · rw [← cut]
    exact plain_components (Token.plain_of_ofPattern read)
  · intro component member empty
    exact filled (empty ▸ member)
  · obtain ⟨names, captures, distinct, _⟩ := (checkTokens_eq_ok_iff.1 checked).2.2
    rwa [names_eq, ← cut, names_of_captures captures]

end Layout

end BlobDispatch
