import BlobDispatch.Proofs.Template.Layout
import BlobDispatch.Template.Basic

/-! Which patterns are templates, said of the text alone: how it is cut at the separators, where its
placeholders stand and what they are called. A layout spells the pattern that it was cut from, so
the container part and the object part are what stands around the first separator. -/

namespace BlobDispatch

namespace Component

private def braced (name : String) : String := String.ofList ('\x7b' :: name.toList ++ ['\x7d'])

private theorem spell_eq_fill (component : Component) : component.spell = component.fill braced := by
  induction component with
  | nil => rw [spell, fill, List.flatMap_nil, List.flatMap_nil]
  | cons piece rest ih =>
    cases piece with
    | literal text => rw [spell_literal, fill_literal, ih]
    | parameter name => rw [spell_parameter, fill_parameter, ih, braced, String.toList_ofList]

private theorem spell_eq_nil_iff {component : Component} (plain : ∀ piece ∈ component, piece.Plain) :
    component.spell = [] ↔ component = [] := by
  cases component with
  | nil => exact iff_of_true rfl rfl
  | cons piece rest =>
    refine iff_of_false ?_ (List.cons_ne_nil _ _)
    cases piece with
    | literal text =>
      obtain ⟨some, _⟩ := plain (.literal text) List.mem_cons_self
      simp [some]
    | parameter name => simp

private theorem slash_not_mem_spell {component : Component}
    (plain : ∀ piece ∈ component, piece.Plain)
    (named : ∀ name ∈ component.names, '/' ∉ name.toList) : '/' ∉ component.spell := by
  induction component with
  | nil => exact List.not_mem_nil
  | cons piece rest ih =>
    obtain ⟨first, later⟩ := List.forall_mem_cons.1 plain
    cases piece with
    | literal text =>
      rw [spell_literal, List.mem_append, not_or]
      exact ⟨first.2.1, ih later named⟩
    | parameter name =>
      rw [names_parameter] at named
      obtain ⟨here, named⟩ := List.forall_mem_cons.1 named
      rw [spell_parameter, List.mem_append, not_or]
      refine ⟨?_, ih later named⟩
      simp [here]

end Component

namespace Layout

section Read

variable {pattern : String} {tokens : List Token} {names : List String}

private theorem intercalate_spell (tokens : List Token) :
    ['/'].intercalate ((components tokens).map Component.spell) = tokens.flatMap Token.spell := by
  have filled := intercalate_components Component.braced tokens
  have token : Token.fill Component.braced = Token.spell := by
    funext t
    cases t with
    | literal text => rfl
    | parameter placeholder => exact String.toList_ofList
  have component : Component.fill Component.braced = Component.spell :=
    (funext Component.spell_eq_fill).symm
  rwa [token, component] at filled

private theorem written_eq (read : Token.ofPattern pattern = .ok tokens) :
    pattern.toList = ['/'].intercalate ((components tokens).map Component.spell) := by
  have spelled := congrArg String.toList (Token.spellAll_of_ofPattern read)
  rw [Token.spellAll, String.toList_ofList] at spelled
  rw [intercalate_spell, spelled]

private theorem slash_not_mem_of_components (read : Token.ofPattern pattern = .ok tokens)
    (captures : Token.placeholders tokens = names.map .capture) {component : Component}
    (member : component ∈ components tokens) : '/' ∉ component.spell := by
  have plain := plain_components (Token.plain_of_ofPattern read)
  apply Component.slash_not_mem_spell (plain component member)
  intro name declared
  have listed : name ∈ names := by
    rw [← names_of_captures captures]
    exact List.mem_flatMap.2 ⟨component, member, declared⟩
  refine (Token.isIdentifier_of_ofPattern read ?_).not_mem (by decide)
  rw [captures]
  exact List.mem_map_of_mem listed

/-- The parts of a pattern between its separators are what its components are written as. -/
private theorem splitOn_eq (read : Token.ofPattern pattern = .ok tokens)
    (captures : Token.placeholders tokens = names.map .capture) :
    pattern.toList.splitOn '/' = (components tokens).map Component.spell := by
  rw [written_eq read]
  apply List.splitOn_intercalate '/'
  · intro text member
    obtain ⟨component, inside, rfl⟩ := List.mem_map.1 member
    exact slash_not_mem_of_components read captures inside
  · simpa using components_ne_nil tokens

private theorem exists_ofComponents {components : List Component} :
    (∃ layout, ofComponents components = .ok layout) ↔
      2 ≤ components.length ∧ [] ∉ components := by
  constructor
  · intro made
    obtain ⟨layout, made⟩ := made
    obtain ⟨rfl, several, filled⟩ := ofComponents_eq_ok_iff.1 made
    exact ⟨Nat.succ_le_succ (List.length_pos_iff.2 several), filled⟩
  · intro shape
    obtain ⟨several, filled⟩ := shape
    match components with
    | [] => cases several
    | [container] => cases Nat.le_of_succ_le_succ several
    | container :: first :: more =>
      exact ⟨⟨container, first :: more⟩,
        ofComponents_eq_ok_iff.2 ⟨rfl, List.cons_ne_nil _ _, filled⟩⟩

/-- Tokens with plain names have a layout just where the parts of the pattern make one. -/
private theorem exists_layout_iff (read : Token.ofPattern pattern = .ok tokens)
    (captures : Token.placeholders tokens = names.map .capture) :
    (∃ layout, ofComponents (components tokens) = .ok layout) ↔
      2 ≤ (pattern.toList.splitOn '/').length ∧ [] ∉ pattern.toList.splitOn '/' := by
  have plain := plain_components (Token.plain_of_ofPattern read)
  have empty : [] ∈ (components tokens).map Component.spell ↔ [] ∈ components tokens := by
    rw [List.mem_map]
    constructor
    · intro blank
      obtain ⟨component, inside, spelled⟩ := blank
      exact (Component.spell_eq_nil_iff (plain component inside)).1 spelled ▸ inside
    · exact fun inside => ⟨[], inside, rfl⟩
  rw [exists_ofComponents, splitOn_eq read captures, List.length_map, empty]

end Read

variable {layout : Layout}

/-- The two parts of a layout stand on both sides of the first separator of its pattern. -/
private theorem parts_of_ofPattern {pattern : String} (compiled : ofPattern pattern = .ok layout) :
    '/' ∉ layout.containerPart.toList ∧
      layout.containerPart ++ "/" ++ layout.objectPart = pattern := by
  obtain ⟨tokens, read, cut, captures⟩ := tokens_of_ofPattern compiled
  constructor
  · rw [containerPart, String.toList_ofList]
    apply slash_not_mem_of_components read captures
    rw [cut]
    exact List.mem_cons_self
  · have several := (wellFormed_of_ofPattern compiled).several
    have written := written_eq read
    rw [cut, parts, List.map_cons, List.intercalate_cons_of_ne_nil (by simpa using several)]
      at written
    apply String.toList_inj.1
    rw [written]
    simp [containerPart, objectPart]

end Layout

namespace Template

theorem compile_cases (pattern : String) :
    (∃ layout compiled, compile pattern = .ok ⟨pattern, layout, compiled⟩) ∨
      ∃ fault, Layout.ofPattern pattern = .error fault ∧
        compile pattern = .error (.invalidPattern pattern fault) := by
  unfold compile
  split
  · rename_i layout compiled
    exact .inl ⟨layout, compiled, rfl⟩
  · rename_i fault refused
    exact .inr ⟨fault, refused, rfl⟩

/-- A template carries the proof that its pattern has a layout, so the pattern compiles to it. -/
theorem compile_eq_ok_iff {pattern : String} {t : Template} :
    compile pattern = .ok t ↔ t.pattern = pattern := by
  constructor
  · intro made
    rcases compile_cases pattern with ⟨layout, compiled, again⟩ | ⟨_, _, given⟩
    · cases made.symm.trans again
      rfl
    · cases made.symm.trans given
  · rintro rfl
    rcases compile_cases t.pattern with ⟨layout, compiled, made⟩ | ⟨_, refused, _⟩
    · rw [made, Except.ok.injEq]
      exact ext_pattern rfl
    · cases refused.symm.trans t.compiled

private theorem exists_compile_iff {pattern : String} :
    (∃ t, compile pattern = .ok t) ↔ ∃ layout, Layout.ofPattern pattern = .ok layout := by
  rcases compile_cases pattern with ⟨layout, compiled, made⟩ | ⟨fault, refused, given⟩
  · exact iff_of_true ⟨_, made⟩ ⟨layout, compiled⟩
  · rw [refused, given]
    exact iff_of_false (fun ⟨_, made⟩ => nomatch made) (fun ⟨_, made⟩ => nomatch made)

/-- The check of the tokens, said of the placeholders and of the text around them. -/
private theorem checked_iff {pattern : String} {tokens : List Token}
    (read : Token.ofPattern pattern = .ok tokens) :
    Layout.checkTokens [] false tokens = .ok () ↔
      (∀ placeholder ∈ Token.placeholders tokens, ∃ name, placeholder = .capture name ∧
        Placeholder.IsIdentifier name.toList) ∧
      ¬ ['\x7d', '\x7b'] <:+: pattern.toList ∧
      ((Token.placeholders tokens).map fun placeholder =>
        Text.lower placeholder.name).Nodup := by
  have spelled := congrArg String.toList (Token.spellAll_of_ofPattern read)
  rw [Token.spellAll, String.toList_ofList] at spelled
  rw [Layout.checkTokens_eq_ok_iff, Token.apart_iff (Token.plain_of_ofPattern read), spelled]
  constructor
  · intro passed
    obtain ⟨_, apart, names, captures, distinct, _⟩ := passed
    refine ⟨?_, apart, ?_⟩
    · intro placeholder member
      rw [captures] at member
      obtain ⟨name, _, rfl⟩ := List.mem_map.1 member
      rw [← captures] at member
      exact ⟨name, rfl, Token.isIdentifier_of_ofPattern read member⟩
    · rwa [captures, List.map_map]
  · intro conditions
    obtain ⟨plain, apart, distinct⟩ := conditions
    refine ⟨fun repeated => absurd repeated Bool.false_ne_true, apart,
      (Token.placeholders tokens).map Placeholder.name, ?_, ?_, ?_⟩
    · have kept : ∀ placeholder ∈ Token.placeholders tokens,
          (Placeholder.capture ∘ Placeholder.name) placeholder = id placeholder := by
        intro placeholder member
        obtain ⟨name, rfl, _⟩ := plain placeholder member
        rfl
      rw [List.map_map, List.map_congr_left kept, List.map_id]
    · rwa [List.map_map]
    · exact fun _ _ => List.not_mem_nil

/-- The patterns that are templates: those that can be read, with plain names that differ by more
than case and do not follow each other at once, and with two parts or more between separators, none
of them empty. Every other pattern is refused by a fault that carries it as it is. The names of a
template are those of its pattern from left to right, and the pattern is cut at its first separator
into the part for the container and the part for the object. -/
theorem compile_succeeds_iff (pattern : String) :
    ((∃ t, compile pattern = .ok t) ↔ ∃ tokens, Token.ofPattern pattern = .ok tokens ∧
      (∀ placeholder ∈ Token.placeholders tokens, ∃ name, placeholder = .capture name ∧
        Placeholder.IsIdentifier name.toList) ∧
      ¬ ['\x7d', '\x7b'] <:+: pattern.toList ∧
      ((Token.placeholders tokens).map fun placeholder => Text.lower placeholder.name).Nodup ∧
      2 ≤ (pattern.toList.splitOn '/').length ∧ [] ∉ pattern.toList.splitOn '/') ∧
    (∀ error, compile pattern = .error error → ∃ fault, error = .invalidPattern pattern fault) ∧
    ∀ t, compile pattern = .ok t → t.pattern = pattern ∧
      (∃ tokens, Token.ofPattern pattern = .ok tokens ∧ Token.spellAll tokens = pattern ∧
        t.names = (Token.placeholders tokens).map Placeholder.name) ∧
      '/' ∉ t.layout.containerPart.toList ∧
      t.layout.containerPart ++ "/" ++ t.layout.objectPart = pattern := by
  refine ⟨?_, ?_, ?_⟩
  · simp only [exists_compile_iff, Layout.ofPattern_eq_ok_iff]
    constructor
    · intro compiled
      obtain ⟨layout, tokens, read, checked, made⟩ := compiled
      obtain ⟨_, _, names, captures, _⟩ := Layout.checkTokens_eq_ok_iff.1 checked
      obtain ⟨plain, apart, distinct⟩ := (checked_iff read).1 checked
      have shape := (Layout.exists_layout_iff read captures).1 ⟨layout, made⟩
      exact ⟨tokens, read, plain, apart, distinct, shape⟩
    · intro conditions
      obtain ⟨tokens, read, plain, apart, distinct, shape⟩ := conditions
      have checked := (checked_iff read).2 ⟨plain, apart, distinct⟩
      obtain ⟨_, _, names, captures, _⟩ := Layout.checkTokens_eq_ok_iff.1 checked
      obtain ⟨layout, made⟩ := (Layout.exists_layout_iff read captures).2 shape
      exact ⟨layout, tokens, read, checked, made⟩
  · intro error refused
    rcases compile_cases pattern with ⟨_, _, made⟩ | ⟨fault, _, given⟩
    · cases refused.symm.trans made
    · cases refused.symm.trans given
      exact ⟨fault, rfl⟩
  · intro t made
    rcases compile_cases pattern with ⟨layout, compiled, again⟩ | ⟨_, _, given⟩
    · cases made.symm.trans again
      obtain ⟨tokens, read, _, captures⟩ := Layout.tokens_of_ofPattern compiled
      refine ⟨rfl, ⟨tokens, read, Token.spellAll_of_ofPattern read, ?_⟩,
        Layout.parts_of_ofPattern compiled⟩
      rw [captures, List.map_map]
      exact (List.map_id _).symm
    · cases made.symm.trans given

/-- A pattern with a parameter on each side of a separator, and one whose parameters touch. -/
theorem compile_succeeds_sample :
    (∃ t, compile "a{x}/{y}.b" = .ok t ∧ t.names = ["x", "y"] ∧
      t.layout.containerPart ++ "/" ++ t.layout.objectPart = "a{x}/{y}.b") ∧
    ∃ error fault, compile "a/{x}{y}" = .error error ∧
      error = .invalidPattern "a/{x}{y}" fault := by
  obtain ⟨_, _, whole⟩ := compile_succeeds_iff "a{x}/{y}.b"
  obtain ⟨_, refusals, _⟩ := compile_succeeds_iff "a/{x}{y}"
  obtain ⟨t, made, names⟩ : ∃ t, compile "a{x}/{y}.b" = .ok t ∧ t.names = ["x", "y"] :=
    ⟨_, rfl, rfl⟩
  obtain ⟨error, refused⟩ : ∃ error, compile "a/{x}{y}" = .error error := ⟨_, rfl⟩
  obtain ⟨fault, carried⟩ := refusals error refused
  exact ⟨⟨t, made, names, (whole t made).2.2.2⟩, error, fault, refused, carried⟩

end Template

end BlobDispatch
