import BlobDispatch.Proofs.Template.Layout

/-! Substitution into the text of a pattern: every name in braces gives way to its value. On a text
that is read as tokens it does what filling the tokens does, and on what a layout is written as what
filling the pieces does. Separators are never inside a name, so what is filled can be cut where the
pattern has one. -/

namespace BlobDispatch

/-- Replaces the names in braces by their values and leaves all other text. Outside braces `opened`
is `none`; inside it holds, reversed, the text since the brace. -/
def substituteFrom (value : String → String) (opened : Option (List Char)) :
    List Char → List Char
  | [] =>
    match opened with
    | none => []
    | some text => '\x7b' :: text.reverse
  | c :: rest =>
    match opened with
    | none =>
      if c = '\x7b' then substituteFrom value (some []) rest
      else c :: substituteFrom value none rest
    | some text =>
      if c = '\x7d' then
        (value (String.ofList text.reverse)).toList ++ substituteFrom value none rest
      else substituteFrom value (some (c :: text)) rest

def substitute (value : String → String) (text : String) : String :=
  String.ofList (substituteFrom value none text.toList)

section From

variable (value : String → String)

theorem substituteFrom_outside (c : Char) (rest : List Char) :
    substituteFrom value none (c :: rest) =
      if c = '\x7b' then substituteFrom value (some []) rest
      else c :: substituteFrom value none rest := rfl

theorem substituteFrom_inside (text : List Char) (c : Char) (rest : List Char) :
    substituteFrom value (some text) (c :: rest) =
      if c = '\x7d' then
        (value (String.ofList text.reverse)).toList ++ substituteFrom value none rest
      else substituteFrom value (some (c :: text)) rest := rfl

theorem substituteFrom_literal {text : List Char} (braceless : Token.Braceless text)
    (rest : List Char) :
    substituteFrom value none (text ++ rest) = text ++ substituteFrom value none rest := by
  induction text with
  | nil => rfl
  | cons c text ih =>
    obtain ⟨⟨unopened, _⟩, braceless⟩ := Token.braceless_cons.1 braceless
    rw [List.cons_append, substituteFrom_outside, if_neg unopened, ih braceless, List.cons_append]

private theorem substituteFrom_opened {name : List Char} (braceless : Token.Braceless name)
    (seen rest : List Char) : substituteFrom value (some seen) (name ++ '\x7d' :: rest) =
      (value (String.ofList (seen.reverse ++ name))).toList ++ substituteFrom value none rest := by
  -- The text read so far grows by the first character of what is left of the name.
  induction name generalizing seen with
  | nil => rw [List.nil_append, substituteFrom_inside, if_pos rfl, List.append_nil]
  | cons c name ih =>
    obtain ⟨⟨_, unclosed⟩, braceless⟩ := Token.braceless_cons.1 braceless
    rw [List.cons_append, substituteFrom_inside, if_neg unclosed, ih braceless, List.reverse_cons,
      List.append_assoc, List.singleton_append]

theorem substituteFrom_parameter {name : String} (braceless : Token.Braceless name.toList)
    (rest : List Char) : substituteFrom value none ('\x7b' :: name.toList ++ ['\x7d'] ++ rest) =
      (value name).toList ++ substituteFrom value none rest := by
  rw [List.cons_append, List.cons_append, List.append_assoc, List.singleton_append,
    substituteFrom_outside, if_pos rfl, substituteFrom_opened value braceless, List.reverse_nil,
    List.nil_append, String.ofList_toList]

theorem substituteFrom_spell {component : Component} (plain : ∀ piece ∈ component, piece.Plain)
    (rest : List Char) : substituteFrom value none (component.spell ++ rest) =
      component.fill value ++ substituteFrom value none rest := by
  induction component with
  | nil => rfl
  | cons piece component ih =>
    have first := plain piece List.mem_cons_self
    have later := ih fun other member => plain other (List.mem_cons_of_mem _ member)
    cases piece with
    | literal text =>
      rw [Component.spell_literal, List.append_assoc, substituteFrom_literal value first.2.2, later,
        Component.fill_literal, List.append_assoc]
    | parameter name =>
      rw [Component.spell_parameter, List.append_assoc, substituteFrom_parameter value first, later,
        Component.fill_parameter, List.append_assoc]

theorem substituteFrom_spells {components : List Component}
    (plain : ∀ component ∈ components, ∀ piece ∈ component, piece.Plain) :
    substituteFrom value none (['/'].intercalate (components.map Component.spell)) =
      ['/'].intercalate (components.map (Component.fill value)) := by
  induction components with
  | nil => rfl
  | cons component rest ih =>
    have first := substituteFrom_spell value (plain component List.mem_cons_self)
    have later := ih fun other member => plain other (List.mem_cons_of_mem _ member)
    cases rest with
    | nil =>
      have alone := first []
      rw [List.append_nil] at alone
      simpa [substituteFrom] using alone
    | cons second rest =>
      rw [List.map_cons, List.map_cons, List.intercalate_cons_cons, List.append_assoc, first,
        List.singleton_append, substituteFrom_outside, if_neg (by decide)]
      rw [List.map_cons] at later
      rw [later]
      simp [List.intercalate_cons_cons]

end From

namespace Token

variable (value : String → String)

theorem fill_consCharacter (c : Char) (tokens : List Token) :
    (consCharacter c tokens).flatMap (fill value) = c :: tokens.flatMap (fill value) := by
  unfold consCharacter
  split
  · simp [fill]
  · simp [fill]

theorem Reads.substituteFrom_append {cs : List Char} {tokens : List Token}
    (reads : Reads cs tokens) (rest : List Char) :
    substituteFrom value none (cs ++ rest) =
      tokens.flatMap (fill value) ++ substituteFrom value none rest := by
  induction reads with
  | nil => rfl
  | character apart _ ih =>
    rw [List.cons_append, substituteFrom_outside, if_neg apart.1, ih, fill_consCharacter,
      List.cons_append]
  | @placeholder text others placeholder tokens named _ ih =>
    obtain rfl := Placeholder.name_of_ofText? named
    have braceless := braceless_of_isName (Placeholder.exists_ofText?_iff.1 ⟨_, named⟩)
    have regroup : '\x7b' :: placeholder.name.toList ++ '\x7d' :: others ++ rest =
        '\x7b' :: placeholder.name.toList ++ ['\x7d'] ++ (others ++ rest) := by simp
    rw [regroup, substituteFrom_parameter value braceless, ih, List.flatMap_cons, fill,
      List.append_assoc]

theorem substitute_of_reads {cs : List Char} {tokens : List Token} (reads : Reads cs tokens) :
    substitute value (String.ofList cs) = String.ofList (tokens.flatMap (fill value)) := by
  have whole := reads.substituteFrom_append value []
  rw [List.append_nil] at whole
  rw [substitute, String.toList_ofList, whole, substituteFrom, List.append_nil]

theorem fill_congr {value other : String → String} {tokens : List Token}
    (agree : ∀ placeholder ∈ placeholders tokens,
      value placeholder.name = other placeholder.name) :
    tokens.flatMap (fill value) = tokens.flatMap (fill other) := by
  induction tokens with
  | nil => rfl
  | cons token rest ih =>
    cases token with
    | literal text => rw [List.flatMap_cons, List.flatMap_cons, ih agree, fill, fill]
    | parameter placeholder =>
      obtain ⟨first, later⟩ := List.forall_mem_cons.1 agree
      rw [List.flatMap_cons, List.flatMap_cons, ih later, fill, fill, first]

theorem fill_free {value : String → String} {tokens : List Token}
    (free : ∀ placeholder ∈ placeholders tokens, '/' ∉ (value placeholder.name).toList)
    (plain : '/' ∉ tokens.flatMap spell) :
    '/' ∉ tokens.flatMap (fill value) := by
  induction tokens with
  | nil => exact List.not_mem_nil
  | cons token rest ih =>
    rw [List.flatMap_cons, List.mem_append, not_or] at plain ⊢
    cases token with
    | literal text => exact ⟨plain.1, ih free plain.2⟩
    | parameter placeholder =>
      obtain ⟨first, later⟩ := List.forall_mem_cons.1 free
      exact ⟨first, ih later plain.2⟩

private theorem split_after {lead rest before after : List Char} (free : '/' ∉ lead)
    (split : lead ++ rest = before ++ '/' :: after) (first : '/' ∉ before) :
    ∃ later, before = lead ++ later ∧ rest = later ++ '/' :: after := by
  rcases List.append_eq_append_iff.1 split with ⟨later, rfl, cut⟩ | ⟨more, rfl, cut⟩
  · exact ⟨later, rfl, cut⟩
  · cases more with
    | nil => exact ⟨[], by simp, by simpa using cut.symm⟩
    | cons c more =>
      rw [List.cons_append, List.cons.injEq] at cut
      exact absurd (List.mem_append_right _ (cut.1 ▸ List.mem_cons_self)) free

/-- A separator in a pattern is outside all placeholders and cuts the tokens in two. -/
theorem Reads.cut {cs before after : List Char} {tokens : List Token} (reads : Reads cs tokens)
    (split : cs = before ++ '/' :: after) (first : '/' ∉ before) :
    ∃ head tail, Reads before head ∧ Reads after tail ∧
      placeholders tokens = placeholders head ++ placeholders tail ∧
      ∀ value, tokens.flatMap (fill value) =
        head.flatMap (fill value) ++ '/' :: tail.flatMap (fill value) := by
  induction reads generalizing before with
  | nil => simp at split
  | @character c rest tokens apart more ih =>
    cases before with
    | nil =>
      obtain ⟨rfl, rfl⟩ := List.cons.inj split
      exact ⟨[], tokens, .nil, more, placeholders_consCharacter _ _,
        fun value => fill_consCharacter value _ _⟩
    | cons b before =>
      obtain ⟨rfl, later⟩ := List.cons.inj split
      obtain ⟨head, tail, front, back, asked, filled⟩ :=
        ih later fun inside => first (List.mem_cons_of_mem _ inside)
      refine ⟨consCharacter c head, tail, .character apart front, back, ?_, ?_⟩
      · rw [placeholders_consCharacter, placeholders_consCharacter, asked]
      · intro value
        rw [fill_consCharacter, fill_consCharacter, filled, List.cons_append]
  | @placeholder name rest placeholder tokens named more ih =>
    have isName := Placeholder.exists_ofText?_iff.1 ⟨_, named⟩
    have free : '/' ∉ '\x7b' :: name ++ ['\x7d'] := by
      have inside := isName.not_mem (c := '/') (by decide) (by decide)
      simp [inside]
    obtain ⟨later, rfl, cut⟩ := split_after free (by simpa using split) first
    obtain ⟨head, tail, front, back, asked, filled⟩ :=
      ih cut fun inside => first (List.mem_append_right _ inside)
    refine ⟨.parameter placeholder :: head, tail, ?_, back, ?_, ?_⟩
    · simpa using Reads.placeholder named front
    · rw [placeholders_parameter, placeholders_parameter, asked, List.cons_append]
    · intro value
      rw [List.flatMap_cons, List.flatMap_cons, filled, List.append_assoc]

end Token

namespace Layout.WellFormed

variable {layout : Layout}

theorem substitute_containerPart (wellFormed : layout.WellFormed) (value : String → String) :
    substitute value layout.containerPart = String.ofList (layout.container.fill value) := by
  have plain := wellFormed.plain layout.container List.mem_cons_self
  have filled := substituteFrom_spell value plain []
  rw [List.append_nil] at filled
  rw [substitute, containerPart, String.toList_ofList, filled]
  simp [substituteFrom]

theorem substitute_objectPart (wellFormed : layout.WellFormed) (value : String → String) :
    substitute value layout.objectPart =
      String.ofList (['/'].intercalate (layout.object.map (Component.fill value))) := by
  have plain component (member : component ∈ layout.object) :=
    wellFormed.plain component (List.mem_cons_of_mem _ member)
  rw [substitute, objectPart, String.toList_ofList, substituteFrom_spells value plain]

end Layout.WellFormed

end BlobDispatch
