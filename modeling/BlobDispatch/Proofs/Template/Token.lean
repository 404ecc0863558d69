import BlobDispatch.Proofs.Template.Placeholder
import BlobDispatch.Template.Token

/-! What the tokens of a pattern look like: their texts have no braces in them, no literal is empty,
the name of every capture is an identifier, and written out one after another they are the pattern.
A parameter therefore follows another just where the pattern has a closing brace before an opening
one. -/

namespace BlobDispatch

namespace Token

/-- The text of a token, with every placeholder replaced by the value under its name. -/
def fill (value : String → String) : Token → List Char
  | .literal text => text.toList
  | .parameter placeholder => (value placeholder.name).toList

def Braceless (text : List Char) : Prop := '\x7b' ∉ text ∧ '\x7d' ∉ text

theorem braceless_nil : Braceless [] := ⟨List.not_mem_nil, List.not_mem_nil⟩

theorem braceless_cons {c : Char} {text : List Char} :
    Braceless (c :: text) ↔ (c ≠ '\x7b' ∧ c ≠ '\x7d') ∧ Braceless text := by
  simp only [Braceless, List.mem_cons, not_or]
  constructor
  · intro free
    obtain ⟨⟨first, opened⟩, second, closed⟩ := free
    exact ⟨⟨Ne.symm first, Ne.symm second⟩, opened, closed⟩
  · intro free
    obtain ⟨⟨first, second⟩, opened, closed⟩ := free
    exact ⟨⟨Ne.symm first, opened⟩, Ne.symm second, closed⟩

theorem braceless_of_isName {text : List Char} (named : Placeholder.IsName text) :
    Braceless text :=
  ⟨named.not_mem (by decide) (by decide), named.not_mem (by decide) (by decide)⟩

section Scan

theorem scan_outside (c : Char) (rest : List Char) : scan none (c :: rest) =
    if c = '\x7b' then scan (some []) rest
    else if c = '\x7d' then .error .unopenedBrace
    else (scan none rest).map (consCharacter c) := rfl

theorem scan_inside (text : List Char) (c : Char) (rest : List Char) :
    scan (some text) (c :: rest) =
      if c = '\x7b' then .error .nestedBrace
      else if c = '\x7d' then
        match Placeholder.ofText? text.reverse with
        | .error fault => .error fault
        | .ok placeholder => (scan none rest).map (.parameter placeholder :: ·)
      else scan (some (c :: text)) rest := rfl

/-- How a text becomes tokens, a whole placeholder at a time. -/
inductive Reads : List Char → List Token → Prop where
  | nil : Reads [] []
  | character {c : Char} {rest : List Char} {tokens : List Token}
      (apart : c ≠ '\x7b' ∧ c ≠ '\x7d') (more : Reads rest tokens) :
      Reads (c :: rest) (consCharacter c tokens)
  | placeholder {text rest : List Char} {placeholder : Placeholder} {tokens : List Token}
      (named : Placeholder.ofText? text = .ok placeholder) (more : Reads rest tokens) :
      Reads ('\x7b' :: text ++ '\x7d' :: rest) (.parameter placeholder :: tokens)

/-- Where a text does not become tokens and why: after characters and placeholders there is a
closing brace, or an opening one that is followed by another, that is never closed or that has no
name after it. -/
inductive Refuses : List Char → Template.Fault → Prop where
  | character {c : Char} {rest : List Char} {fault : Template.Fault}
      (apart : c ≠ '\x7b' ∧ c ≠ '\x7d') (more : Refuses rest fault) : Refuses (c :: rest) fault
  | placeholder {text rest : List Char} {fault : Template.Fault} (named : Placeholder.IsName text)
      (more : Refuses rest fault) : Refuses ('\x7b' :: text ++ '\x7d' :: rest) fault
  | unopened (rest : List Char) : Refuses ('\x7d' :: rest) .unopenedBrace
  | nested {text : List Char} (braceless : Braceless text) (rest : List Char) :
      Refuses ('\x7b' :: text ++ '\x7b' :: rest) .nestedBrace
  | unclosed {text : List Char} (braceless : Braceless text) :
      Refuses ('\x7b' :: text) .unclosedBrace
  | misnamed {text : List Char} {fault : Template.Fault} (braceless : Braceless text)
      (refused : Placeholder.ofText? text = .error fault) (rest : List Char) :
      Refuses ('\x7b' :: text ++ '\x7d' :: rest) fault

/-- What the reader answers with is so. -/
def Answers (cs : List Char) : Except Template.Fault (List Token) → Prop
  | .ok tokens => Reads cs tokens
  | .error fault => Refuses cs fault

section Answers

variable {result : Except Template.Fault (List Token)} {rest : List Char}

private theorem Answers.character {c : Char} (apart : c ≠ '\x7b' ∧ c ≠ '\x7d')
    (answers : Answers rest result) : Answers (c :: rest) (result.map (consCharacter c)) := by
  cases result with
  | ok tokens => exact Reads.character apart answers
  | error fault => exact Refuses.character apart answers

private theorem Answers.placeholder {text : List Char} {placeholder : Placeholder}
    (named : Placeholder.ofText? text = .ok placeholder) (answers : Answers rest result) :
    Answers ('\x7b' :: text ++ '\x7d' :: rest) (result.map (.parameter placeholder :: ·)) := by
  cases result with
  | ok tokens => exact Reads.placeholder named answers
  | error fault =>
    exact Refuses.placeholder (Placeholder.exists_ofText?_iff.1 ⟨placeholder, named⟩) answers

end Answers

/-- The part of the pattern that is read and not yet a token: inside a placeholder the brace and
what came after it. -/
private def pending : Option (List Char) → List Char
  | none => []
  | some text => '\x7b' :: text.reverse

private theorem braceless_reverse {text : List Char} (braceless : Braceless text) :
    Braceless text.reverse :=
  ⟨by simpa using braceless.1, by simpa using braceless.2⟩

private theorem answers_pending (opened : Option (List Char)) (cs : List Char)
    (braceless : Braceless (opened.getD [])) : Answers (pending opened ++ cs) (scan opened cs) := by
  -- What stands between an open brace and here has no braces in it: they end the placeholder.
  induction cs generalizing opened with
  | nil =>
    cases opened with
    | none => exact Reads.nil
    | some text =>
      rw [List.append_nil]
      exact Refuses.unclosed (braceless_reverse braceless)
  | cons c rest ih =>
    cases opened with
    | none =>
      rw [scan_outside, pending, List.nil_append]
      split
      · rename_i opening
        subst opening
        exact ih (some []) braceless_nil
      · rename_i unopened
        split
        · rename_i closing
          subst closing
          exact Refuses.unopened rest
        · rename_i unclosed
          exact (ih none braceless_nil).character ⟨unopened, unclosed⟩
    | some text =>
      have inside : Braceless text := braceless
      rw [scan_inside, pending]
      split
      · rename_i opening
        subst opening
        exact Refuses.nested (braceless_reverse inside) rest
      · rename_i unopened
        split
        · rename_i closing
          subst closing
          split
          · rename_i refused
            exact Refuses.misnamed (braceless_reverse inside) refused rest
          · rename_i named
            exact (ih none braceless_nil).placeholder named
        · rename_i unclosed
          have longer := ih (some (c :: text)) (braceless_cons.2 ⟨⟨unopened, unclosed⟩, inside⟩)
          simpa [pending] using longer

/-- A braceless text after an open brace is taken in whole. -/
private theorem scan_text {text : List Char} (braceless : Braceless text)
    (read rest : List Char) :
    scan (some read) (text ++ rest) = scan (some (text.reverse ++ read)) rest := by
  induction text generalizing read with
  | nil => rfl
  | cons c text ih =>
    obtain ⟨apart, braceless⟩ := braceless_cons.1 braceless
    rw [List.cons_append, scan_inside, if_neg apart.1, if_neg apart.2, ih braceless]
    simp

private theorem scan_opening {text : List Char} (braceless : Braceless text) (rest : List Char) :
    scan none ('\x7b' :: text ++ rest) = scan (some text.reverse) rest := by
  rw [List.cons_append, scan_outside, if_pos rfl, scan_text braceless, List.append_nil]

theorem scan_placeholder {text : List Char} (braceless : Braceless text) (rest : List Char) :
    scan none ('\x7b' :: text ++ '\x7d' :: rest) =
      match Placeholder.ofText? text with
      | .error fault => .error fault
      | .ok placeholder => (scan none rest).map (.parameter placeholder :: ·) := by
  rw [scan_opening braceless, scan_inside, if_neg (by decide), if_pos rfl, List.reverse_reverse]

variable {cs : List Char}

theorem scan_eq_ok_iff {tokens : List Token} : scan none cs = .ok tokens ↔ Reads cs tokens := by
  constructor
  · intro read
    have answers := answers_pending none cs braceless_nil
    rw [read] at answers
    exact answers
  · intro reads
    induction reads with
    | nil => rfl
    | character apart _ ih =>
      rw [scan_outside, if_neg apart.1, if_neg apart.2, ih]
      rfl
    | placeholder named _ ih =>
      have name := Placeholder.exists_ofText?_iff.1 ⟨_, named⟩
      rw [scan_placeholder (braceless_of_isName name), named, ih]
      rfl

theorem scan_eq_error_iff {fault : Template.Fault} :
    scan none cs = .error fault ↔ Refuses cs fault := by
  constructor
  · intro refused
    have answers := answers_pending none cs braceless_nil
    rw [refused] at answers
    exact answers
  · intro refuses
    induction refuses with
    | character apart _ ih =>
      rw [scan_outside, if_neg apart.1, if_neg apart.2, ih]
      rfl
    | placeholder name _ ih =>
      obtain ⟨placeholder, named⟩ := Placeholder.exists_ofText?_iff.2 name
      rw [scan_placeholder (braceless_of_isName name), named, ih]
      rfl
    | unopened rest => rfl
    | nested braceless rest => rw [scan_opening braceless, scan_inside, if_pos rfl]
    | @unclosed text braceless =>
      have opening := scan_opening braceless []
      rw [List.append_nil] at opening
      rw [opening]
      rfl
    | misnamed braceless refused rest => rw [scan_placeholder braceless, refused]

end Scan

theorem ofPattern_eq_ok_iff {pattern : String} {tokens : List Token} :
    ofPattern pattern = .ok tokens ↔ Reads pattern.toList tokens := scan_eq_ok_iff

section Reads

variable {cs : List Char} {pattern : String} {tokens : List Token}

/-- What the reader promises of a token. -/
def Plain : Token → Prop
  | .literal text => text ≠ "" ∧ Braceless text.toList
  | .parameter placeholder => Braceless placeholder.name.toList

private theorem plain_consCharacter {c : Char} (apart : c ≠ '\x7b' ∧ c ≠ '\x7d')
    (plain : ∀ token ∈ tokens, token.Plain) :
    ∀ token ∈ consCharacter c tokens, token.Plain := by
  have alone : (Token.literal (String.ofList [c])).Plain := by
    refine ⟨by simp, ?_⟩
    rw [String.toList_ofList]
    exact braceless_cons.2 ⟨apart, braceless_nil⟩
  intro token member
  unfold consCharacter at member
  split at member
  · rename_i text rest
    rcases List.mem_cons.1 member with rfl | inside
    · refine ⟨by simp, ?_⟩
      rw [String.toList_ofList]
      exact braceless_cons.2 ⟨apart, (plain (.literal text) List.mem_cons_self).2⟩
    · exact plain token (List.mem_cons_of_mem _ inside)
  · rcases List.mem_cons.1 member with rfl | inside
    · exact alone
    · exact plain token inside

theorem Reads.plain (reads : Reads cs tokens) : ∀ token ∈ tokens, token.Plain := by
  induction reads with
  | nil => exact List.forall_mem_nil _
  | character apart _ ih => exact plain_consCharacter apart ih
  | placeholder named _ ih =>
    have name := Placeholder.exists_ofText?_iff.1 ⟨_, named⟩
    refine List.forall_mem_cons.2 ⟨?_, ih⟩
    rw [Plain, Placeholder.name_of_ofText? named]
    exact braceless_of_isName name

/-- Literals are not empty, and neither they nor the texts of placeholders have braces. -/
theorem plain_of_ofPattern (read : ofPattern pattern = .ok tokens) :
    ∀ token ∈ tokens, token.Plain :=
  (ofPattern_eq_ok_iff.1 read).plain

theorem placeholders_parameter (placeholder : Placeholder) (rest : List Token) :
    placeholders (.parameter placeholder :: rest) = placeholder :: placeholders rest := rfl

theorem placeholders_consCharacter (c : Char) (tokens : List Token) :
    placeholders (consCharacter c tokens) = placeholders tokens := by
  unfold consCharacter
  split
  · rfl
  · rfl

/-- Every placeholder is the one with its text. -/
theorem Reads.ofText? (reads : Reads cs tokens) : ∀ placeholder ∈ placeholders tokens,
    Placeholder.ofText? placeholder.name.toList = .ok placeholder := by
  induction reads with
  | nil => exact List.forall_mem_nil _
  | character _ _ ih =>
    rw [placeholders_consCharacter]
    exact ih
  | placeholder named _ ih =>
    rw [placeholders_parameter]
    refine List.forall_mem_cons.2 ⟨?_, ih⟩
    rw [Placeholder.name_of_ofText? named]
    exact named

theorem isIdentifier_of_ofPattern {name : String} (read : ofPattern pattern = .ok tokens)
    (member : .capture name ∈ placeholders tokens) : Placeholder.IsIdentifier name.toList :=
  Placeholder.isIdentifier_of_ofText? ((ofPattern_eq_ok_iff.1 read).ofText? _ member)

theorem spell_consCharacter (c : Char) (tokens : List Token) :
    (consCharacter c tokens).flatMap spell = c :: tokens.flatMap spell := by
  unfold consCharacter
  split
  · simp [spell]
  · simp [spell]

theorem Reads.spell (reads : Reads cs tokens) : tokens.flatMap Token.spell = cs := by
  induction reads with
  | nil => rfl
  | character _ _ ih => rw [spell_consCharacter, ih]
  | placeholder named _ ih =>
    rw [List.flatMap_cons, Token.spell, Placeholder.name_of_ofText? named, ih]
    simp

theorem spellAll_of_ofPattern (read : ofPattern pattern = .ok tokens) :
    spellAll tokens = pattern := by
  rw [spellAll, (ofPattern_eq_ok_iff.1 read).spell, String.ofList_toList]

end Reads

section Apart

def opens : List Token → Bool
  | .parameter _ :: _ => true
  | _ => false

/-- No parameter comes right after another. -/
def Apart : List Token → Prop
  | [] => True
  | .literal _ :: rest => Apart rest
  | .parameter _ :: rest => opens rest = false ∧ Apart rest

private theorem joint_cons {c : Char} (other : c ≠ '\x7d') (rest : List Char) :
    ['\x7d', '\x7b'] <:+: c :: rest ↔ ['\x7d', '\x7b'] <:+: rest := by
  rw [List.infix_cons_iff, List.cons_prefix_cons]
  simp [Ne.symm other]

private theorem joint_append {text : List Char} (unclosed : '\x7d' ∉ text) (rest : List Char) :
    ['\x7d', '\x7b'] <:+: text ++ rest ↔ ['\x7d', '\x7b'] <:+: rest := by
  induction text with
  | nil => rfl
  | cons c text ih =>
    rw [List.mem_cons, not_or] at unclosed
    rw [List.cons_append, joint_cons (Ne.symm unclosed.1), ih unclosed.2]

private theorem joint_closing (rest : List Char) :
    ['\x7d', '\x7b'] <:+: '\x7d' :: rest ↔
      (∃ more, rest = '\x7b' :: more) ∨ ['\x7d', '\x7b'] <:+: rest := by
  rw [List.infix_cons_iff, List.cons_prefix_cons]
  simp only [true_and]
  refine or_congr_left ?_
  constructor
  · intro begins
    obtain ⟨more, rfl⟩ := begins
    exact ⟨more, rfl⟩
  · intro begins
    obtain ⟨more, rfl⟩ := begins
    exact ⟨more, rfl⟩

private theorem opens_iff {tokens : List Token} (plain : ∀ token ∈ tokens, token.Plain) :
    opens tokens = true ↔ ∃ more, tokens.flatMap spell = '\x7b' :: more := by
  cases tokens with
  | nil => simp [opens]
  | cons token rest =>
    cases token with
    | parameter placeholder => exact iff_of_true rfl ⟨_, rfl⟩
    | literal text =>
      obtain ⟨some, unopened, _⟩ := plain (.literal text) List.mem_cons_self
      have written : text.toList ≠ [] := by simpa using some
      obtain ⟨first, more, split⟩ := List.exists_cons_of_ne_nil written
      refine iff_of_false nofun ?_
      intro begins
      obtain ⟨later, begins⟩ := begins
      rw [List.flatMap_cons, spell, split, List.cons_append, List.cons.injEq] at begins
      exact unopened (split ▸ begins.1 ▸ List.mem_cons_self)

/-- Tokens are apart when no closing brace of what they are written as comes before an opening
one. -/
theorem apart_iff {tokens : List Token} (plain : ∀ token ∈ tokens, token.Plain) :
    Apart tokens ↔ ¬ ['\x7d', '\x7b'] <:+: tokens.flatMap spell := by
  induction tokens with
  | nil => simp [Apart]
  | cons token rest ih =>
    obtain ⟨first, later⟩ := List.forall_mem_cons.1 plain
    rw [List.flatMap_cons]
    cases token with
    | literal text =>
      rw [spell, joint_append first.2.2]
      exact ih later
    | parameter placeholder =>
      have unclosed : '\x7d' ∉ '\x7b' :: placeholder.name.toList := by
        rw [List.mem_cons, not_or]
        exact ⟨by decide, first.2⟩
      rw [spell, List.append_assoc, joint_append unclosed, List.singleton_append, joint_closing,
        ← opens_iff later, not_or, ← ih later, Apart, Bool.not_eq_true]

end Apart

end Token

end BlobDispatch
