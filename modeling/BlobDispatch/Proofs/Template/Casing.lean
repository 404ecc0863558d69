import BlobDispatch.Proofs.FoldedMap
import BlobDispatch.Proofs.Template.Token
import BlobDispatch.Template.Basic
import Mathlib.Data.List.Forall2

/-! Patterns that differ in the case of their names only, and the tokens that are read from them. A
name in another case is a name of the same form, so where one pattern is read the other is, to the
same literals and to placeholders that are looked up alike. -/

namespace BlobDispatch

namespace Placeholder

section Letters

variable {text other : List Char}

private theorem isIdentifier_map_toLower :
    IsIdentifier (text.map Char.toLower) ↔ IsIdentifier text := by
  have start : ∀ c : Char, isNameStart c.toLower = isNameStart c := Text.apply_toLower (by decide)
  have inner : ∀ c : Char, isNameCharacter c.toLower = isNameCharacter c :=
    Text.apply_toLower (by decide)
  unfold IsIdentifier
  cases text with
  | nil => simp
  | cons first rest => simp [start, inner]

theorem IsIdentifier.recased (identifier : IsIdentifier text)
    (same : text.map Char.toLower = other.map Char.toLower) : IsIdentifier other := by
  rwa [← isIdentifier_map_toLower, ← same, isIdentifier_map_toLower]

/-- Marked texts that differ in case have keys that differ in case. -/
private theorem exists_keys (marked : IsMarked text)
    (same : text.map Char.toLower = other.map Char.toLower) : ∃ mark key otherMark otherKey,
      text = mark ++ key ∧ mark.map Char.toLower = marker.toList ∧ IsIdentifier key ∧
        other = otherMark ++ otherKey ∧ otherMark.map Char.toLower = marker.toList ∧
        IsIdentifier otherKey ∧ key.map Char.toLower = otherKey.map Char.toLower := by
  obtain ⟨mark, key, rfl, begins, identifier⟩ := marked
  rw [List.map_append] at same
  obtain ⟨otherMark, otherKey, rfl, marks, keys⟩ := List.map_eq_append_iff.1 same.symm
  exact ⟨mark, key, otherMark, otherKey, rfl, begins, identifier, rfl, marks.trans begins,
    identifier.recased keys.symm, keys.symm⟩

theorem IsMarked.recased (marked : IsMarked text)
    (same : text.map Char.toLower = other.map Char.toLower) : IsMarked other := by
  obtain ⟨_, _, mark, key, _, _, _, split, begins, identifier, _⟩ := exists_keys marked same
  exact ⟨mark, key, split, begins, identifier⟩

private theorem lower_ofList_eq (ascii : ∀ c ∈ text, c.toNat < 128)
    (small : ∀ c ∈ other, c.toNat < 128)
    (same : text.map Char.toLower = other.map Char.toLower) :
    Text.lower (String.ofList text) = Text.lower (String.ofList other) := by
  apply Text.lower_eq_of_sameAsciiFold
  · rwa [String.toList_ofList]
  · rwa [String.toList_ofList]
  · rw [Text.sameAsciiFold, String.toList_ofList, String.toList_ofList, beq_iff_eq, same]

end Letters

/-- Placeholders of one form whose names fold alike, and whose keys do. -/
inductive Alike : Placeholder → Placeholder → Prop where
  | capture {name other : String} (named : Text.lower name = Text.lower other) :
      Alike (.capture name) (.capture other)
  | metadata {text other : String} (named : Text.lower text = Text.lower other)
      (keyed : Text.lower (Placeholder.metadata text).key =
        Text.lower (Placeholder.metadata other).key) :
      Alike (.metadata text) (.metadata other)

variable {first second : Placeholder}

theorem Alike.named (alike : first.Alike second) :
    Text.lower first.name = Text.lower second.name := by
  cases alike with
  | capture named => exact named
  | metadata named _ => exact named

theorem Alike.value?_eq (alike : first.Alike second) (binding : Binding) (metadata : Metadata) :
    first.value? binding metadata = second.value? binding metadata := by
  cases alike with
  | capture named => exact FoldedMap.get?_congr named binding
  | metadata _ keyed => exact FoldedMap.get?_congr keyed metadata

/-- A name in another case is that of an alike placeholder. -/
theorem exists_alike {text other : List Char} (read : ofText? text = .ok first)
    (same : text.map Char.toLower = other.map Char.toLower) :
    ∃ second, ofText? other = .ok second ∧ first.Alike second := by
  obtain ⟨rfl, named, form⟩ := ofText?_eq_ok_iff.1 read
  cases first with
  | capture name =>
    have unmarked : ¬ IsMarked name.toList := fun marked => nomatch form.2 marked
    have identifier : IsIdentifier name.toList := named.resolve_right unmarked
    have again := identifier.recased same
    refine ⟨.capture (String.ofList other), ofText?_eq_ok_iff.2 ⟨String.toList_ofList, .inl again,
      iff_of_false nofun fun marked => unmarked (marked.recased same.symm)⟩, .capture ?_⟩
    have folded := lower_ofList_eq identifier.ascii again.ascii same
    rwa [String.ofList_toList] at folded
  | metadata text =>
    have marked : IsMarked text.toList := form.1 rfl
    have again := marked.recased same
    refine ⟨.metadata (String.ofList other), ofText?_eq_ok_iff.2 ⟨String.toList_ofList, .inr again,
      iff_of_true rfl again⟩, .metadata ?_ ?_⟩
    · have folded := lower_ofList_eq named.ascii (IsName.ascii (.inr again)) same
      rwa [String.ofList_toList] at folded
    · obtain ⟨mark, key, otherMark, otherKey, split, begins, identifier, rfl, otherBegins,
        otherIdentifier, keys⟩ := exists_keys marked same
      have written : text = String.ofList (mark ++ key) := by rw [← split, String.ofList_toList]
      rw [written, key_of_mark begins, key_of_mark otherBegins]
      exact lower_ofList_eq identifier.ascii otherIdentifier.ascii keys

end Placeholder

namespace Token

/-- How many braces stand open after a character. -/
def openAfter (opened : Nat) (c : Char) : Nat :=
  if c = '\x7b' then opened + 1 else if c = '\x7d' then opened - 1 else opened

/-- A pattern with the ASCII letters inside its braces in lower case, after as many open braces. -/
def lowerNames (opened : Nat) : List Char → List Char
  | [] => []
  | c :: rest => (if opened = 0 then c else c.toLower) :: lowerNames (openAfter opened c) rest

/-- The patterns differ in nothing but the case of ASCII letters inside braces. -/
def Recased (first second : String) : Prop :=
  lowerNames 0 first.toList = lowerNames 0 second.toList

instance (first second : String) : Decidable (Recased first second) :=
  inferInstanceAs (Decidable (_ = _))

/-- Equal literals, and placeholders that are alike. -/
inductive Alike : Token → Token → Prop where
  | literal (text : String) : Alike (.literal text) (.literal text)
  | parameter {first second : Placeholder} (alike : first.Alike second) :
      Alike (.parameter first) (.parameter second)

variable {tokens others : List Token}

section Reading

private theorem toLower_eq_closing (c : Char) : (c.toLower = '\x7d') = (c = '\x7d') :=
  Text.apply_toLower (f := fun c => c = '\x7d') (by decide) c

private theorem openAfter_toLower (c : Char) : openAfter 1 c.toLower = openAfter 1 c :=
  Text.apply_toLower (by decide) c

private theorem openAfter_of_apart {c : Char} (apart : c ≠ '\x7b' ∧ c ≠ '\x7d') (opened : Nat) :
    openAfter opened c = opened := by
  rw [openAfter, if_neg apart.1, if_neg apart.2]

private theorem lowerNames_opened {text : List Char} (braceless : Braceless text)
    (rest : List Char) : lowerNames 1 (text ++ '\x7d' :: rest) =
      text.map Char.toLower ++ '\x7d' :: lowerNames 0 rest := by
  induction text with
  | nil => rfl
  | cons c text ih =>
    obtain ⟨apart, braceless⟩ := braceless_cons.1 braceless
    rw [List.cons_append, lowerNames, if_neg Nat.one_ne_zero, openAfter_of_apart apart,
      ih braceless, List.map_cons, List.cons_append]

/-- A pattern that is lowered to a name and what is after it has that name in some case. -/
private theorem split_of_lowerNames {text tail cs : List Char} (braceless : Braceless text)
    (same : lowerNames 1 cs = text.map Char.toLower ++ '\x7d' :: tail) :
    ∃ other rest, cs = other ++ '\x7d' :: rest ∧
      text.map Char.toLower = other.map Char.toLower ∧ tail = lowerNames 0 rest := by
  -- No character is a brace in another case, so the name ends at the same place.
  induction text generalizing cs with
  | nil =>
    cases cs with
    | nil => cases same
    | cons c rest =>
      obtain ⟨first, later⟩ := List.cons.inj same
      rw [if_neg Nat.one_ne_zero, toLower_eq_closing] at first
      subst first
      exact ⟨[], rest, rfl, rfl, later.symm⟩
  | cons a text ih =>
    obtain ⟨apart, braceless⟩ := braceless_cons.1 braceless
    cases cs with
    | nil => cases same
    | cons c cs =>
      obtain ⟨first, later⟩ := List.cons.inj same
      rw [if_neg Nat.one_ne_zero] at first
      have inside : openAfter 1 c = 1 := by
        rw [← openAfter_toLower, first, openAfter_toLower, openAfter_of_apart apart]
      rw [inside] at later
      obtain ⟨other, rest, rfl, names, tails⟩ := ih braceless later
      exact ⟨c :: other, rest, rfl, by rw [List.map_cons, List.map_cons, first, names], tails⟩

private theorem consCharacter_alike (c : Char) (alike : List.Forall₂ Alike tokens others) :
    List.Forall₂ Alike (consCharacter c tokens) (consCharacter c others) := by
  cases alike with
  | nil => exact .cons (.literal _) .nil
  | cons first rest =>
    cases first with
    | literal text => exact .cons (.literal _) rest
    | parameter alike => exact .cons (.literal _) (.cons (.parameter alike) rest)

/-- A pattern in another case is read as tokens that are alike. -/
theorem Reads.recased {cs ds : List Char} (reads : Reads cs tokens)
    (same : lowerNames 0 cs = lowerNames 0 ds) :
    ∃ others, Reads ds others ∧ List.Forall₂ Alike tokens others := by
  induction reads generalizing ds with
  | nil =>
    cases ds with
    | nil => exact ⟨[], .nil, .nil⟩
    | cons d ds => cases same
  | @character c rest tokens apart _ ih =>
    cases ds with
    | nil => cases same
    | cons d ds =>
      obtain ⟨first, later⟩ := List.cons.inj same
      rw [if_pos rfl, if_pos rfl] at first
      subst first
      rw [openAfter_of_apart apart] at later
      obtain ⟨others, read, alike⟩ := ih later
      exact ⟨consCharacter c others, .character apart read, consCharacter_alike c alike⟩
  | @placeholder text rest placeholder tokens named _ ih =>
    have braceless := braceless_of_isName (Placeholder.exists_ofText?_iff.1 ⟨_, named⟩)
    cases ds with
    | nil => cases same
    | cons d ds =>
      obtain ⟨first, later⟩ := List.cons.inj same
      rw [if_pos rfl, if_pos rfl] at first
      subst first
      obtain ⟨other, after, rfl, names, tails⟩ :=
        split_of_lowerNames braceless (later.symm.trans (lowerNames_opened braceless rest))
      obtain ⟨second, again, alike⟩ := Placeholder.exists_alike named names
      obtain ⟨others, read, rest⟩ := ih tails
      exact ⟨.parameter second :: others, .placeholder again read, .cons (.parameter alike) rest⟩

end Reading

end Token

end BlobDispatch
