import BlobDispatch.Proofs.Success
import BlobDispatch.Proofs.Text.Lowercase
import BlobDispatch.Template.Placeholder
import Mathlib.Data.List.Basic

/-! Which texts may stand between the braces of a placeholder. A capture is named by an identifier,
and metadata by the marker with an identifier after it. No text is both, since the marker ends in a
dot. -/

namespace BlobDispatch.Placeholder

section Identifier

theorem isNameCharacter_of_isNameStart {c : Char} (start : isNameStart c = true) :
    isNameCharacter c = true := by
  rcases Bool.or_eq_true _ _ ▸ start with letter | underscore
  · simp [isNameCharacter, Char.isAlphanum, letter]
  · simp [isNameCharacter, underscore]

theorem ascii_of_isNameCharacter {c : Char} (named : isNameCharacter c = true) :
    c.toNat < 128 := by
  delta isNameCharacter Char.isAlphanum Char.isAlpha Char.isUpper Char.isLower Char.isDigit at named
  simp only [Bool.or_eq_true, Bool.and_eq_true, decide_eq_true_eq, beq_iff_eq,
    UInt32.le_iff_toNat_le] at named
  rcases named with ((upper | lower) | digit) | rfl
  · change 65 ≤ c.toNat ∧ c.toNat ≤ 90 at upper
    omega
  · change 97 ≤ c.toNat ∧ c.toNat ≤ 122 at lower
    omega
  · change 48 ≤ c.toNat ∧ c.toNat ≤ 57 at digit
    omega
  · decide

/-- What holds of the ASCII characters of names, looked at one by one, holds of all of them. -/
theorem of_isNameCharacter {P : Char → Prop}
    (table : ∀ n < 128, isNameCharacter (Char.ofNat n) = true → P (Char.ofNat n)) {c : Char}
    (named : isNameCharacter c = true) : P c :=
  Text.of_ascii (P := fun c => isNameCharacter c = true → P c) table
    (ascii_of_isNameCharacter named) named

theorem checkIdentifier_eq_ok_iff {text : List Char} :
    checkIdentifier text = .ok () ↔ IsIdentifier text := by
  unfold IsIdentifier
  cases text with
  | nil => simp [checkIdentifier]
  | cons first rest =>
    rw [checkIdentifier]
    split
    · rename_i start
      cases found : rest.find? fun c => !isNameCharacter c with
      | none =>
        have named : ∀ c ∈ rest, isNameCharacter c = true := by simpa using found
        exact iff_of_true rfl ⟨first, rest, rfl, start, named⟩
      | some bad =>
        have faulty : isNameCharacter bad = false := by simpa using List.find?_some found
        refine iff_of_false nofun ?_
        rintro ⟨_, _, ⟨⟩, _, named⟩
        exact absurd (named bad (List.mem_of_find?_eq_some found)) (by simp [faulty])
    · rename_i start
      refine iff_of_false nofun ?_
      rintro ⟨_, _, ⟨⟩, first, _⟩
      exact start first

namespace IsIdentifier

variable {text : List Char}

theorem isNameCharacter (identifier : IsIdentifier text) :
    ∀ c ∈ text, Placeholder.isNameCharacter c = true := by
  obtain ⟨first, rest, rfl, start, named⟩ := identifier
  exact List.forall_mem_cons.2 ⟨isNameCharacter_of_isNameStart start, named⟩

theorem ascii (identifier : IsIdentifier text) : ∀ c ∈ text, c.toNat < 128 :=
  fun c member => ascii_of_isNameCharacter (identifier.isNameCharacter c member)

theorem not_mem (identifier : IsIdentifier text) {c : Char}
    (other : Placeholder.isNameCharacter c = false) : c ∉ text := by
  intro member
  rw [identifier.isNameCharacter c member] at other
  cases other

theorem ne_nil (identifier : IsIdentifier text) : text ≠ [] := by
  obtain ⟨first, rest, rfl, _⟩ := identifier
  exact List.cons_ne_nil first rest

end IsIdentifier

end Identifier

section Marker

/-- The marker in some ASCII case, with an identifier after it. -/
def IsMarked (text : List Char) : Prop :=
  ∃ mark key, text = mark ++ key ∧ mark.map Char.toLower = marker.toList ∧ IsIdentifier key

theorem afterMarker?_eq_some_iff {text key : List Char} : afterMarker? text = some key ↔
    key ≠ [] ∧ ∃ mark, text = mark ++ key ∧ mark.map Char.toLower = marker.toList := by
  unfold afterMarker?
  constructor
  · intro found
    split at found
    · rename_i begins
      cases found
      refine ⟨?_, text.take marker.length, (List.take_append_drop _ _).symm, begins.1⟩
      rw [ne_eq, List.drop_eq_nil_iff, Nat.not_le]
      exact begins.2
    · cases found
  · rintro ⟨some, mark, rfl, same⟩
    have length : mark.length = marker.length := by
      have both := congrArg List.length same
      rwa [List.length_map, String.length_toList] at both
    have more : 0 < key.length := List.length_pos_of_ne_nil some
    rw [← length, List.take_left, List.drop_left, List.length_append, if_pos ⟨same, by omega⟩]

private theorem toLower_ne_dot {c : Char} (named : isNameCharacter c = true) :
    c.toLower ≠ '.' :=
  of_isNameCharacter (P := fun c => c.toLower ≠ '.') (by decide) named

theorem IsIdentifier.afterMarker?_eq_none {text : List Char} (identifier : IsIdentifier text) :
    afterMarker? text = none := by
  rw [Option.eq_none_iff_forall_ne_some]
  intro key found
  obtain ⟨_, mark, rfl, same⟩ := afterMarker?_eq_some_iff.1 found
  have dotted : '.' ∈ mark.map Char.toLower := by
    rw [same]
    decide
  obtain ⟨c, member, image⟩ := List.mem_map.1 dotted
  exact toLower_ne_dot (identifier.isNameCharacter c (List.mem_append_left _ member)) image

theorem ascii_marker : ∀ c ∈ marker.toList, c.toNat < 128 := by
  have all : (marker.toList.all fun c => decide (c.toNat < 128)) = true := by decide
  intro c member
  exact of_decide_eq_true (List.all_eq_true.1 all c member)

theorem ascii_of_mark {mark : List Char} (same : mark.map Char.toLower = marker.toList) :
    ∀ c ∈ mark, c.toNat < 128 := by
  intro c member
  have image : c.toLower ∈ marker.toList := same ▸ List.mem_map_of_mem member
  exact Text.ascii_of_toLower (ascii_marker _ image)

private theorem afterBytes_append {lead : List Char} (ascii : ∀ c ∈ lead, c.toNat < 128)
    (rest : List Char) : afterBytes lead.length (lead ++ rest) = some rest := by
  induction lead with
  | nil => cases rest <;> rfl
  | cons c lead ih =>
    obtain ⟨first, later⟩ := List.forall_mem_cons.1 ascii
    have single : c.utf8Size = 1 := Text.of_ascii (P := fun c => c.utf8Size = 1) (by decide) first
    rw [List.cons_append, List.length_cons, afterBytes, if_neg (Nat.succ_ne_zero _), single,
      if_pos (Nat.le_add_left _ _), Nat.add_sub_cancel, ih later]

/-- The mark has a byte for each of its characters, so the bytes that are skipped are the mark. -/
theorem key_of_mark {mark key : List Char} (same : mark.map Char.toLower = marker.toList) :
    (metadata (String.ofList (mark ++ key))).key = String.ofList key := by
  have bytes : marker.utf8ByteSize = mark.length := by
    have both := congrArg List.length same
    rw [List.length_map] at both
    rw [both]
    decide
  rw [Placeholder.key, String.toList_ofList, bytes, afterBytes_append (ascii_of_mark same),
    Option.getD_some]

theorem isMarked_iff {text : List Char} :
    IsMarked text ↔ ∃ key, afterMarker? text = some key ∧ IsIdentifier key := by
  constructor
  · rintro ⟨mark, key, split, same, identifier⟩
    exact ⟨key, afterMarker?_eq_some_iff.2 ⟨identifier.ne_nil, mark, split, same⟩, identifier⟩
  · rintro ⟨key, found, identifier⟩
    obtain ⟨_, mark, split, same⟩ := afterMarker?_eq_some_iff.1 found
    exact ⟨mark, key, split, same, identifier⟩

end Marker

/-- A text that may stand between the braces of a placeholder. -/
def IsName (text : List Char) : Prop := IsIdentifier text ∨ IsMarked text

theorem IsName.ascii {text : List Char} (named : IsName text) : ∀ c ∈ text, c.toNat < 128 := by
  rcases named with identifier | ⟨mark, key, rfl, same, identifier⟩
  · exact identifier.ascii
  · exact List.forall_mem_append.2 ⟨ascii_of_mark same, identifier.ascii⟩

theorem IsName.not_mem {text : List Char} (named : IsName text) {c : Char}
    (other : isNameCharacter c = false) (unmarked : c.toLower ∉ marker.toList) : c ∉ text := by
  rcases named with identifier | ⟨mark, key, rfl, same, identifier⟩
  · exact identifier.not_mem other
  · rw [List.mem_append, not_or]
    exact ⟨fun member => unmarked (same ▸ List.mem_map_of_mem member), identifier.not_mem other⟩

private theorem check_eq_ok_iff {text : List Char} {first second : Placeholder} :
    ((checkIdentifier text).map fun _ => first) = .ok second ↔
      IsIdentifier text ∧ first = second := by
  rw [map_eq_ok_iff, ← checkIdentifier_eq_ok_iff]
  exact ⟨fun ⟨_, checked, same⟩ => ⟨checked, same⟩, fun ⟨checked, same⟩ => ⟨(), checked, same⟩⟩

/-- A name is that of one placeholder, which is of the metadata form when the name is marked. -/
theorem ofText?_eq_ok_iff {text : List Char} {placeholder : Placeholder} :
    ofText? text = .ok placeholder ↔ placeholder.name.toList = text ∧ IsName text ∧
      (placeholder.isMetadata = true ↔ IsMarked text) := by
  unfold ofText?
  cases found : afterMarker? text with
  | some key =>
    have marked : IsMarked text ↔ IsIdentifier key := by
      rw [isMarked_iff, found]
      simp
    have named : IsName text ↔ IsIdentifier key := by
      rw [← marked]
      refine or_iff_right_of_imp fun identifier => ?_
      rw [identifier.afterMarker?_eq_none] at found
      cases found
    rw [check_eq_ok_iff, marked, named]
    constructor
    · rintro ⟨identifier, rfl⟩
      exact ⟨String.toList_ofList, identifier, iff_of_true rfl identifier⟩
    · rintro ⟨rfl, identifier, form⟩
      cases placeholder with
      | capture name => cases form.2 identifier
      | metadata text => exact ⟨identifier, congrArg metadata String.ofList_toList⟩
  | none =>
    have unmarked : ¬ IsMarked text := by
      rw [isMarked_iff, found]
      simp
    rw [check_eq_ok_iff, IsName, or_iff_left unmarked]
    constructor
    · rintro ⟨identifier, rfl⟩
      exact ⟨String.toList_ofList, identifier, iff_of_false nofun unmarked⟩
    · rintro ⟨rfl, identifier, form⟩
      cases placeholder with
      | capture name => exact ⟨identifier, congrArg capture String.ofList_toList⟩
      | metadata text => exact absurd (form.1 rfl) unmarked

theorem exists_ofText?_iff {text : List Char} :
    (∃ placeholder, ofText? text = .ok placeholder) ↔ IsName text := by
  simp only [ofText?_eq_ok_iff]
  constructor
  · rintro ⟨_, _, named, _⟩
    exact named
  · intro named
    by_cases marked : IsMarked text
    · exact ⟨.metadata (String.ofList text), String.toList_ofList, named, iff_of_true rfl marked⟩
    · exact ⟨.capture (String.ofList text), String.toList_ofList, named,
        iff_of_false nofun marked⟩

theorem name_of_ofText? {text : List Char} {placeholder : Placeholder}
    (read : ofText? text = .ok placeholder) : placeholder.name.toList = text :=
  (ofText?_eq_ok_iff.1 read).1

theorem isIdentifier_of_ofText? {text : List Char} {name : String}
    (read : ofText? text = .ok (.capture name)) : IsIdentifier name.toList := by
  obtain ⟨rfl, identifier | marked, form⟩ := ofText?_eq_ok_iff.1 read
  · exact identifier
  · cases form.2 marked

end BlobDispatch.Placeholder
