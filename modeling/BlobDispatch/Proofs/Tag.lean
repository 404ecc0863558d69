import BlobDispatch.Proofs.Text.ByteOrder
import BlobDispatch.Proofs.Text.Digits
import BlobDispatch.Tag
import Mathlib.Data.List.TakeWhile

/-! Tags as texts. The text of a tag is read back as the tag, in quotes or out of them, and sorts as
the tag does. What else is read as a tag is stated as a form of texts: quotes at the two ends, the
marker, at most one plus sign, and digits that write a number below 2^64. -/

namespace BlobDispatch.Tag

open Text

/-- A text with double quotes put before it and after it. -/
def quotedBy (left right : Nat) (text : List Char) : List Char :=
  List.replicate left '\"' ++ text ++ List.replicate right '\"'

/-- The texts that write a number as a tag, with all that a reader puts up with. -/
def Writes (s : String) (value : Nat) : Prop :=
  ∃ left right sign digits, s.toList = quotedBy left right ('0' :: 'x' :: (sign ++ digits)) ∧
    (sign = [] ∨ sign = ['+']) ∧ digits ≠ [] ∧ WritesHex digits value

section Quotes

private theorem exists_quotes_before (text : List Char) :
    ∃ count, text = List.replicate count '\"' ++ text.dropWhile (· == '\"') := by
  have quotes : text.takeWhile (· == '\"') =
      List.replicate (text.takeWhile (· == '\"')).length '\"' := by
    apply List.eq_replicate_of_mem
    intro c member
    simpa using List.mem_takeWhile_imp member
  exact ⟨_, by rw [← quotes, List.takeWhile_append_dropWhile]⟩

theorem exists_quotedBy (text : List Char) :
    ∃ left right, text = quotedBy left right (trimQuotes text) := by
  obtain ⟨left, before⟩ := exists_quotes_before text
  obtain ⟨right, after⟩ := exists_quotes_before (text.dropWhile (· == '\"')).reverse
  have behind := congrArg List.reverse after
  rw [List.reverse_reverse, List.reverse_append, List.reverse_replicate] at behind
  refine ⟨left, right, ?_⟩
  rw [quotedBy, List.append_assoc, trimQuotes, ← behind]
  exact before

private theorem dropWhile_quotes (count : Nat) {text : List Char} (bare : text.head? ≠ some '\"') :
    (List.replicate count '\"' ++ text).dropWhile (· == '\"') = text := by
  rw [List.dropWhile_append_of_pos (by simp)]
  cases text with
  | nil => rfl
  | cons c rest => exact List.dropWhile_cons_of_neg (by simpa using bare)

theorem trimQuotes_quotedBy {text : List Char} (apart : text ≠ [])
    (first : text.head? ≠ some '\"') (last : text.getLast? ≠ some '\"') (left right : Nat) :
    trimQuotes (quotedBy left right text) = text := by
  have ahead : (text ++ List.replicate right '\"').head? ≠ some '\"' := by
    rwa [List.head?_append_of_ne_nil _ apart]
  have behind : text.reverse.head? ≠ some '\"' := by rwa [List.head?_reverse]
  rw [quotedBy, List.append_assoc, trimQuotes, dropWhile_quotes left ahead, List.reverse_append,
    List.reverse_replicate, dropWhile_quotes right behind, List.reverse_reverse]

end Quotes

section Number

/-- The number grows with each digit, so reading to the end needs the last number alone to be small
enough. -/
private theorem readHex_eq_ok_iff {start number : Nat} (small : start < UInt64.size)
    {text : List Char} : readHex start text = .ok number ↔
      ContinuesHex start text number ∧ number < UInt64.size := by
  induction text generalizing start with
  | nil =>
    rw [readHex, Except.ok.injEq, continuesHex_nil, eq_comm]
    exact ⟨fun same => ⟨same, same ▸ small⟩, And.left⟩
  | cons c rest ih =>
    rw [readHex]
    cases found : hexValue? c with
    | none => exact iff_of_false nofun fun read => not_continuesHex_cons found read.1
    | some figure =>
      rw [continuesHex_cons found]
      dsimp only
      split
      · rename_i room
        exact ih room
      · rename_i full
        exact iff_of_false nofun fun read => full (Nat.lt_of_le_of_lt read.1.le read.2)

private theorem readHex_digits_eq_ok_iff {number : Nat} {digits : List Char} :
    readHex 0 digits = .ok number ↔ WritesHex digits number ∧ number < UInt64.size := by
  rw [readHex_eq_ok_iff (by decide), continuesHex_zero]

private theorem not_writesHex_plus {digits : List Char} {value : Nat} :
    ¬ WritesHex ('+' :: digits) value := by
  rw [← continuesHex_zero]
  exact not_continuesHex_cons (by decide)

/-- The form of numbers: at most one plus sign, and digits. -/
theorem readNumber_eq_ok_iff {number : Nat} {text : List Char} :
    readNumber text = .ok number ↔ (∃ sign digits, text = sign ++ digits ∧
      (sign = [] ∨ sign = ['+']) ∧ digits ≠ [] ∧ WritesHex digits number) ∧
        number < UInt64.size := by
  fun_cases readNumber text with
  | case1 => simp
  | case2 =>
    refine iff_of_false nofun ?_
    rintro ⟨⟨sign, digits, whole, rfl | rfl, apart, written⟩, _⟩
    · cases whole
      exact not_writesHex_plus written
    · exact apart (List.cons.inj whole).2.symm
  | case3 digits alone =>
    rw [readHex_digits_eq_ok_iff]
    apply and_congr_left
    intro _
    constructor
    · intro written
      exact ⟨['+'], digits, rfl, .inr rfl, fun same => alone same, written⟩
    · rintro ⟨sign, others, whole, rfl | rfl, _, written⟩
      · cases whole
        exact absurd written not_writesHex_plus
      · cases whole
        exact written
  | case4 _ apart _ unsigned =>
    rw [readHex_digits_eq_ok_iff]
    apply and_congr_left
    intro _
    constructor
    · intro written
      exact ⟨[], text, rfl, .inl rfl, apart, written⟩
    · rintro ⟨sign, digits, rfl, rfl | rfl, _, written⟩
      · exact written
      · exact absurd rfl (unsigned digits)

end Number

theorem parse_eq_ok_iff {s : String} {tag : Tag} :
    parse s = .ok tag ↔ Writes s tag.sequence.toNat := by
  have number : parse s = .ok tag ↔ ∃ text, trimQuotes s.toList = '0' :: 'x' :: text ∧
      readNumber text = .ok tag.sequence.toNat := by
    unfold parse
    split
    · rename_i text marked
      rw [marked]
      simp only [List.cons.injEq, true_and, exists_eq_left']
      cases read : readNumber text with
      | error fault => exact iff_of_false nofun nofun
      | ok value =>
        have small := (readNumber_eq_ok_iff.1 read).2
        simp only [Except.ok.injEq]
        constructor
        · rintro rfl
          exact (UInt64.toNat_ofNat_of_lt small).symm
        · rintro rfl
          rw [UInt64.ofNat_toNat]
    · rename_i unmarked
      exact iff_of_false nofun fun ⟨text, marked, _⟩ => unmarked text marked
  rw [number]
  constructor
  · rintro ⟨text, marked, read⟩
    obtain ⟨⟨sign, digits, rfl, form⟩, _⟩ := readNumber_eq_ok_iff.1 read
    obtain ⟨left, right, whole⟩ := exists_quotedBy s.toList
    rw [marked] at whole
    exact ⟨left, right, sign, digits, whole, form⟩
  · rintro ⟨left, right, sign, digits, whole, signed, apart, written⟩
    have ⟨_, read, _⟩ := written
    have last : ('0' :: 'x' :: (sign ++ digits)).getLast? ≠ some '\"' := by
      intro closing
      have inside : ('0' :: 'x' :: sign) ++ digits = '0' :: 'x' :: (sign ++ digits) := rfl
      rw [← inside, List.getLast?_append_of_ne_nil _ apart] at closing
      exact read.not_mem (by decide) (List.mem_of_getLast? closing)
    refine ⟨sign ++ digits, ?_, readNumber_eq_ok_iff.2
      ⟨⟨sign, digits, rfl, signed, apart, written⟩, tag.sequence.toNat_lt_size⟩⟩
    rw [whole, trimQuotes_quotedBy (List.cons_ne_nil _ _) (by simp) last]

theorem toList_text (tag : Tag) :
    tag.text.toList = '0' :: 'x' :: fixedHex 16 tag.sequence.toNat := by
  rw [text, String.toList_ofList]

/-- Sixteen digits are enough for every tag. -/
private theorem sequence_mod (tag : Tag) : tag.sequence.toNat % 16 ^ 16 = tag.sequence.toNat :=
  Nat.mod_eq_of_lt tag.sequence.toNat_lt_size

theorem writesHex_text (tag : Tag) :
    WritesHex (fixedHex 16 tag.sequence.toNat) tag.sequence.toNat := by
  have written := writesHex_fixedHex 16 tag.sequence.toNat
  rwa [sequence_mod] at written

/-- The text of a tag gives the tag back, whatever quotes are around it, and texts are in the order
of the tags. A text is read exactly when it has the form of a tag's, and as the number that its
digits write. -/
theorem parse_iff_writes :
    (∀ (tag : Tag) (left right : Nat),
      parse (String.ofList (quotedBy left right tag.text.toList)) = .ok tag) ∧
    (∀ a b : Tag, bytes a.text < bytes b.text ↔ a.sequence.toNat < b.sequence.toNat) ∧
    (∀ s tag, parse s = .ok tag ↔ Writes s tag.sequence.toNat) ∧
    ∀ s, (∃ tag, parse s = .ok tag) ↔ ∃ value, value < 2 ^ 64 ∧ Writes s value := by
  refine ⟨?_, ?_, fun _ _ => parse_eq_ok_iff, ?_⟩
  · intro tag left right
    refine parse_eq_ok_iff.2 ⟨left, right, [], fixedHex 16 tag.sequence.toNat, ?_, .inl rfl, ?_,
      writesHex_text tag⟩
    · rw [String.toList_ofList, toList_text, List.nil_append]
    · exact List.ne_nil_of_length_pos (by rw [length_fixedHex]; decide)
  · intro a b
    have order : a.text < b.text ↔ a.text.toList < b.text.toList := Iff.rfl
    rw [bytes_lt_bytes_iff, order, toList_text, toList_text, List.cons_lt_cons_iff,
      List.cons_lt_cons_iff, fixedHex_lt_iff, sequence_mod, sequence_mod]
    simp
  · intro s
    constructor
    · rintro ⟨tag, read⟩
      exact ⟨_, tag.sequence.toNat_lt_size, parse_eq_ok_iff.1 read⟩
    · rintro ⟨value, small, written⟩
      have same : (UInt64.ofNat value).toNat = value := UInt64.toNat_ofNat_of_lt small
      refine ⟨⟨UInt64.ofNat value⟩, parse_eq_ok_iff.2 ?_⟩
      rwa [same]

example : parse "\"0x+00000000000000000ffFFffFFffFFffFF\"\"" = .ok ⟨18446744073709551615⟩ := by rfl

end BlobDispatch.Tag
