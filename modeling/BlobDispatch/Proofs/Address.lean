import BlobDispatch.Address
import BlobDispatch.Proofs.Text.Segments

/-! Reading addresses back. A text is read as an address exactly when the address is valid and is
written as that text, which is when there is something on both sides of its first separator. -/

namespace BlobDispatch.Address

theorem ofParts_eq_ok_iff {container name : String} {a : Address} :
    ofParts container name = .ok a ↔ a = ⟨container, name⟩ ∧ a.Valid := by
  unfold ofParts
  constructor
  · intro made
    split at made
    · cases made
    · rename_i some
      split at made
      · cases made
      · rename_i unseparated
        split at made
        · cases made
        · rename_i named
          cases made
          exact ⟨rfl, some, unseparated, named⟩
  · intro valid
    obtain ⟨rfl, some, unseparated, named⟩ := valid
    rw [if_neg some, if_neg unseparated, if_neg named]

theorem parse_eq_ok_iff {s : String} {a : Address} :
    parse s = .ok a ↔ a.Valid ∧ a.text = s := by
  unfold parse
  constructor
  · intro read
    split at read
    · cases read
    · rename_i container name cut
      obtain ⟨rfl, valid⟩ := ofParts_eq_ok_iff.1 read
      obtain ⟨joined, _⟩ := Text.cut?_eq_some_iff.1 cut
      refine ⟨valid, String.toList_inj.1 ?_⟩
      rw [joined]
      simp [text]
  · intro written
    obtain ⟨valid, rfl⟩ := written
    have cut : Text.cut? '/' a.text.toList = some (a.container.toList, a.name.toList) := by
      rw [Text.cut?_eq_some_iff]
      exact ⟨by simp [text], valid.2.1⟩
    rw [cut]
    simp only [String.ofList_toList]
    exact ofParts_eq_ok_iff.2 ⟨rfl, valid⟩

/-- A text that is put together around the separator is read apart there, as long as there is none
before it. -/
theorem parse_join_iff {before after : List Char} (clean : '/' ∉ before) {a : Address} :
    parse (String.ofList (before ++ '/' :: after)) = .ok a ↔
      a = ⟨String.ofList before, String.ofList after⟩ ∧ a.container ≠ "" ∧ a.name ≠ "" := by
  have cut : Text.cut? '/' (before ++ '/' :: after) = some (before, after) :=
    Text.cut?_eq_some_iff.2 ⟨rfl, clean⟩
  rw [parse, String.toList_ofList, cut]
  simp only [ofParts_eq_ok_iff]
  apply and_congr_right
  rintro rfl
  simp [Valid, clean]

theorem exists_ofParts_iff {container name : String} : (∃ a, ofParts container name = .ok a) ↔
    container ≠ "" ∧ name ≠ "" ∧ '/' ∉ container.toList := by
  simp only [ofParts_eq_ok_iff, exists_eq_left, Valid]
  exact and_congr_right fun _ => and_comm

theorem parse_text_iff {a : Address} : parse a.text = .ok a ↔ a.Valid := by
  simp [parse_eq_ok_iff]

theorem text_injOn {a b : Address} (first : a.Valid) (second : b.Valid)
    (same : a.text = b.text) : a = b := by
  have read := parse_text_iff.2 first
  rw [same, parse_text_iff.2 second] at read
  exact (Except.ok.inj read).symm

section FirstSeparator

/-- The text before the first separator, all of it if there is none. -/
def before (s : String) : String := String.ofList (s.toList.takeWhile (· ≠ '/'))

/-- The text after the first separator. -/
def after (s : String) : String := String.ofList (s.toList.dropWhile (· ≠ '/')).tail

theorem parse_eq_ofParts {s : String} (separated : '/' ∈ s.toList) :
    parse s = ofParts (before s) (after s) := by
  rw [parse, Text.cut?_of_mem separated]
  rfl

theorem separator_not_mem_before {s : String} (separated : '/' ∈ s.toList) :
    '/' ∉ (before s).toList := by
  rw [before, String.toList_ofList]
  exact (Text.cut?_eq_some_iff.1 (Text.cut?_of_mem separated)).2

theorem exists_parse_iff {s : String} : (∃ a, parse s = .ok a) ↔
    '/' ∈ s.toList ∧ before s ≠ "" ∧ after s ≠ "" := by
  by_cases separated : '/' ∈ s.toList
  · rw [parse_eq_ofParts separated, exists_ofParts_iff]
    simp [separated, separator_not_mem_before]
  · rw [parse, Text.cut?_eq_none_iff.2 separated]
    simp [separated]

end FirstSeparator

end BlobDispatch.Address
