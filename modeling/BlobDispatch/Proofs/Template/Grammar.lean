import BlobDispatch.Proofs.Template.Token
import Mathlib.Data.List.Chain

/-! The grammar of patterns. The reader takes just the texts that are made of characters other than
braces and of names in braces, and of all the ways to write such a text as tokens it gives the only
one whose literals are as long as they can be and whose placeholders have the form that their names
call for. -/

namespace BlobDispatch.Token

/-- Characters other than braces and names in braces, one after another. -/
inductive IsPattern : List Char → Prop where
  | nil : IsPattern []
  | character {c : Char} {rest : List Char} (apart : c ≠ '\x7b' ∧ c ≠ '\x7d')
      (more : IsPattern rest) : IsPattern (c :: rest)
  | placeholder {text rest : List Char} (named : Placeholder.IsName text)
      (more : IsPattern rest) : IsPattern ('\x7b' :: text ++ '\x7d' :: rest)

theorem exists_reads_iff {cs : List Char} : (∃ tokens, Reads cs tokens) ↔ IsPattern cs := by
  constructor
  · rintro ⟨tokens, reads⟩
    induction reads with
    | nil => exact .nil
    | character apart _ ih => exact .character apart ih
    | placeholder named _ ih => exact .placeholder (Placeholder.exists_ofText?_iff.1 ⟨_, named⟩) ih
  · intro isPattern
    induction isPattern with
    | nil => exact ⟨_, .nil⟩
    | character apart _ ih =>
      obtain ⟨tokens, reads⟩ := ih
      exact ⟨_, .character apart reads⟩
    | placeholder name _ ih =>
      obtain ⟨tokens, reads⟩ := ih
      obtain ⟨placeholder, named⟩ := Placeholder.exists_ofText?_iff.2 name
      exact ⟨_, .placeholder named reads⟩

section Separated

def isLiteral : Token → Bool
  | .literal _ => true
  | .parameter _ => false

/-- No literal comes right after another. -/
def Separated (tokens : List Token) : Prop :=
  tokens.IsChain fun first second => ¬ (first.isLiteral ∧ second.isLiteral)

private theorem separated_consCharacter {c : Char} {tokens : List Token}
    (separated : Separated tokens) : Separated (consCharacter c tokens) := by
  unfold consCharacter
  split
  · rw [Separated, List.isChain_cons] at separated ⊢
    exact separated
  · rename_i other
    cases tokens with
    | nil => exact List.isChain_singleton _
    | cons token rest =>
      cases token with
      | literal text => exact absurd rfl (other text rest)
      | parameter placeholder =>
        simpa [Separated, List.isChain_cons_cons, isLiteral] using separated

theorem Reads.separated {cs : List Char} {tokens : List Token} (reads : Reads cs tokens) :
    Separated tokens := by
  induction reads with
  | nil => exact .nil
  | character _ _ ih => exact separated_consCharacter ih
  | placeholder _ _ ih =>
    rw [Separated, List.isChain_cons]
    exact ⟨fun _ _ both => Bool.noConfusion both.1, ih⟩

end Separated

/-- Tokens as the reader gives them. Of lists that are written as the same pattern one at most is
normal. -/
structure Normal (tokens : List Token) : Prop where
  plain : ∀ token ∈ tokens, token.Plain
  separated : Separated tokens
  marked : ∀ placeholder ∈ placeholders tokens,
    (placeholder.isMetadata = true ↔ Placeholder.IsMarked placeholder.name.toList)

section Normal

theorem Reads.normal {cs : List Char} {tokens : List Token} (reads : Reads cs tokens) :
    Normal tokens where
  plain := reads.plain
  separated := reads.separated
  marked := fun placeholder member =>
    (Placeholder.ofText?_eq_ok_iff.1 (reads.ofText? placeholder member)).2.2

private theorem Normal.tail {token : Token} {rest : List Token} (normal : Normal (token :: rest)) :
    Normal rest where
  plain := (List.forall_mem_cons.1 normal.plain).2
  separated := (List.isChain_cons.1 normal.separated).2
  marked := by
    have marked := normal.marked
    cases token with
    | literal text => exact marked
    | parameter placeholder => exact (List.forall_mem_cons.1 marked).2

private theorem scan_append {text : List Char} (braceless : Braceless text) (rest : List Char) :
    scan none (text ++ rest) = (scan none rest).map (text.foldr consCharacter) := by
  induction text with
  | nil => exact (congrFun Except.map_id _).symm
  | cons c text ih =>
    obtain ⟨apart, braceless⟩ := braceless_cons.1 braceless
    rw [List.cons_append, scan_outside, if_neg apart.1, if_neg apart.2, ih braceless, map_comp]
    rfl

private theorem foldr_consCharacter {c : Char} {text : List Char} {tokens : List Token}
    (other : ∀ token ∈ tokens.head?, token.isLiteral = false) :
    (c :: text).foldr consCharacter tokens = .literal (String.ofList (c :: text)) :: tokens := by
  induction text generalizing c with
  | nil =>
    rw [List.foldr_cons, List.foldr_nil]
    unfold consCharacter
    split
    · cases other _ rfl
    · rfl
  | cons d text ih => rw [List.foldr_cons, ih, consCharacter, String.toList_ofList]

/-- Normal tokens are what is read where they are written. -/
private theorem Normal.eq_of_scan {tokens others : List Token} (normal : Normal tokens)
    (read : scan none (tokens.flatMap spell) = .ok others) : others = tokens := by
  induction tokens generalizing others with
  | nil =>
    cases read
    rfl
  | cons token rest ih =>
    rw [List.flatMap_cons] at read
    cases token with
    | literal text =>
      obtain ⟨some, braceless⟩ := normal.plain (.literal text) List.mem_cons_self
      rw [spell, scan_append braceless] at read
      obtain ⟨later, rescanned, rfl⟩ := map_eq_ok_iff.1 read
      obtain rfl := ih normal.tail rescanned
      have written : text.toList ≠ [] := by simpa using some
      obtain ⟨first, more, split⟩ := List.exists_cons_of_ne_nil written
      have other : ∀ token ∈ later.head?, token.isLiteral = false := by
        intro token member
        have apart := (List.isChain_cons.1 normal.separated).1 token member
        simpa [isLiteral] using apart
      rw [split, foldr_consCharacter other, ← split, String.ofList_toList]
    | parameter placeholder =>
      have braceless : Braceless placeholder.name.toList :=
        normal.plain (.parameter placeholder) List.mem_cons_self
      rw [spell, List.append_assoc, List.singleton_append, scan_placeholder braceless] at read
      split at read
      · cases read
      · rename_i found made
        obtain ⟨later, rescanned, rfl⟩ := map_eq_ok_iff.1 read
        obtain rfl := ih normal.tail rescanned
        -- The reader made a placeholder of the same text, and the text decides on its form.
        have named := Placeholder.exists_ofText?_iff.1 ⟨found, made⟩
        have same := Placeholder.ofText?_eq_ok_iff.2
          ⟨rfl, named, normal.marked placeholder List.mem_cons_self⟩
        cases made.symm.trans same
        rfl

/-- What is read is the only normal list of tokens that is written as the pattern. -/
private theorem spelled_normal_iff {pattern : String} {tokens others : List Token}
    (read : ofPattern pattern = .ok tokens) :
    (spellAll others = pattern ∧ Normal others) ↔ others = tokens := by
  constructor
  · rintro ⟨rfl, normal⟩
    rw [ofPattern, spellAll, String.toList_ofList] at read
    exact (normal.eq_of_scan read).symm
  · rintro rfl
    exact ⟨spellAll_of_ofPattern read, (ofPattern_eq_ok_iff.1 read).normal⟩

end Normal

/-- The language of the reader. It takes the patterns and no other text; the tokens it gives are the
only normal ones that are written as the pattern; and an error names the whole text, with the fault
that its first part which fits no pattern has. -/
theorem parse_iff_isPattern (pattern : String) :
    ((∃ tokens, parse pattern = .ok tokens) ↔ IsPattern pattern.toList) ∧
    (∀ tokens, parse pattern = .ok tokens ↔ IsPattern pattern.toList ∧
      ∀ others, (spellAll others = pattern ∧ Normal others) ↔ others = tokens) ∧
    (∀ error, parse pattern = .error error ↔
      ∃ fault, error = .invalidPattern pattern fault ∧ Refuses pattern.toList fault) := by
  have accepted : ∀ tokens, parse pattern = .ok tokens ↔ ofPattern pattern = .ok tokens :=
    fun _ => mapError_eq_ok_iff
  have language : (∃ tokens, ofPattern pattern = .ok tokens) ↔ IsPattern pattern.toList := by
    simp only [ofPattern_eq_ok_iff, exists_reads_iff]
  refine ⟨?_, ?_, ?_⟩
  · simp only [accepted, language]
  · intro tokens
    rw [accepted]
    constructor
    · intro read
      exact ⟨language.1 ⟨tokens, read⟩, fun others => spelled_normal_iff read⟩
    · rintro ⟨isPattern, only⟩
      obtain ⟨found, read⟩ := language.2 isPattern
      have same := (only found).1 ((spelled_normal_iff read).2 rfl)
      rw [← same]
      exact read
  · intro error
    rw [parse, mapError_eq_error_iff]
    simp only [ofPattern, scan_eq_error_iff, and_comm, eq_comm (a := error)]

example : parse "in/{name}-{METADATA.owner}" = .ok [.literal "in/",
    .parameter (.capture "name"), .literal "-", .parameter (.metadata "METADATA.owner")] := by
  decide

example : parse "in/{metadata.}" =
    .error (.invalidPattern "in/{metadata.}" (.badCharacter "metadata." '.')) := by decide

end BlobDispatch.Token
