import BlobDispatch.Text.Lowercase
import Mathlib.Data.List.Basic

/-! Lower-casing of a text that stands after another one. Every character but the capital sigma is
lowered by itself, and what stands before a sigma matters only up to the last character there that
is not case-ignorable. A text is therefore lowered after another one as it is alone, unless it opens
with a capital sigma that ends a word: alone this sigma has nothing before it. An ASCII text has no
sigma at all and is lowered letter by letter. -/

namespace BlobDispatch.Text

/-- The first character that is not case-ignorable is a capital sigma, and nothing cased follows. -/
def opensWithFinalSigma (text : List Char) : Bool :=
  match text.dropWhile isCaseIgnorable with
  | [] => false
  | c :: rest => c == '\u03a3' && !meetsCased rest

theorem lowerFrom_cons (before : List Char) (c : Char) (rest : List Char) :
    lowerFrom before (c :: rest) =
      (if c = '\u03a3' then
        if meetsCased before && !meetsCased rest then ['\u03c2'] else ['\u03c3']
      else lowerChar c) ++ lowerFrom (c :: before) rest := rfl

theorem lowerFrom_append (before : List Char) {lead : List Char} (plain : '\u03a3' ∉ lead)
    (text : List Char) : lowerFrom before (lead ++ text) =
      lead.flatMap lowerChar ++ lowerFrom (lead.reverse ++ before) text := by
  induction lead generalizing before with
  | nil => rfl
  | cons c lead ih =>
    rw [List.mem_cons, not_or] at plain
    rw [List.cons_append, lowerFrom_cons, if_neg (Ne.symm plain.1), ih (c :: before) plain.2]
    simp

theorem lowerFrom_of_plain {text : List Char} (plain : '\u03a3' ∉ text) (before : List Char) :
    lowerFrom before text = text.flatMap lowerChar := by
  have whole := lowerFrom_append before plain []
  rwa [List.append_nil, lowerFrom, List.append_nil] at whole

/-- A lowered capital sigma is a small one of either kind. -/
theorem sigma_mem_lowerFrom {text : List Char} (member : '\u03a3' ∈ text) (before : List Char) :
    '\u03c2' ∈ lowerFrom before text ∨ '\u03c3' ∈ lowerFrom before text := by
  induction text generalizing before with
  | nil => cases member
  | cons c rest ih =>
    rw [lowerFrom_cons, List.mem_append, List.mem_append]
    rcases List.mem_cons.1 member with rfl | later
    · rw [if_pos rfl]
      split
      · exact .inl (.inl List.mem_cons_self)
      · exact .inr (.inl List.mem_cons_self)
    · exact (ih later (c :: before)).imp .inr .inr

theorem sigma_mem_of_opens {text : List Char} (opened : opensWithFinalSigma text = true) :
    '\u03a3' ∈ text := by
  unfold opensWithFinalSigma at opened
  split at opened
  · cases opened
  · rename_i c rest ends
    have first : c = '\u03a3' := beq_iff_eq.1 (Bool.and_eq_true_iff.1 opened).1
    have inside : c ∈ text.dropWhile isCaseIgnorable := ends ▸ List.mem_cons_self
    exact first ▸ (List.dropWhile_sublist _).subset inside

private theorem meetsCased_append {seen : List Char}
    (stops : ∃ c ∈ seen, isCaseIgnorable c = false) (before : List Char) :
    meetsCased (seen ++ before) = meetsCased seen := by
  induction seen with
  | nil => simp at stops
  | cons c seen ih =>
    unfold meetsCased
    rw [List.cons_append, List.dropWhile_cons, List.dropWhile_cons]
    cases passed : isCaseIgnorable c with
    | false => rfl
    | true =>
      have later : ∃ d ∈ seen, isCaseIgnorable d = false := by simpa [passed] using stops
      simpa [meetsCased] using ih later

private theorem lowerFrom_of_stops {seen : List Char}
    (stops : ∃ c ∈ seen, isCaseIgnorable c = false) (before text : List Char) :
    lowerFrom (seen ++ before) text = lowerFrom seen text := by
  induction text generalizing seen with
  | nil => rfl
  | cons c rest ih =>
    obtain ⟨d, member, kept⟩ := stops
    have later : lowerFrom (c :: seen ++ before) rest = lowerFrom (c :: seen) rest :=
      ih ⟨d, List.mem_cons_of_mem _ member, kept⟩
    rw [lowerFrom_cons, lowerFrom_cons, meetsCased_append ⟨d, member, kept⟩]
    rw [← List.cons_append, later]

private theorem isCaseIgnorable_sigma : isCaseIgnorable '\u03a3' = false := by decide

/-- The context is looked at only by an opening sigma, and only if nothing cased follows it. -/
theorem lowerFrom_eq_alone {text : List Char} (plain : opensWithFinalSigma text = false)
    (before : List Char) : lowerFrom before text = lowerFrom [] text := by
  -- All characters read so far are case-ignorable, or the context is out of sight already.
  suffices general : ∀ seen : List Char, lowerFrom (seen ++ before) text = lowerFrom seen text from
    general []
  induction text with
  | nil => exact fun _ => rfl
  | cons c rest ih =>
    intro seen
    cases passed : isCaseIgnorable c with
    | true =>
      have apart : c ≠ '\u03a3' := by
        rintro rfl
        simp [isCaseIgnorable_sigma] at passed
      have later : opensWithFinalSigma rest = false := by
        simpa [opensWithFinalSigma, passed] using plain
      rw [lowerFrom_cons, lowerFrom_cons, if_neg apart, if_neg apart, ← List.cons_append,
        ih later]
    | false =>
      have hidden : lowerFrom (c :: seen ++ before) rest = lowerFrom (c :: seen) rest :=
        lowerFrom_of_stops ⟨c, List.mem_cons_self, passed⟩ before rest
      rw [lowerFrom_cons, lowerFrom_cons, ← List.cons_append, hidden]
      by_cases sigma : c = '\u03a3'
      · subst sigma
        have followed : meetsCased rest = true := by
          simpa [opensWithFinalSigma, passed] using plain
        simp [followed]
      · rw [if_neg sigma, if_neg sigma]

theorem mem_lowerFrom {before text : List Char} {d : Char} (member : d ∈ lowerFrom before text) :
    d = '\u03c2' ∨ d = '\u03c3' ∨ ∃ c ∈ text, d ∈ lowerChar c := by
  induction text generalizing before with
  | nil => cases member
  | cons c rest ih =>
    rw [lowerFrom_cons, List.mem_append] at member
    rcases member with here | later
    · split at here
      · split at here
        · exact .inl (List.mem_singleton.1 here)
        · exact .inr (.inl (List.mem_singleton.1 here))
      · exact .inr (.inr ⟨c, List.mem_cons_self, here⟩)
    · rcases ih later with final | inner | ⟨other, inside, image⟩
      · exact .inl final
      · exact .inr (.inl inner)
      · exact .inr (.inr ⟨other, List.mem_cons_of_mem _ inside, image⟩)

theorem toList_lower_append {lead : String} (plain : '\u03a3' ∉ lead.toList) (text : String) :
    (lower (lead ++ text)).toList =
      lead.toList.flatMap lowerChar ++ lowerFrom lead.toList.reverse text.toList := by
  rw [lower, String.toList_ofList, String.toList_append, lowerFrom_append [] plain,
    List.append_nil]

/-- Lower-casing goes through a concatenation whose second text opens with no final sigma. -/
theorem lower_append {lead text : String} (plain : '\u03a3' ∉ lead.toList)
    (unopened : opensWithFinalSigma text.toList = false) :
    lower (lead ++ text) = lower lead ++ lower text := by
  apply String.toList_injective
  rw [toList_lower_append plain, lowerFrom_eq_alone unopened, String.toList_append, lower, lower,
    String.toList_ofList, String.toList_ofList, lowerFrom_of_plain plain]

section Ascii

/-- What holds of the ASCII characters, looked at one by one, holds of all of them. -/
theorem of_ascii {P : Char → Prop} (table : ∀ n < 128, P (Char.ofNat n)) {c : Char}
    (ascii : c.toNat < 128) : P c := by
  have image := table c.toNat ascii
  rwa [Char.ofNat_toNat] at image

theorem toLower_eq_self {c : Char} (wide : 128 ≤ c.toNat) : c.toLower = c := by
  unfold Char.toLower
  apply dif_neg
  intro upper
  have low : c.val.toNat ≤ 90 := UInt32.le_iff_toNat_le.1 upper.2
  exact absurd (Nat.le_trans wide low) (by decide)

/-- What no ASCII letter loses by its case no letter loses by it: the others have none here. -/
theorem apply_toLower {β : Type} {f : Char → β}
    (table : ∀ n < 128, f (Char.ofNat n).toLower = f (Char.ofNat n)) (c : Char) :
    f c.toLower = f c := by
  rcases Nat.lt_or_ge c.toNat 128 with ascii | wide
  · exact of_ascii (P := fun c => f c.toLower = f c) table ascii
  · rw [toLower_eq_self wide]

theorem ascii_of_toLower {c : Char} (ascii : c.toLower.toNat < 128) : c.toNat < 128 := by
  apply Nat.lt_of_not_le
  intro wide
  rw [toLower_eq_self wide] at ascii
  exact Nat.not_lt.2 wide ascii

variable {text : String} (ascii : ∀ c ∈ text.toList, c.toNat < 128)

include ascii

theorem toList_lower_of_ascii : (lower text).toList = text.toList.map Char.toLower := by
  have plain : '\u03a3' ∉ text.toList := fun member => absurd (ascii _ member) (by decide)
  rw [lower, String.toList_ofList, lowerFrom_of_plain plain, List.map_eq_flatMap]
  apply List.flatMap_congr
  intro c member
  exact of_ascii (P := fun c => lowerChar c = [c.toLower]) (by decide) (ascii c member)

theorem ascii_lower : ∀ c ∈ (lower text).toList, c.toNat < 128 := by
  rw [toList_lower_of_ascii ascii]
  intro d member
  obtain ⟨c, inside, rfl⟩ := List.mem_map.1 member
  exact of_ascii (P := fun c => c.toLower.toNat < 128) (by decide) (ascii c inside)

theorem lower_eq_of_sameAsciiFold {other : String} (small : ∀ c ∈ other.toList, c.toNat < 128)
    (same : sameAsciiFold text other = true) : lower text = lower other := by
  apply String.toList_injective
  rw [toList_lower_of_ascii ascii, toList_lower_of_ascii small]
  exact beq_iff_eq.1 same

end Ascii

end BlobDispatch.Text
