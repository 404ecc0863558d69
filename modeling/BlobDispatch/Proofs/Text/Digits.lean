import BlobDispatch.Text.Digits
import Mathlib.Data.List.Forall2
import Mathlib.Data.Nat.Digits.Defs
import Mathlib.Tactic.Ring

/-! Digits and the numbers that they write. Hexadecimal digits of a fixed width write the number up
to that width, and their order is that of the numbers; decimal digits are read back as the number
they were made from. -/

namespace BlobDispatch.Text

/-- The figures that hexadecimal digits of either case stand for. -/
abbrev HexFigures : List Char → List Nat → Prop :=
  List.Forall₂ fun c figure => hexValue? c = some figure

/-- Hexadecimal digits write a number: the first of them counts most. -/
def WritesHex (digits : List Char) (value : Nat) : Prop :=
  ∃ figures, HexFigures digits figures ∧ value = Nat.ofDigits 16 figures.reverse

theorem HexFigures.not_mem {digits : List Char} {figures : List Nat}
    (read : HexFigures digits figures) {c : Char} (bad : hexValue? c = none) : c ∉ digits := by
  induction read with
  | nil => exact List.not_mem_nil
  | cons here _ ih =>
    rw [List.mem_cons, not_or]
    refine ⟨?_, ih⟩
    rintro rfl
    cases bad.symm.trans here

/-- Hexadecimal digits after those that wrote `start` write a number together with them. -/
def ContinuesHex (start : Nat) (digits : List Char) (value : Nat) : Prop :=
  ∃ figures, HexFigures digits figures ∧
    value = Nat.ofDigits 16 figures.reverse + 16 ^ figures.length * start

section Continues

variable {start value : Nat} {c : Char} {rest : List Char}

theorem continuesHex_zero {digits : List Char} :
    ContinuesHex 0 digits value ↔ WritesHex digits value := by
  simp only [ContinuesHex, WritesHex, Nat.mul_zero, Nat.add_zero]

theorem continuesHex_nil : ContinuesHex start [] value ↔ value = start := by
  simp [ContinuesHex]

theorem not_continuesHex_cons (bad : hexValue? c = none) : ¬ ContinuesHex start (c :: rest) value := by
  rintro ⟨_, read, _⟩
  exact read.not_mem bad List.mem_cons_self

theorem continuesHex_cons {figure : Nat} (found : hexValue? c = some figure) :
    ContinuesHex start (c :: rest) value ↔ ContinuesHex (start * 16 + figure) rest value := by
  have shift (figures : List Nat) : Nat.ofDigits 16 (figure :: figures).reverse +
      16 ^ (figure :: figures).length * start = Nat.ofDigits 16 figures.reverse +
        16 ^ figures.length * (start * 16 + figure) := by
    rw [Nat.ofDigits_reverse_cons, List.length_cons, Nat.pow_succ]
    ring
  constructor
  · rintro ⟨_, read, same⟩
    obtain ⟨other, figures, here, later, rfl⟩ := List.forall₂_cons_left_iff.1 read
    cases found.symm.trans here
    exact ⟨figures, later, same.trans (shift figures)⟩
  · rintro ⟨figures, later, same⟩
    exact ⟨figure :: figures, .cons found later, same.trans (shift figures).symm⟩

theorem ContinuesHex.le {digits : List Char} (continues : ContinuesHex start digits value) :
    start ≤ value := by
  obtain ⟨figures, _, rfl⟩ := continues
  have shifted := Nat.le_mul_of_pos_left start (Nat.pow_pos (by decide) : 0 < 16 ^ figures.length)
  exact Nat.le_trans shifted (Nat.le_add_left _ _)

end Continues

section Fixed

private theorem hexValue?_hexDigit {n : Nat} (small : n < 16) : hexValue? (hexDigit n) = some n := by
  have all : ∀ n < 16, hexValue? (hexDigit n) = some n := by decide
  exact all n small

private theorem hexDigit_lt_iff {m n : Nat} (small : m < 16) (others : n < 16) :
    hexDigit m < hexDigit n ↔ m < n := by
  have all : ∀ m < 16, ∀ n < 16, hexDigit m < hexDigit n ↔ m < n := by decide
  exact all m small n others

private theorem hexDigit_inj {m n : Nat} (small : m < 16) (others : n < 16) :
    hexDigit m = hexDigit n ↔ m = n := by
  constructor
  · intro same
    have read := hexValue?_hexDigit small
    rw [same, hexValue?_hexDigit others] at read
    exact (Option.some.inj read).symm
  · exact congrArg hexDigit

theorem length_fixedHex (width n : Nat) : (fixedHex width n).length = width := by
  induction width generalizing n with
  | zero => rfl
  | succ width ih => rw [fixedHex, List.length_append, ih, List.length_singleton]

theorem writesHex_fixedHex (width n : Nat) : WritesHex (fixedHex width n) (n % 16 ^ width) := by
  induction width generalizing n with
  | zero => exact ⟨[], .nil, Nat.mod_one n⟩
  | succ width ih =>
    obtain ⟨figures, read, value⟩ := ih (n / 16)
    have last := hexValue?_hexDigit (Nat.mod_lt n (by decide : 0 < 16))
    refine ⟨figures ++ [n % 16], List.rel_append read (.cons last .nil), ?_⟩
    rw [List.reverse_append, List.reverse_singleton, List.singleton_append, Nat.ofDigits_cons,
      ← value, Nat.pow_succ', Nat.mod_mul]

private theorem fixedHex_succ (width n : Nat) :
    fixedHex (width + 1) n = hexDigit (n / 16 ^ width % 16) :: fixedHex width n := by
  induction width generalizing n with
  | zero => simp [fixedHex]
  | succ width ih =>
    rw [fixedHex, ih, Nat.div_div_eq_div_mul, Nat.pow_succ']
    rfl

theorem fixedHex_lt_iff (width a b : Nat) :
    fixedHex width a < fixedHex width b ↔ a % 16 ^ width < b % 16 ^ width := by
  induction width with
  | zero => simp [fixedHex, Nat.mod_one]
  | succ width ih =>
    have first := Nat.mod_lt (a / 16 ^ width) (by decide : 0 < 16)
    have second := Nat.mod_lt (b / 16 ^ width) (by decide : 0 < 16)
    have below := Nat.mod_lt a (Nat.pow_pos (by decide : 0 < 16) : 0 < 16 ^ width)
    have beneath := Nat.mod_lt b (Nat.pow_pos (by decide : 0 < 16) : 0 < 16 ^ width)
    rw [fixedHex_succ, fixedHex_succ, List.cons_lt_cons_iff, hexDigit_lt_iff first second,
      hexDigit_inj first second, ih, Nat.mod_pow_succ, Nat.mod_pow_succ]
    generalize a / 16 ^ width % 16 = x at *
    generalize b / 16 ^ width % 16 = y at *
    rcases Nat.lt_trichotomy x y with smaller | rfl | larger
    · have step := Nat.mul_le_mul_left (16 ^ width) smaller
      rw [Nat.mul_succ] at step
      omega
    · omega
    · have step := Nat.mul_le_mul_left (16 ^ width) larger
      rw [Nat.mul_succ] at step
      omega

end Fixed

section Decimal

private theorem hexValue?_of_isDigit {c : Char} (digit : c.isDigit = true) :
    hexValue? c = some (c.toNat - '0'.toNat) := by
  have range : 48 ≤ c.val ∧ c.val ≤ 57 := by simpa [Char.isDigit] using digit
  exact if_pos range

private theorem valueOf_eq_ofDigitChars {digits : List Char}
    (decimal : ∀ c ∈ digits, c.isDigit = true) :
    valueOf 10 digits = Nat.ofDigitChars 10 digits 0 := by
  rw [valueOf, Nat.ofDigitChars_eq_foldl]
  apply List.foldl_ext
  intro value c member
  rw [hexValue?_of_isDigit (decimal c member), Option.getD_some, Nat.mul_comm]

variable (width n : Nat)

theorem isDigit_of_mem_padded {c : Char} (member : c ∈ padded width n) : c.isDigit = true := by
  rcases List.mem_append.1 member with zero | digit
  · rw [List.eq_of_mem_replicate zero]
    rfl
  · exact Nat.isDigit_of_mem_toDigits (by decide) (by decide) digit

theorem padded_ne_nil : padded width n ≠ [] :=
  List.append_ne_nil_of_right_ne_nil _ (List.ne_nil_of_length_pos Nat.length_toDigits_pos)

theorem valueOf_padded : valueOf 10 (padded width n) = n := by
  rw [valueOf_eq_ofDigitChars fun _ => isDigit_of_mem_padded width n, padded,
    Nat.ofDigitChars_append, Nat.ofDigitChars_replicate_zero, Nat.mul_zero,
    Nat.ofDigitChars_toDigits (by decide) (by decide)]

theorem length_padded {width n : Nat} (positive : 0 < width) (small : n < 10 ^ width) :
    (padded width n).length = width := by
  have short := (Nat.length_toDigits_le_iff (by decide : 1 < 10) positive).2 small
  rw [padded, List.length_append, List.length_replicate, Nat.sub_add_cancel short]

end Decimal

end BlobDispatch.Text
