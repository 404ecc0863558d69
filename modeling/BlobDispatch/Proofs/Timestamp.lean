import BlobDispatch.Proofs.Text.Digits
import BlobDispatch.Timestamp.Rfc3339
import Mathlib.Tactic.IntervalCases

/-! The text of a timestamp is read back as the timestamp. Every part of it is followed by a
character that is no digit, so no reader takes more than its own part. -/

namespace BlobDispatch

namespace Timestamp

open Text

section Parts

private theorem isBlank_of_isDigit {c : Char} (digit : c.isDigit = true) : isBlank c = false := by
  obtain ⟨low, high⟩ := Char.isDigit_iff_toNat.1 digit
  have low : 48 ≤ c.toNat := low
  have high : c.toNat ≤ 57 := high
  have same := Char.ofNat_toNat c
  interval_cases c.toNat <;> subst same <;> rfl

private theorem skipBlanks_cons {c : Char} (dark : isBlank c = false) (rest : List Char) :
    skipBlanks (c :: rest) = c :: rest :=
  List.dropWhile_cons_of_neg (by simp [dark])

private theorem skipBlanks_padded (width n : Nat) (rest : List Char) :
    skipBlanks (padded width n ++ rest) = padded width n ++ rest := by
  obtain ⟨c, digits, shape⟩ := List.exists_cons_of_ne_nil (padded_ne_nil width n)
  have digit := isDigit_of_mem_padded width n (shape ▸ List.mem_cons_self)
  rw [shape, List.cons_append, skipBlanks_cons (isBlank_of_isDigit digit)]

/-- A number is read up to the character behind it. -/
private theorem number?_padded {limit width n : Nat} {c : Char} (stop : c.isDigit = false)
    (fits : (padded width n).length ≤ limit) (rest : List Char) :
    number? limit (padded width n ++ c :: rest) =
      some (n, (padded width n).length, c :: rest) := by
  have taken : ((padded width n ++ c :: rest).take limit).takeWhile Char.isDigit =
      padded width n := by
    rw [List.take_append, List.take_of_length_le fits,
      List.takeWhile_append_of_pos fun _ => isDigit_of_mem_padded width n]
    cases limit - (padded width n).length <;> simp [stop]
  simp only [number?, taken, padded_ne_nil, ↓reduceIte, valueOf_padded, List.drop_left]

private theorem field?_padded {n : Nat} {c : Char} (stop : c.isDigit = false) (small : n < 100)
    (rest : List Char) : field? (padded 2 n ++ c :: rest) = some (n, c :: rest) := by
  have long : (padded 2 n).length = 2 := length_padded (by decide) small
  rw [field?, skipBlanks_padded, number?_padded stop (Nat.le_of_eq long), Option.map_some]

/-- A signed year is read to its last digit, however many there are. -/
private theorem number?_signed (n : Nat) (rest : List Char) :
    number? (padded 4 n ++ '-' :: rest).length (padded 4 n ++ '-' :: rest) =
      some (n, (padded 4 n).length, '-' :: rest) := by
  apply number?_padded (by decide)
  rw [List.length_append]
  exact Nat.le_add_right _ _

private theorem year?_yearText (year : Int) (rest : List Char) :
    year? (yearText year ++ '-' :: rest) = some (year, '-' :: rest) := by
  unfold yearText
  split
  · rename_i usual
    have small : year.toNat < 10 ^ 4 := by omega
    have long := length_padded (by decide : 0 < 4) small
    have unsigned {sign : Char} (bare : sign.isDigit = false) (others : List Char) :
        padded 4 year.toNat ++ '-' :: rest ≠ sign :: others := by
      intro same
      obtain ⟨c, digits, shape⟩ := List.exists_cons_of_ne_nil (padded_ne_nil 4 year.toNat)
      have digit := isDigit_of_mem_padded 4 year.toNat (shape ▸ List.mem_cons_self)
      rw [shape, List.cons_append] at same
      rw [(List.cons.inj same).1, bare] at digit
      cases digit
    rw [year?, skipBlanks_padded]
    split
    · rename_i same
      exact absurd same (unsigned (by decide) _)
    · rename_i same
      exact absurd same (unsigned (by decide) _)
    · rw [number?_padded (by decide) (Nat.le_of_eq long), Option.map_some]
      simp only [Int.toNat_of_nonneg usual.1]
  · by_cases negative : year < 0
    · rw [if_pos negative, List.cons_append, year?, skipBlanks_cons (by decide)]
      simp only [number?_signed, Option.map_some]
      congr 2
      omega
    · rw [if_neg negative, List.cons_append, year?, skipBlanks_cons (by decide)]
      simp only [number?_signed, Option.map_some]
      congr 2
      omega

private theorem fraction?_fractionText {nanosecond : Nat} (small : nanosecond < 1000000000)
    (rest : List Char) :
    fraction? (fractionText nanosecond ++ 'Z' :: rest) = some (nanosecond, 'Z' :: rest) := by
  have stop : 'Z'.isDigit = false := by decide
  have part {width value : Nat} (positive : 0 < width) (fits : width ≤ 9)
      (bound : value < 10 ^ width) : fraction? ('.' :: padded width value ++ 'Z' :: rest) =
        some (value * 10 ^ (9 - width), 'Z' :: rest) := by
    have long := length_padded positive bound
    rw [List.cons_append, fraction?, number?_padded stop (long.trans_le fits), long, Option.map_some]
    rfl
  unfold fractionText
  split
  · rename_i whole
    rw [whole]
    rfl
  · split
    · rename_i even
      rw [part (by decide) (by decide) (by omega)]
      congr 2
      omega
    · split
      · rename_i even
        rw [part (by decide) (by decide) (by omega)]
        congr 2
        omega
      · rw [part (by decide) (by decide) small]
        simp

private theorem mark?_cons {mark : Char} (dark : isBlank mark = false) (rest : List Char) :
    mark? mark (mark :: rest) = some rest := by
  rw [mark?, skipBlanks_cons dark]
  simp

/-- What comes behind the seconds does not go on with a digit. -/
private theorem exists_behind (nanosecond : Nat) : ∃ c rest, c.isDigit = false ∧
    fractionText nanosecond ++ ['Z'] = c :: rest := by
  unfold fractionText
  split
  · exact ⟨'Z', [], by decide, rfl⟩
  · split
    · exact ⟨'.', _, by decide, rfl⟩
    · split <;> exact ⟨'.', _, by decide, rfl⟩

end Parts

private theorem daysInMonth_lt (year : Int) (month : Nat) : daysInMonth year month < 100 := by
  unfold daysInMonth
  split
  · split <;> decide
  · split <;> decide

private theorem ofLocal?_utc (t : Timestamp) :
    ofLocal? t.date t.hour t.minute t.second t.nanosecond 0 = some t := by
  obtain ⟨dated, hours, minutes, seconds, nanoseconds⟩ := t.valid
  have day : ¬ (t.hour * 60 + t.minute - 0 : Int) < 0 := by omega
  have sameDay : (t.hour * 60 + t.minute - 0 : Int) < 1440 := by omega
  have ofDay : ((t.hour * 60 + t.minute - 0 : Int) % 1440).toNat = t.hour * 60 + t.minute := by omega
  have hour : (t.hour * 60 + t.minute) / 60 = t.hour := by omega
  have minute : (t.hour * 60 + t.minute) % 60 = t.minute := by omega
  simp only [ofLocal?, day, sameDay, ofDay, hour, minute, ↓reduceIte]
  rw [dif_pos ⟨dated, hours, minutes, dated, hours, minutes, seconds, nanoseconds⟩]

theorem parse?_text (t : Timestamp) : parse? t.text = some t := by
  obtain ⟨⟨_, ⟨_, months⟩, _, days⟩, hours, minutes, seconds, nanoseconds⟩ := t.valid
  have dayBound := Nat.lt_of_le_of_lt days (daysInMonth_lt _ _)
  obtain ⟨c, behind, stop, shape⟩ := exists_behind t.nanosecond
  have whole : t.text.toList = yearText t.date.year ++ '-' :: (padded 2 t.date.month ++ '-' ::
      (padded 2 t.date.day ++ 'T' :: (padded 2 t.hour ++ ':' :: (padded 2 t.minute ++ ':' ::
        (padded 2 t.second ++ c :: behind))))) := by
    simp [text, ← shape]
  have fraction := fraction?_fractionText nanoseconds []
  rw [shape] at fraction
  have dash (rest : List Char) := mark?_cons (by decide : isBlank '-' = false) rest
  have colon (rest : List Char) := mark?_cons (by decide : isBlank ':' = false) rest
  rw [parse?, whole, year?_yearText]
  simp only [Option.bind_eq_bind, Option.bind_some, dash, colon,
    field?_padded (by decide : '-'.isDigit = false) (by omega : t.date.month < 100),
    field?_padded (by decide : 'T'.isDigit = false) dayBound,
    field?_padded (by decide : ':'.isDigit = false) (by omega : t.hour < 100),
    field?_padded (by decide : ':'.isDigit = false) (by omega : t.minute < 100),
    field?_padded stop (by omega : t.second < 100), fraction]
  have closing : offset? (skipBlanks ['Z']) = some (0, []) := rfl
  rw [if_pos (.inl trivial), closing]
  exact ofLocal?_utc t

end Timestamp

end BlobDispatch
