import BlobDispatch.Text.Segments

/-! Texts in the order of their UTF-8 bytes. Names are kept and listed in the order of their
characters; both orders are the same. The texts under a prefix are an interval of it. -/

namespace BlobDispatch.Text

def bytes (s : String) : List UInt8 := s.toByteArray.data.toList

private theorem bytes_eq_flatMap (s : String) :
    bytes s = s.toList.flatMap String.utf8EncodeChar := by
  have encoded : s.toByteArray = s.toList.utf8Encode := by
    conv => lhs; rw [← String.ofList_toList (s := s)]
    exact String.toByteArray_ofList
  rw [bytes, encoded, List.utf8Encode, List.data_toByteArray]

private theorem digits_lt {a b : Nat} (below : a < b) :
    a / 262144 < b / 262144 ∨ a / 262144 = b / 262144 ∧
      (a / 4096 % 64 < b / 4096 % 64 ∨ a / 4096 % 64 = b / 4096 % 64 ∧
        (a / 64 % 64 < b / 64 % 64 ∨ a / 64 % 64 = b / 64 % 64 ∧ a % 64 < b % 64)) := by
  have first : a / 64 < b / 64 ∨ a / 64 = b / 64 ∧ a % 64 < b % 64 := by omega
  have second : a / 4096 < b / 4096 ∨
      a / 4096 = b / 4096 ∧ (a / 64 % 64 < b / 64 % 64 ∨ a / 64 = b / 64 ∧ a % 64 < b % 64) := by
    omega
  omega

/-- A smaller character has an encoding that is smaller at the first place where the two differ. -/
private theorem encoding_lt {c d : Char} (below : c < d) (cs ds : List UInt8) :
    String.utf8EncodeChar c ++ cs < String.utf8EncodeChar d ++ ds := by
  have small : c.val.toNat < d.val.toNat := below
  have bound : d.val.toNat < 1114112 := by
    rcases d.valid with low | ⟨_, high⟩
    · exact Nat.lt_trans low (by decide)
    · exact high
  have digits := digits_lt small
  unfold String.utf8EncodeChar
  dsimp only
  generalize c.val.toNat = a at *
  generalize d.val.toNat = b at *
  split <;> split <;> (try split) <;> (try split) <;> (try split) <;> (try split) <;>
    simp only [List.cons_append, List.nil_append, List.cons_lt_cons_iff, UInt8.lt_iff_toNat_lt,
      ← UInt8.toNat_inj, UInt8.toNat_ofNat']
  all_goals simp (disch := omega) only [Nat.mod_eq_of_lt (b := 2 ^ 8), Nat.mod_eq_of_lt (b := 8)]
  all_goals try omega

private theorem encodings_lt {cs ds : List Char} (below : cs < ds) :
    cs.flatMap String.utf8EncodeChar < ds.flatMap String.utf8EncodeChar := by
  induction cs generalizing ds with
  | nil =>
    cases ds with
    | nil => exact absurd below (List.lt_irrefl [])
    | cons d ds =>
      rw [List.flatMap_nil, List.flatMap_cons]
      obtain ⟨first, rest, shape⟩ : ∃ b bs, String.utf8EncodeChar d = b :: bs := by
        apply List.exists_cons_of_ne_nil
        apply List.ne_nil_of_length_pos
        rw [String.length_utf8EncodeChar]
        exact Char.utf8Size_pos d
      rw [shape]
      exact List.nil_lt_cons _ _
  | cons c cs ih =>
    cases ds with
    | nil => exact absurd below (List.not_lt_nil _)
    | cons d ds =>
      rw [List.flatMap_cons, List.flatMap_cons]
      rcases List.cons_lt_cons_iff.1 below with smaller | ⟨same, later⟩
      · exact encoding_lt smaller _ _
      · subst same
        exact List.append_left_lt (ih later)

theorem bytes_lt_bytes_iff {s t : String} : bytes s < bytes t ↔ s < t := by
  have forward {s t : String} (below : s < t) : bytes s < bytes t := by
    rw [bytes_eq_flatMap, bytes_eq_flatMap]
    exact encodings_lt below
  constructor
  · intro below
    apply Classical.byContradiction
    intro notBelow
    rcases Std.le_iff_lt_or_eq.1 (String.not_lt.1 notBelow) with above | same
    · exact List.lt_asymm below (forward above)
    · subst same
      exact List.lt_irrefl _ below
  · exact forward

theorem startsWith_iff {lead text : String} :
    startsWith lead text = true ↔ lead.toList <+: text.toList := by
  rw [startsWith, List.isPrefixOf_iff_prefix]

theorem startsWith_trans {lead middle text : String} (first : startsWith lead middle = true)
    (second : startsWith middle text = true) : startsWith lead text = true :=
  startsWith_iff.2 ((startsWith_iff.1 first).trans (startsWith_iff.1 second))

theorem le_of_startsWith {lead text : String} (begins : startsWith lead text = true) :
    lead ≤ text := by
  have least : ¬ text.toList < lead.toList := (startsWith_iff.1 begins).le
  exact String.not_lt.1 least

private theorem prefix_of_between {lead text last : List Char} (low : ¬ text < lead)
    (high : ¬ last < text) (begins : lead <+: last) : lead <+: text := by
  induction lead generalizing text last with
  | nil => exact List.nil_prefix
  | cons l lead ih =>
    obtain ⟨rest, rfl⟩ := begins
    cases text with
    | nil => exact absurd (List.nil_lt_cons _ _) low
    | cons c text =>
      rw [List.cons_lt_cons_iff, not_or] at low
      rw [List.cons_append, List.cons_lt_cons_iff, not_or] at high
      obtain rfl : l = c := Char.le_antisymm (Char.not_lt.1 low.1) (Char.not_lt.1 high.1)
      have lowRest : ¬ text < lead := fun below => low.2 ⟨rfl, below⟩
      have highRest : ¬ lead ++ rest < text := fun above => high.2 ⟨rfl, above⟩
      exact (List.prefix_cons_inj l).2 (ih lowRest highRest (List.prefix_append _ _))

/-- The texts under a prefix lie together: what is between two of them, the prefix itself counted
as one, is also under it. -/
theorem startsWith_of_between {lead text last : String} (low : lead ≤ text) (high : text ≤ last)
    (begins : startsWith lead last = true) : startsWith lead text = true := by
  have notBelow : ¬ text < lead := String.not_lt.2 low
  have notAbove : ¬ last < text := String.not_lt.2 high
  exact startsWith_iff.2 (prefix_of_between notBelow notAbove (startsWith_iff.1 begins))

end BlobDispatch.Text
