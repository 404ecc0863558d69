import BlobDispatch.Json.Listing

/-! Values read back from their JSON form. A value that may be absent is written as null then, so
the form of its type must not be null for any value of its own. -/

namespace BlobDispatch

class LawfulJsonForm (α : Type) [JsonForm α] : Prop where
  decode_encode : ∀ value : α, decode? (encode value) = some value

class NonNullJsonForm (α : Type) [JsonForm α] : Prop where
  encode_ne_null : ∀ value : α, encode value ≠ .null

open LawfulJsonForm NonNullJsonForm

attribute [simp] decode_encode

namespace Json

variable {α : Type} [JsonForm α] [LawfulJsonForm α]

@[simp] theorem required_encode (value : α) : required (some (encode value)) = some value :=
  decode_encode value

@[simp] theorem withDefault_encode (default value : α) :
    withDefault default (some (encode value)) = some value :=
  decode_encode value

end Json

instance : LawfulJsonForm Bool := ⟨fun _ => rfl⟩

instance : LawfulJsonForm String := ⟨fun _ => rfl⟩

instance : LawfulJsonForm UInt8 where
  decode_encode n := by
    have small : n.toNat < UInt8.size := n.toNat_lt_size
    simp [decode?, encode, Json.natBelow?, small]

instance : LawfulJsonForm UInt32 where
  decode_encode n := by
    have small : n.toNat < UInt32.size := n.toNat_lt_size
    simp [decode?, encode, Json.natBelow?, small]

instance : LawfulJsonForm UInt64 where
  decode_encode n := by
    have small : n.toNat < UInt64.size := n.toNat_lt_size
    simp [decode?, encode, Json.natBelow?, small]

instance : NonNullJsonForm Bool := ⟨nofun⟩

instance : NonNullJsonForm String := ⟨nofun⟩

instance : NonNullJsonForm UInt32 := ⟨nofun⟩

instance : NonNullJsonForm UInt64 := ⟨nofun⟩

section Composite

variable {α β : Type} [JsonForm α] [LawfulJsonForm α] [JsonForm β] [LawfulJsonForm β]

instance : LawfulJsonForm (List α) where
  decode_encode values := by
    change (values.map encode).mapM decode? = some values
    induction values with
    | nil => rfl
    | cons value rest ih => simp [List.mapM_cons, ih]

instance : LawfulJsonForm (α × β) where
  decode_encode pair := by
    change (do return (← decode? (encode pair.1), ← decode? (encode pair.2))) = some pair
    simp

end Composite

instance {α : Type} [JsonForm α] [LawfulJsonForm α] [NonNullJsonForm α] :
    LawfulJsonForm (Option α) where
  decode_encode
    | none => rfl
    | some value => by
      have present := encode_ne_null value
      change (match encode value with
        | .null => some none
        | j => (decode? j).map some) = some (some value)
      split
      · contradiction
      · rw [decode_encode]
        rfl

namespace Listing

instance : LawfulJsonForm Scope where
  decode_encode
    | .account => rfl
    | .container _ => rfl

instance : LawfulJsonForm Query where
  decode_encode q := by
    change (do return {
      scope := ← Json.required (some (encode q.scope))
      namePrefix := ← Json.required (some (encode q.namePrefix))
      flat := ← Json.required (some (encode q.flat))
      maxResults := ← Json.withDefault none (some (encode q.maxResults)) }) = some q
    simp

instance : LawfulJsonForm Cursor where
  decode_encode c := by
    change (do return {
      query := ← Json.required (some (encode c.query))
      lastKey := ← Json.required (some (encode c.lastKey)) }) = some c
    simp

end Listing

end BlobDispatch
