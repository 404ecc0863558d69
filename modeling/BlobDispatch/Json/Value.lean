/-! JSON values as data. Integers are exact; a number with a fraction or an exponent keeps its text,
for no field here is one. The members of an object come with distinct names. -/

namespace BlobDispatch

inductive Json where
  | null
  | bool (value : Bool)
  | integer (value : Int)
  | decimal (text : String)
  | string (text : String)
  | array (values : List Json)
  | object (members : List (String × Json))
  deriving Inhabited

namespace Json

/-- The values of named fields. They are the members of an object with these names, others
ignored, or the values of an array in the given order. An array must have a value for each name,
or, where fields have defaults, no more values than names. -/
def fields? (names : List String) (hasDefaults : Bool) : Json → Option (List (Option Json))
  | .object members => some (names.map fun name => members.lookup name)
  | .array values =>
    if values.length = names.length ∨ (hasDefaults ∧ values.length < names.length) then
      some (values.map some ++ List.replicate (names.length - values.length) none)
    else none
  | _ => none

end Json

/-- A type whose values are written as JSON and read from it. -/
class JsonForm (α : Type) where
  encode : α → Json
  decode? : Json → Option α

export JsonForm (encode decode?)

namespace Json

/-- A field that must be there. -/
def required {α : Type} [JsonForm α] (field : Option Json) : Option α := field.bind decode?

/-- A field that takes a default where it is not there. -/
def withDefault {α : Type} [JsonForm α] (default : α) : Option Json → Option α
  | none => some default
  | some value => decode? value

/-- A natural number below a bound. -/
def natBelow? (bound : Nat) : Json → Option Nat
  | .integer (.ofNat n) => if n < bound then some n else none
  | _ => none

end Json

instance : JsonForm Bool where
  encode := .bool
  decode?
    | .bool value => some value
    | _ => none

instance : JsonForm String where
  encode := .string
  decode?
    | .string text => some text
    | _ => none

instance : JsonForm UInt8 where
  encode n := .integer n.toNat
  decode? j := (j.natBelow? UInt8.size).map UInt8.ofNat

instance : JsonForm UInt32 where
  encode n := .integer n.toNat
  decode? j := (j.natBelow? UInt32.size).map UInt32.ofNat

instance : JsonForm UInt64 where
  encode n := .integer n.toNat
  decode? j := (j.natBelow? UInt64.size).map UInt64.ofNat

/-- A value that may be absent is written as null then. -/
instance {α : Type} [JsonForm α] : JsonForm (Option α) where
  encode
    | none => .null
    | some value => encode value
  decode?
    | .null => some none
    | j => (decode? j).map some

instance {α : Type} [JsonForm α] : JsonForm (List α) where
  encode values := .array (values.map encode)
  decode?
    | .array values => values.mapM decode?
    | _ => none

instance {α β : Type} [JsonForm α] [JsonForm β] : JsonForm (α × β) where
  encode pair := .array [encode pair.1, encode pair.2]
  decode?
    | .array [first, second] => do return (← decode? first, ← decode? second)
    | _ => none

end BlobDispatch
