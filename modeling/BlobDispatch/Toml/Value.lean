/-! Values of TOML documents. Tables remember how they came about, since that decides whether a
later line of the document may still add to them. Numbers with a fraction and dates keep their
text: no setting is one of them. -/

namespace BlobDispatch.Toml

inductive Scalar where
  | string (text : String)
  | integer (value : Int)
  | float (text : String)
  | boolean (value : Bool)
  | moment (text : String)
  deriving DecidableEq

/-- How a table came about: from a header of its own, as a part of the path in another header, from
a dotted key, or in braces. -/
inductive TableKind where
  | header
  | implied
  | dotted
  | inline
  deriving DecidableEq

inductive Value where
  | scalar (scalar : Scalar)
  | array (values : List Value)
  | table (kind : TableKind) (entries : List (String × Value))
  | tables (rows : List (List (String × Value)))

/-- The entries of a table in the order in which their keys came first. -/
abbrev Entries := List (String × Value)

/-- The strings of an array that holds nothing else. -/
def Value.strings? : Value → Option (List String)
  | .array values => values.mapM fun
    | .scalar (.string text) => some text
    | _ => none
  | _ => none

/-- An integer that is not negative. -/
def Value.nat? : Value → Option Nat
  | .scalar (.integer (.ofNat n)) => some n
  | _ => none

/-- What a reader takes from the head of a text, with the text that is left. -/
abbrev Reader (α : Type) := List Char → Option (α × List Char)

end BlobDispatch.Toml
