import BlobDispatch.Toml.Number
import BlobDispatch.Toml.Table

/-! Documents of TOML 1.0. A document is read line by line into a tree of tables; a key that is
given twice, or a table that is opened again after it was settled, makes the whole document
unreadable. Reading tells only whether a text is a document, not where it fails. -/

namespace BlobDispatch.Toml

/-- The depth that arrays and inline tables must stay below, and the length that paths must. -/
def nestingLimit : Nat := 80

/-- Skips the characters of a comment; what is left is a line break or nothing. -/
def skipComment : List Char → Option (List Char)
  | [] => some []
  | c :: rest =>
    if isTextCharacter c then skipComment rest
    else if (lineBreak? (c :: rest)).isSome then some (c :: rest)
    else none

/-- Skips spaces, and a comment if one follows, at the end of a line; what is left begins with
the line break or is empty. -/
def lineEnd? (text : List Char) : Option (List Char) :=
  match text.dropWhile isSpace with
  | [] => some []
  | '#' :: rest => skipComment rest
  | rest => if (lineBreak? rest).isSome then some rest else none

/-- Skips spaces, line breaks and comments between the values of an array. -/
def skipBlanks : (fuel : Nat) → List Char → Option (List Char)
  | 0, text => some text
  | fuel + 1, text =>
    match text.dropWhile isSpace with
    | '#' :: rest => do
      let rest ← skipComment rest
      skipBlanks fuel (← lineBreak? rest)
    | rest =>
      match lineBreak? rest with
      | some after => skipBlanks fuel after
      | none => some rest

def isBareCharacter (c : Char) : Bool := c.isAlphanum || c == '_' || c == '-'

/-- One key, bare or in quotes. -/
def simpleKey? : Reader String := fun text =>
  match text.takeWhile isBareCharacter with
  | [] => lineString? text
  | bare => some (String.ofList bare, text.drop bare.length)

/-- A path of keys with dots between them. -/
def keys? : (fuel : Nat) → Reader (List String)
  | 0, _ => none
  | fuel + 1, text => do
    let (key, rest) ← simpleKey? (text.dropWhile isSpace)
    match rest.dropWhile isSpace with
    | '.' :: rest => (keys? fuel rest).map fun (more, rest) => (key :: more, rest)
    | rest => return ([key], rest)

/-- A path of keys that is not too long. -/
def path? : Reader (List String) := fun text => do
  let (keys, rest) ← keys? (text.length + 1) text
  if keys.length < nestingLimit then some (keys, rest) else none

/-- The values of an array after its opening bracket. -/
def arrayItems (value : Reader Value) : (fuel : Nat) → Reader (List Value)
  | 0, _ => none
  | fuel + 1, text => do
    let text ← skipBlanks (text.length + 1) text
    match text with
    | ']' :: rest => return ([], rest)
    | _ =>
      let (first, rest) ← value text
      let rest ← skipBlanks (rest.length + 1) rest
      match rest with
      | ',' :: rest => (arrayItems value fuel rest).map fun (more, rest) => (first :: more, rest)
      | ']' :: rest => return ([first], rest)
      | _ => none

/-- A path and its value. -/
def pair? (value : Reader Value) : Reader (List String × Value) := fun text => do
  let (path, rest) ← path? text
  match rest with
  | '=' :: rest =>
    let (found, rest) ← value (rest.dropWhile isSpace)
    return ((path, found), rest)
  | _ => none

/-- The pairs of an inline table from its first one on. -/
def inlinePairs (value : Reader Value) : (fuel : Nat) → Entries → Reader Entries
  | 0, _, _ => none
  | fuel + 1, entries, text => do
    let ((path, found), rest) ← pair? value text
    let entries ← addDotted path found .inline entries
    match rest.dropWhile isSpace with
    | ',' :: rest => inlinePairs value fuel entries rest
    | '}' :: rest => return (entries, rest)
    | _ => none

/-- An inline table after its opening brace. -/
def inlineTable (value : Reader Value) : Reader Entries := fun text =>
  match text.dropWhile isSpace with
  | '}' :: rest => some ([], rest)
  | rest => inlinePairs value rest.length [] rest

/-- A value that is no array and no table. -/
def scalar? : Reader Scalar := fun text =>
  match text with
  | 't' :: 'r' :: 'u' :: 'e' :: rest => some (.boolean true, rest)
  | 'f' :: 'a' :: 'l' :: 's' :: 'e' :: rest => some (.boolean false, rest)
  | '\"' :: _ | '\'' :: _ => (string? text).map fun (found, rest) => (.string found, rest)
  | _ => (moment? text).or (number? text)

/-- A value in which arrays and inline tables go at most `depth` levels deep. -/
def value? : (depth : Nat) → Reader Value
  | depth, '[' :: rest =>
    match depth with
    | 0 => none
    | below + 1 =>
      (arrayItems (value? below) (rest.length + 1) rest).map fun (found, rest) =>
        (.array found, rest)
  | depth, '{' :: rest =>
    match depth with
    | 0 => none
    | below + 1 =>
      (inlineTable (value? below) rest).map fun (found, rest) => (.table .inline found, rest)
  | _, text => (scalar? text).map fun (found, rest) => (.scalar found, rest)

/-- One line that is not blank, given the path of the table that is open: the path that is open
after it, and the tree. -/
def line? (opened : List String) (root : Entries) : Reader (List String × Entries) := fun text =>
  match text with
  | '[' :: '[' :: rest => do
    let (path, rest) ← path? rest
    let rest ← Text.stripLead? [']', ']'] rest
    return ((path, ← openRow path root), rest)
  | '[' :: rest => do
    let (path, rest) ← path? rest
    let rest ← Text.stripLead? [']'] rest
    return ((path, ← openTable path root), rest)
  | _ => do
    let ((path, found), rest) ← pair? (value? (nestingLimit - 1)) text
    let root ← changeAt .implied headerEnters (addDotted path found) opened .header root
    return ((opened, root), rest)

/-- The lines of a document, added to a tree. -/
def lines? : (fuel : Nat) → List String → Entries → List Char → Option Entries
  | 0, _, _, _ => none
  | fuel + 1, opened, root, text => do
    let text := text.dropWhile isSpace
    let ((opened, root), rest) ←
      match text with
      | [] | '#' :: _ | '\n' :: _ | '\r' :: _ => some ((opened, root), text)
      | _ => line? opened root text
    match ← lineEnd? rest with
    | [] => return root
    | rest => lines? fuel opened root (← lineBreak? rest)

/-- The root table of a document. A byte order mark may come before it. -/
def parse? (document : String) : Option Entries :=
  let text := match document.toList with
    | '\ufeff' :: rest => rest
    | text => text
  lines? (text.length + 1) [] [] text

end BlobDispatch.Toml
