import BlobDispatch.Text.Digits
import BlobDispatch.Toml.Value

/-! Strings of TOML: basic ones in double quotes, with escapes, and literal ones in single quotes,
without; each kind on one line or, between three quotes, on several. A line break inside is one
line feed whichever way it is spelled. -/

namespace BlobDispatch.Toml

/-- Tabs, and every character that is no control. -/
def isTextCharacter (c : Char) : Bool := c == '\t' || (' ' ≤ c && c != '\x7f')

def isSpace (c : Char) : Bool := c == ' ' || c == '\t'

/-- The text after a line break at its head. -/
def lineBreak? : List Char → Option (List Char)
  | '\n' :: rest => some rest
  | '\r' :: '\n' :: rest => some rest
  | _ => none

/-- The character whose code point has exactly `width` hexadecimal digits here. -/
def codePoint? (width : Nat) : Reader Char := fun text => do
  let digits ← (text.take width).mapM Text.hexValue?
  let point := digits.foldl (fun value digit => value * 16 + digit) 0
  if digits.length = width ∧ point.isValidChar then some (Char.ofNat point, text.drop width)
  else none

/-- The character of an escape, read after its backslash. -/
def escape? : Reader Char
  | 'b' :: rest => some ('\x08', rest)
  | 't' :: rest => some ('\t', rest)
  | 'n' :: rest => some ('\n', rest)
  | 'f' :: rest => some ('\x0c', rest)
  | 'r' :: rest => some ('\r', rest)
  | '\"' :: rest => some ('\"', rest)
  | '\\' :: rest => some ('\\', rest)
  | 'u' :: rest => codePoint? 4 rest
  | 'U' :: rest => codePoint? 8 rest
  | _ => none

/-- The rest of a string on one line, up to its closing quote. Escapes count in double quotes
only. `fuel` bounds the number of characters. -/
def lineString (quote : Char) : (fuel : Nat) → Reader (List Char)
  | 0, _ => none
  | _ + 1, [] => none
  | fuel + 1, c :: rest =>
    if c = quote then some ([], rest)
    else if c = '\\' ∧ quote = '\"' then do
      let (escaped, rest) ← escape? rest
      let (others, rest) ← lineString quote fuel rest
      return (escaped :: others, rest)
    else if isTextCharacter c then do
      let (others, rest) ← lineString quote fuel rest
      return (c :: others, rest)
    else none

/-- Skips spaces and line breaks. -/
def skipLayout : List Char → List Char
  | '\r' :: '\n' :: rest => skipLayout rest
  | c :: rest => if isSpace c || c == '\n' then skipLayout rest else c :: rest
  | [] => []

/-- What follows a backslash at the end of a line: spaces, one line break at least, and all
spaces and breaks after it. -/
def continuation? (text : List Char) : Option (List Char) :=
  (lineBreak? (text.dropWhile isSpace)).map skipLayout

/-- The rest of a string on several lines, up to three closing quotes. One or two quotes may stand
inside, right before the closing ones too. -/
def blockString (quote : Char) : (fuel : Nat) → Reader (List Char)
  | 0, _ => none
  | fuel + 1, text =>
    match text with
    | [] => none
    | c :: rest =>
      if c = quote then
        let run := (text.take 5).takeWhile (· == quote)
        let after := text.drop run.length
        if 3 ≤ run.length then some (run.drop 3, after)
        else (blockString quote fuel after).map fun (others, rest) => (run ++ others, rest)
      else match lineBreak? text with
        | some after =>
          (blockString quote fuel after).map fun (others, rest) => ('\n' :: others, rest)
        | none =>
          if c = '\\' ∧ quote = '\"' then
            match continuation? rest with
            | some after => blockString quote fuel after
            | none => do
              let (escaped, rest) ← escape? rest
              let (others, rest) ← blockString quote fuel rest
              return (escaped :: others, rest)
          else if isTextCharacter c then
            (blockString quote fuel rest).map fun (others, rest) => (c :: others, rest)
          else none

/-- A string on one line of either kind. -/
def lineString? : Reader String
  | c :: rest =>
    if c = '\"' ∨ c = '\'' then
      (lineString c rest.length rest).map fun (text, rest) => (String.ofList text, rest)
    else none
  | [] => none

/-- A string of any kind. A line break right after three opening quotes does not count. -/
def string? : Reader String
  | a :: b :: c :: rest =>
    if a = b ∧ b = c ∧ (a = '\"' ∨ a = '\'') then
      let body := (lineBreak? rest).getD rest
      (blockString a body.length body).map fun (text, rest) => (String.ofList text, rest)
    else lineString? (a :: b :: c :: rest)
  | text => lineString? text

end BlobDispatch.Toml
