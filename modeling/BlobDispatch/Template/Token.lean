import BlobDispatch.Template.Placeholder

/-! Tokens of a pattern: literal text and placeholders in braces. The reader goes through the
characters once, from left to right, and the first fault on the way is the one it reports. -/

namespace BlobDispatch

inductive Token where
  | literal (text : String)
  | parameter (placeholder : Placeholder)
  deriving DecidableEq

namespace Token

/-- Puts a character in front of tokens, into the literal that stands first if one does. Two
literals therefore never follow each other. -/
def consCharacter (c : Char) : List Token → List Token
  | .literal text :: rest => .literal (String.ofList (c :: text.toList)) :: rest
  | tokens => .literal (String.ofList [c]) :: tokens

/-- Reads tokens. Outside a placeholder `opened` is `none`; inside one it holds, reversed, the
text since the brace. -/
def scan (opened : Option (List Char)) : List Char → Except Template.Fault (List Token)
  | [] =>
    match opened with
    | none => .ok []
    | some _ => .error .unclosedBrace
  | c :: rest =>
    match opened with
    | none =>
      if c = '\x7b' then scan (some []) rest
      else if c = '\x7d' then .error .unopenedBrace
      else (scan none rest).map (consCharacter c)
    | some text =>
      if c = '\x7b' then .error .nestedBrace
      else if c = '\x7d' then
        match Placeholder.ofText? text.reverse with
        | .error fault => .error fault
        | .ok placeholder => (scan none rest).map (.parameter placeholder :: ·)
      else scan (some (c :: text)) rest

/-- The tokens of a pattern. -/
def ofPattern (pattern : String) : Except Template.Fault (List Token) := scan none pattern.toList

/-- The tokens of a pattern, or an error that names the pattern. -/
def parse (pattern : String) : Except Template.Error (List Token) :=
  (ofPattern pattern).mapError (.invalidPattern pattern)

/-- The pattern that a token is written as. -/
def spell : Token → List Char
  | .literal text => text.toList
  | .parameter placeholder => '\x7b' :: placeholder.name.toList ++ ['\x7d']

/-- The pattern that tokens are written as. -/
def spellAll (tokens : List Token) : String := String.ofList (tokens.flatMap spell)

/-- The placeholders among tokens, in order. -/
def placeholders (tokens : List Token) : List Placeholder :=
  tokens.filterMap fun
    | .literal _ => none
    | .parameter placeholder => some placeholder

end Token

end BlobDispatch
