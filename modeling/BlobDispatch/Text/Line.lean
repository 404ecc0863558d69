import BlobDispatch.Text.Segments

/-! One-line form of a message. The function works in passes over the whole text: first every
two-character break becomes a line feed, then every carriage return that is left, and the lines
are joined. `scanBreaks` is the same rule as one reading from left to right, in which a break is
the longest of the three spellings at its place. -/

namespace BlobDispatch.Text

/-- Replaces each carriage return that a line feed follows, with that line feed, by one feed. -/
def mergeBreaks : List Char → List Char
  | [] => []
  | '\r' :: '\n' :: rest => '\n' :: mergeBreaks rest
  | c :: rest => c :: mergeBreaks rest

/-- The lines of a message, whichever of the three breaks ends them. -/
def lines (text : List Char) : List (List Char) :=
  segments '\n' ((mergeBreaks text).map fun c => if c = '\r' then '\n' else c)

/-- The message on one line, its lines joined by a semicolon and a space. -/
def oneLine (message : String) : String :=
  String.ofList ([';', ' '].intercalate (lines message.toList))

/-- The one-line form read off from left to right: the longest break at each place is replaced
and every other character kept. -/
def scanBreaks : List Char → List Char
  | [] => []
  | '\r' :: '\n' :: rest => ';' :: ' ' :: scanBreaks rest
  | '\r' :: rest => ';' :: ' ' :: scanBreaks rest
  | '\n' :: rest => ';' :: ' ' :: scanBreaks rest
  | c :: rest => c :: scanBreaks rest

end BlobDispatch.Text
