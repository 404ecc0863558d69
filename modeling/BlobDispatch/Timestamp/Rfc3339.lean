import BlobDispatch.Text.Blank
import BlobDispatch.Text.Digits
import BlobDispatch.Timestamp.Basic

/-! The RFC 3339 text of timestamps. It is written in UTC with as few digits of a fraction as are
exact. Reading is more lenient: fields may have fewer digits, blanks may stand before them and
before their separators, and any offset from UTC below a day is converted. -/

namespace BlobDispatch

namespace Timestamp

/-- Four digits for the years 0 to 9999, otherwise a sign and at least four. -/
def yearText (year : Int) : List Char :=
  if 0 ≤ year ∧ year ≤ 9999 then Text.padded 4 year.toNat
  else (if year < 0 then '-' else '+') :: Text.padded 4 year.natAbs

/-- A fraction of no, three, six or nine digits, the fewest that are exact. -/
def fractionText (nanosecond : Nat) : List Char :=
  if nanosecond = 0 then []
  else if nanosecond % 1000000 = 0 then '.' :: Text.padded 3 (nanosecond / 1000000)
  else if nanosecond % 1000 = 0 then '.' :: Text.padded 6 (nanosecond / 1000)
  else '.' :: Text.padded 9 nanosecond

/-- The RFC 3339 text of a timestamp. -/
def text (t : Timestamp) : String :=
  String.ofList (yearText t.date.year ++ '-' :: Text.padded 2 t.date.month ++
    '-' :: Text.padded 2 t.date.day ++ 'T' :: Text.padded 2 t.hour ++
    ':' :: Text.padded 2 t.minute ++ ':' :: Text.padded 2 t.second ++
    fractionText t.nanosecond ++ ['Z'])

/-- A number of one to `limit` digits at the head of a text, with their count. -/
def number? (limit : Nat) (text : List Char) : Option (Nat × Nat × List Char) :=
  let digits := (text.take limit).takeWhile Char.isDigit
  if digits = [] then none
  else some (Text.valueOf 10 digits, digits.length, text.drop digits.length)

/-- A field of at most two digits, blanks before it skipped. -/
def field? (text : List Char) : Option (Nat × List Char) :=
  (number? 2 (Text.skipBlanks text)).map fun (value, _, rest) => (value, rest)

/-- What follows `mark`, blanks before it skipped. -/
def mark? (mark : Char) (text : List Char) : Option (List Char) :=
  match Text.skipBlanks text with
  | [] => none
  | c :: rest => if c = mark then some rest else none

/-- A year: at most four digits, or a sign and any number of them. -/
def year? (text : List Char) : Option (Int × List Char) :=
  match Text.skipBlanks text with
  | '-' :: rest => (number? rest.length rest).map fun (value, _, rest) => (-(value : Int), rest)
  | '+' :: rest => (number? rest.length rest).map fun (value, _, rest) => ((value : Int), rest)
  | rest => (number? 4 rest).map fun (value, _, rest) => ((value : Int), rest)

/-- A fraction of a second in nanoseconds; digits after the ninth do not count. -/
def fraction? : List Char → Option (Nat × List Char)
  | '.' :: text =>
    (number? 9 text).map fun (value, count, rest) =>
      (value * Nat.pow 10 (9 - count), rest.dropWhile Char.isDigit)
  | text => some (0, text)

/-- Two digits with nothing skipped. -/
def twoDigits? : List Char → Option (Nat × List Char)
  | a :: b :: rest =>
    if a.isDigit && b.isDigit then some (Text.valueOf 10 [a, b], rest) else none
  | _ => none

/-- Hours and minutes of an offset without its sign, colons and blanks between them skipped. -/
def offsetSize? (text : List Char) : Option (Nat × List Char) := do
  let (hours, rest) ← twoDigits? text
  let (minutes, rest) ← twoDigits? (rest.dropWhile fun c => c == ':' || Text.isBlank c)
  if minutes < 60 ∧ hours < 24 then some (hours * 60 + minutes, rest) else none

/-- An offset from UTC in minutes: `Z`, `UTC` in any case, or a signed time. The sign may be the
minus sign U+2212. -/
def offset? (text : List Char) : Option (Int × List Char) :=
  match text with
  | [] => none
  | c :: rest =>
    if (text.take 3).map Char.toLower = ['u', 't', 'c'] then some (0, text.drop 3)
    else if c = 'Z' ∨ c = 'z' then some (0, rest)
    else if c = '+' then (offsetSize? rest).map fun (size, rest) => ((size : Int), rest)
    else if c = '-' ∨ c = '\u2212' then
      (offsetSize? rest).map fun (size, rest) => (-(size : Int), rest)
    else none

/-- Reads an RFC 3339 timestamp and converts it to UTC. Fields may have fewer digits than they
are written with, and blanks may stand before them and before their separators. -/
def parse? (s : String) : Option Timestamp := do
  let (year, rest) ← year? s.toList
  let (month, rest) ← mark? '-' rest >>= field?
  let (day, rest) ← mark? '-' rest >>= field?
  let rest ← match rest with
    | c :: rest => if c = 'T' ∨ c = 't' ∨ c = ' ' then some rest else none
    | [] => none
  let (hour, rest) ← field? rest
  let (minute, rest) ← mark? ':' rest >>= field?
  let (second, rest) ← mark? ':' rest >>= field?
  let (nanosecond, rest) ← fraction? rest
  let (offset, rest) ← offset? (Text.skipBlanks rest)
  if Text.skipBlanks rest = [] then ofLocal? ⟨year, month, day⟩ hour minute second nanosecond offset
  else none

end Timestamp

end BlobDispatch
