import BlobDispatch.Text.Segments
import BlobDispatch.Timestamp.Basic
import BlobDispatch.Toml.Quote

/-! Numbers, dates and times of TOML. Integers have 64 bits with sign; floats must not be larger
than the largest finite one. -/

namespace BlobDispatch.Toml

/-- Digits with single underscores between them, the underscores left out. -/
def digitRun (isDigit : Char → Bool) : (afterDigit : Bool) → List Char → List Char × List Char
  | _, [] => ([], [])
  | afterDigit, c :: rest =>
    if isDigit c then
      let (digits, left) := digitRun isDigit true rest
      (c :: digits, left)
    else if afterDigit && c == '_' && (rest.head?.map isDigit).getD false then
      digitRun isDigit false rest
    else ([], c :: rest)

/-- One digit at least. -/
def digits? (isDigit : Char → Bool) : Reader (List Char) := fun text =>
  match digitRun isDigit false text with
  | ([], _) => none
  | (digits, rest) => some (digits, rest)

/-- Integers are smaller than this and not below its negative. -/
def integerBound : Nat := 9223372036854775808

def isDigitOf (base : Nat) (c : Char) : Bool :=
  match Text.hexValue? c with
  | some value => value < base
  | none => false

/-- An integer written after `0x`, `0o` or `0b`. -/
def based? (base : Nat) : Reader Scalar := fun text => do
  let (digits, rest) ← digits? (isDigitOf base) text
  let value := Text.valueOf base digits
  if value < integerBound then some (.integer value, rest) else none

/-- A fraction after its point, possibly absent. -/
def fractionDigits : List Char → List Char × List Char
  | '.' :: rest =>
    match digits? Char.isDigit rest with
    | some found => found
    | none => ([], '.' :: rest)
  | text => ([], text)

/-- A sign, if there is one, and the text after it. -/
def signed : List Char → Bool × List Char
  | '-' :: rest => (true, rest)
  | '+' :: rest => (false, rest)
  | text => (false, text)

/-- An exponent after its letter. -/
def exponent? : Reader Int
  | c :: rest =>
    if c = 'e' ∨ c = 'E' then do
      let (negative, rest) := signed rest
      let (digits, rest) ← digits? Char.isDigit rest
      let size : Int := Text.valueOf 10 digits
      return (if negative then -size else size, rest)
    else none
  | [] => none

/-- Whether `digits · 10^exponent` is past the largest finite float of 64 bits after rounding to
the nearest, ties to even. -/
def isTooLarge (digits : Nat) (exponent : Int) : Bool :=
  let magnitude : Int := (Nat.toDigits 10 digits).length + exponent
  let bound := Nat.pow 2 1024 - Nat.pow 2 970
  if digits = 0 ∨ magnitude ≤ 308 then false
  else if 310 ≤ magnitude then true
  else if 0 ≤ exponent then bound ≤ digits * Nat.pow 10 exponent.toNat
  else bound * Nat.pow 10 exponent.natAbs ≤ digits

/-- A decimal number: an integer unless it has a fraction or an exponent. -/
def decimal? (negative : Bool) : Reader Scalar := fun text => do
  let (whole, rest) ←
    match text with
    | '0' :: rest => some (['0'], rest)
    | _ => digits? Char.isDigit text
  let (fraction, rest) := fractionDigits rest
  match exponent? rest, fraction with
  | none, [] =>
    let value : Int := if negative then -(Text.valueOf 10 whole : Int) else Text.valueOf 10 whole
    if -(integerBound : Int) ≤ value ∧ value < integerBound then some (.integer value, rest)
    else none
  | found, _ =>
    let (exponent, rest) := found.getD (0, rest)
    let digits := Text.valueOf 10 (whole ++ fraction)
    if !negative && isTooLarge digits (exponent - fraction.length) then none
    else some (.float (String.ofList (text.take (text.length - rest.length))), rest)

/-- A number of any form. -/
def number? : Reader Scalar
  | '0' :: 'x' :: rest => based? 16 rest
  | '0' :: 'o' :: rest => based? 8 rest
  | '0' :: 'b' :: rest => based? 2 rest
  | text =>
    match signed text with
    | (_, 'i' :: 'n' :: 'f' :: rest) => some (.float "inf", rest)
    | (_, 'n' :: 'a' :: 'n' :: rest) => some (.float "nan", rest)
    | (negative, rest) => decimal? negative rest

/-- Exactly `width` digits whose value is in the given bounds. -/
def part? (width low high : Nat) : Reader Nat := fun text =>
  let digits := (text.take width).takeWhile Char.isDigit
  let value := Text.valueOf 10 digits
  if digits.length = width ∧ low ≤ value ∧ value ≤ high then some (value, text.drop width)
  else none

/-- A time of day with seconds, and a fraction of them if one follows. -/
def clock? (text : List Char) : Option (List Char) := do
  let (_, rest) ← part? 2 0 23 text
  let rest ← Text.stripLead? [':'] rest
  let (_, rest) ← part? 2 0 59 rest
  let rest ← Text.stripLead? [':'] rest
  let (_, rest) ← part? 2 0 60 rest
  match rest with
  | '.' :: d :: more => if d.isDigit then some (more.dropWhile Char.isDigit) else some rest
  | _ => some rest

/-- What follows an offset from UTC at the head of a text. -/
def zone? : List Char → Option (List Char)
  | c :: rest =>
    if c = 'Z' ∨ c = 'z' then some rest
    else if c = '+' ∨ c = '-' then do
      let (_, rest) ← part? 2 0 23 rest
      let rest ← Text.stripLead? [':'] rest
      let (_, rest) ← part? 2 0 59 rest
      return rest
    else none
  | [] => none

/-- What follows a time that belongs to a date, with its offset if it has one. -/
def timeOfDate? : List Char → Option (List Char)
  | c :: rest =>
    if c = 'T' ∨ c = 't' ∨ c = ' ' then (clock? rest).map fun rest => (zone? rest).getD rest
    else none
  | [] => none

/-- What follows a date at the head of a text. -/
def date? (text : List Char) : Option (List Char) := do
  let (year, rest) ← part? 4 0 9999 text
  let rest ← Text.stripLead? ['-'] rest
  let (month, rest) ← part? 2 1 12 rest
  let rest ← Text.stripLead? ['-'] rest
  let (_, rest) ← part? 2 1 (daysInMonth year month) rest
  return rest

/-- A date, a time, or both. -/
def moment? : Reader Scalar := fun text => do
  let rest ← match date? text with
    | some rest => some ((timeOfDate? rest).getD rest)
    | none => clock? text
  return (.moment (String.ofList (text.take (text.length - rest.length))), rest)

end BlobDispatch.Toml
