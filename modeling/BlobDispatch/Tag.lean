import BlobDispatch.Text.Digits

/-! Entity tags: a number of 64 bits that changes with every write, and its text, `0x` and sixteen
hexadecimal digits. Reading is more lenient than writing: quotes around the text, leading zeros,
one plus sign and digits of either case are accepted. -/

namespace BlobDispatch

/-- The tag of one version of a blob, a number on the store-wide count of writes. -/
structure Tag where
  sequence : UInt64
  deriving DecidableEq

namespace Tag

/-- The tag that follows, which after the last of the 2^64 tags is the first. -/
def next (t : Tag) : Tag := ⟨t.sequence + 1⟩

instance : Ord Tag := ⟨fun a b => compare a.sequence b.sequence⟩

/-- The text of a tag. -/
def text (t : Tag) : String := String.ofList ('0' :: 'x' :: Text.fixedHex 16 t.sequence.toNat)

/-- The diagnostic form of a tag. -/
def inspect (t : Tag) : String := "ETag(" ++ t.text ++ ")"

/-- Why a text is not a tag. -/
inductive Fault where
  | noMarker
  | noDigits
  | badDigit
  | tooLarge
  deriving DecidableEq

structure Error where
  text : String
  fault : Fault
  deriving DecidableEq

def Error.message (e : Error) : String :=
  "invalid etag: " ++ match e.fault with
    | .noMarker => e.text
    | .noDigits => e.text ++ ": cannot parse integer from empty string"
    | .badDigit => e.text ++ ": invalid digit found in string"
    | .tooLarge => e.text ++ ": number too large to fit in target type"

/-- Reads digits after those that gave `value`. The first fault from the left is reported: a
character that is no digit, or a digit that takes the value to 2^64. -/
def readHex (value : Nat) : List Char → Except Fault Nat
  | [] => .ok value
  | c :: rest =>
    match Text.hexValue? c with
    | none => .error .badDigit
    | some digit =>
      if value * 16 + digit < UInt64.size then readHex (value * 16 + digit) rest
      else .error .tooLarge

/-- Reads a number of 64 bits. A plus sign may come before the digits but not stand alone. -/
def readNumber : List Char → Except Fault Nat
  | [] => .error .noDigits
  | ['+'] => .error .badDigit
  | '+' :: digits => readHex 0 digits
  | digits => readHex 0 digits

/-- A text without the double quotes at its two ends. -/
def trimQuotes (text : List Char) : List Char :=
  ((text.dropWhile (· == '\"')).reverse.dropWhile (· == '\"')).reverse

/-- Reads the text of a tag, bare or in double quotes. -/
def parse (s : String) : Except Error Tag :=
  match trimQuotes s.toList with
  | '0' :: 'x' :: number =>
    match readNumber number with
    | .ok value => .ok ⟨UInt64.ofNat value⟩
    | .error fault => .error ⟨s, fault⟩
  | _ => .error ⟨s, .noMarker⟩

end Tag

end BlobDispatch
