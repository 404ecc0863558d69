/-! The property White_Space of Unicode, which has more members than the blanks of ASCII. -/

namespace BlobDispatch.Text

/-- The characters with the property White_Space. -/
def isBlank (c : Char) : Bool :=
  ('\x09' ≤ c && c ≤ '\x0d') || c == ' ' || c == '\u0085' || c == '\u00a0' || c == '\u1680' ||
    ('\u2000' ≤ c && c ≤ '\u200a') || c == '\u2028' || c == '\u2029' || c == '\u202f' ||
    c == '\u205f' || c == '\u3000'

def skipBlanks (text : List Char) : List Char := text.dropWhile isBlank

end BlobDispatch.Text
