import BlobDispatch.Text.CasedTable
import BlobDispatch.Text.CaseIgnorableTable
import BlobDispatch.Text.LowercaseTable
import BlobDispatch.Text.Ranges

/-! Full lower-casing of a text. Every character has a fixed image except the capital sigma,
whose image depends on whether it ends a word, so lower-casing is a function of the whole text
and not of its characters one by one. -/

namespace BlobDispatch.Text

def isCased (c : Char) : Bool := inRanges c.toNat casedRanges

def isCaseIgnorable (c : Char) : Bool := inRanges c.toNat caseIgnorableRanges

/-- The image of a code point under ascending disjoint runs, itself where no run lists it. -/
def runImage (c : Nat) : List CaseRun → Nat
  | [] => c
  | run :: rest =>
    if c < run.first then c
    else if c ≤ run.last then
      if (c - run.first) % run.step = 0 then run.image + (c - run.first) else c
    else runImage c rest

/-- The image of a character other than the capital sigma. Only U+0130 has two characters in its
image: `i` and the dot that it keeps. -/
def lowerChar (c : Char) : List Char :=
  if c = '\u0130' then ['i', '\u0307'] else [Char.ofNat (runImage c.toNat lowercaseRuns)]

/-- The first character that is not case-ignorable exists and is cased. -/
def meetsCased (cs : List Char) : Bool :=
  match cs.dropWhile isCaseIgnorable with
  | [] => false
  | c :: _ => isCased c

/-- Lower-cases `cs`, which stands after the reversed text `before`. A capital sigma ends a word
when a cased character comes before it and none after it, case-ignorable ones left out. -/
def lowerFrom (before : List Char) : List Char → List Char
  | [] => []
  | c :: rest =>
    (if c = '\u03a3' then
      if meetsCased before && !meetsCased rest then ['\u03c2'] else ['\u03c3']
    else lowerChar c) ++ lowerFrom (c :: before) rest

/-- The full lower-case form of a text. -/
def lower (s : String) : String := String.ofList (lowerFrom [] s.toList)

/-- Equality of two texts up to the case of ASCII letters; other letters must be the same. -/
def sameAsciiFold (a b : String) : Bool := a.toList.map Char.toLower == b.toList.map Char.toLower

end BlobDispatch.Text
