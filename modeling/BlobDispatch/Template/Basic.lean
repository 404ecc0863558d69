import BlobDispatch.Template.Contract
import BlobDispatch.Template.Match

/-! Templates: patterns such as `images/{folder}/{name}.png` that are matched against addresses of
blobs. A template is its pattern with the layout that the pattern has; the proof kept beside them
ties the two, so templates with one pattern are equal. -/

namespace BlobDispatch

/-- The captures of a match: values under the names of parameters, in order of declaration. -/
abbrev Binding := CaseMap String

structure Template where
  pattern : String
  layout : Layout
  compiled : Layout.ofPattern pattern = .ok layout

namespace Template

/-- The template with a pattern. -/
def compile (pattern : String) : Except Error Template :=
  match compiled : Layout.ofPattern pattern with
  | .ok layout => .ok ⟨pattern, layout, compiled⟩
  | .error fault => .error (.invalidPattern pattern fault)

theorem ext_pattern {t u : Template} (same : t.pattern = u.pattern) : t = u := by
  cases t with | mk p l h => cases u with | mk q k i =>
    subst same
    cases h.symm.trans i
    rfl

instance : DecidableEq Template := fun t u =>
  if same : t.pattern = u.pattern then .isTrue (ext_pattern same)
  else .isFalse fun equal => same (equal ▸ rfl)

/-- The diagnostic form of a template. -/
def inspect (t : Template) : String := "PathTemplate(" ++ Text.quoted t.pattern ++ ")"

/-- The parameters in order of declaration. -/
def names (t : Template) : List String := t.layout.names

/-- What a handler of matches may bind to. -/
def contract (t : Template) : Except Error Contract := Contract.ofNames t.names

/-- The binding of an address that the template matches. -/
def match? (t : Template) (container object : String) : Option Binding :=
  (t.layout.captures container object).map fun captures =>
    FoldedMap.ofList (t.names.zip (captures.map String.ofList))

end Template

end BlobDispatch
