import BlobDispatch.Template.Token
import BlobDispatch.Text.Segments

/-! The layout of a pattern that can be matched: one component for the container and one for every
segment of the object name, each a run of literals and parameters. Faults of single tokens are
found before faults of the whole shape. -/

namespace BlobDispatch

inductive Piece where
  | literal (text : String)
  | parameter (name : String)
  deriving DecidableEq

/-- A run of pieces between two separators. -/
abbrev Component := List Piece

namespace Component

/-- The part of a pattern that a component is written as. -/
def spell (component : Component) : List Char :=
  component.flatMap fun
    | .literal text => text.toList
    | .parameter name => '\x7b' :: name.toList ++ ['\x7d']

/-- The parameters of a component in order. -/
def names (component : Component) : List String :=
  component.filterMap fun
    | .literal _ => none
    | .parameter name => some name

/-- The text that a component becomes when every parameter takes its value. -/
def fill (value : String → String) (component : Component) : List Char :=
  component.flatMap fun
    | .literal text => text.toList
    | .parameter name => (value name).toList

/-- The text before the first parameter, and whether there is no parameter at all. -/
def lead : Component → List Char × Bool
  | [] => ([], true)
  | .literal text :: rest => (text.toList ++ (lead rest).1, (lead rest).2)
  | .parameter _ :: _ => ([], false)

end Component

structure Layout where
  container : Component
  object : List Component
  deriving DecidableEq

namespace Layout

/-- The parameters in order, those of the container first. -/
def names (layout : Layout) : List String :=
  layout.container.names ++ layout.object.flatMap Component.names

/-- The container part of the pattern. -/
def containerPart (layout : Layout) : String := String.ofList layout.container.spell

/-- The object part of the pattern. -/
def objectPart (layout : Layout) : String :=
  String.ofList (['/'].intercalate (layout.object.map Component.spell))

/-- The text of an object part before its first parameter. -/
def leadOf : List Component → List Char
  | [] => []
  | [last] => last.lead.1
  | component :: rest =>
    if component.lead.2 then component.lead.1 ++ '/' :: leadOf rest else component.lead.1

/-- A text that every name of a fitting object begins with. -/
def objectLead (layout : Layout) : String := String.ofList (leadOf layout.object)

/-- The name of the container, when the pattern has no parameter there. -/
def fixedContainer? (layout : Layout) : Option String :=
  match layout.container with
  | [.literal name] => some name
  | _ => none

/-- Refuses tokens that cannot be matched: a metadata placeholder, a parameter right after
another, or one whose name, case aside, is among `seen` or came before. -/
def checkTokens (seen : List String) (afterParameter : Bool) :
    List Token → Except Template.Fault Unit
  | [] => .ok ()
  | .literal _ :: rest => checkTokens seen false rest
  | .parameter (.metadata text) :: _ => .error (.metadataNotAllowed text)
  | .parameter (.capture name) :: rest =>
    if afterParameter then .error (.adjacent name)
    else if Text.lower name ∈ seen then .error (.repeated name)
    else checkTokens (Text.lower name :: seen) true rest

/-- Puts a literal in front of a component, unless it is empty. -/
def consLiteral (text : List Char) (component : Component) : Component :=
  if text = [] then component else .literal (String.ofList text) :: component

/-- Puts the segments of a literal in front of components: the last one joins the component that
stands first. -/
def consSegments : List (List Char) → List Component → List Component
  | [], components => components
  | [last], component :: rest => consLiteral last component :: rest
  | segment :: more, components => consLiteral segment [] :: consSegments more components

/-- The components of tokens, cut at the separators in their literals. -/
def components : List Token → List Component
  | [] => [[]]
  | .literal text :: rest => consSegments (Text.segments '/' text.toList) (components rest)
  | .parameter placeholder :: rest =>
    match components rest with
    | [] => [[.parameter placeholder.name]]
    | component :: more => (.parameter placeholder.name :: component) :: more

/-- The layout of components, of which there must be two and none empty. -/
def ofComponents : List Component → Except Template.Fault Layout
  | container :: first :: more =>
    if [] ∈ container :: first :: more then .error .emptySegment
    else .ok ⟨container, first :: more⟩
  | _ => .error .tooFewSegments

/-- The layout of a pattern. -/
def ofPattern (pattern : String) : Except Template.Fault Layout := do
  let tokens ← Token.ofPattern pattern
  checkTokens [] false tokens
  ofComponents (components tokens)

end Layout

end BlobDispatch
