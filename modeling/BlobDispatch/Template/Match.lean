import BlobDispatch.Template.Layout

/-! Matching texts against components. A parameter takes the shortest non-empty text after which
the rest of its component still fits, and the search goes back to a longer one where the rest does
not fit. -/

namespace BlobDispatch

/-- The shortest non-empty beginning of a text whose remainder `fits`, with what `fits` gives. -/
def shortestSplit {β : Type} (fits : List Char → Option β) :
    List Char → Option (List Char × β)
  | [] => none
  | c :: rest =>
    match fits rest with
    | some found => some ([c], found)
    | none => (shortestSplit fits rest).map fun (taken, found) => (c :: taken, found)

/-- The texts that the parameters of a component take in a text, in order. -/
def Component.captures : Component → List Char → Option (List (List Char))
  | [], text => if text = [] then some [] else none
  | .literal lead :: rest, text => (Text.stripLead? lead.toList text).bind (captures rest)
  | .parameter _ :: rest, text =>
    (shortestSplit (captures rest) text).map fun (taken, others) => taken :: others

/-- The captures of components in as many texts, in order. -/
def captureAll : List Component → List (List Char) → Option (List (List Char))
  | [], [] => some []
  | component :: components, text :: texts => do
    let first ← component.captures text
    let others ← captureAll components texts
    return first ++ others
  | _, _ => none

/-- The captures of a layout in an address. No container without text or with a separator in its
name fits, whatever the layout. -/
def Layout.captures (layout : Layout) (container object : String) : Option (List (List Char)) :=
  if container = "" ∨ '/' ∈ container.toList then none
  else captureAll (layout.container :: layout.object)
    (container.toList :: Text.segments '/' object.toList)

end BlobDispatch
