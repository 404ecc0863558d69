import BlobDispatch.Template.Basic

/-! Resolvers: patterns that a binding and metadata are substituted into to give an address.
Unlike in a template, a placeholder here may name metadata, occur twice or follow another one,
since nothing has to be read back from the result. -/

namespace BlobDispatch

structure Resolver where
  pattern : String
  tokens : List Token
  compiled : Token.ofPattern pattern = .ok tokens

namespace Resolver

/-- The resolver with a pattern. -/
def compile (pattern : String) : Except Template.Error Resolver :=
  match compiled : Token.ofPattern pattern with
  | .ok tokens => .ok ⟨pattern, tokens, compiled⟩
  | .error fault => .error (.invalidPattern pattern fault)

/-- The diagnostic form of a resolver. -/
def inspect (r : Resolver) : String := "TemplateResolver(" ++ Text.quoted r.pattern ++ ")"

def placeholders (r : Resolver) : List Placeholder := Token.placeholders r.tokens

/-- The text of tokens with every placeholder replaced by its value. The first placeholder
without a value stops it. -/
def substitute (binding : Binding) (metadata : Metadata) :
    List Token → Except Template.Error (List Char)
  | [] => .ok []
  | .literal text :: rest => (substitute binding metadata rest).map (text.toList ++ ·)
  | .parameter placeholder :: rest =>
    match placeholder.value? binding metadata with
    | none => .error (.unresolvedParameter placeholder.name)
    | some value => (substitute binding metadata rest).map (value.toList ++ ·)

/-- The address that a resolver gives for a binding and metadata. -/
def resolve (r : Resolver) (binding : Binding) (metadata : Metadata) :
    Except Template.Error Address :=
  match substitute binding metadata r.tokens with
  | .error error => .error error
  | .ok text =>
    match Address.parse (String.ofList text) with
    | .error error => .error (.invalidAddress error)
    | .ok address => .ok address

end Resolver

/-- Compiles a pattern and resolves it at once. -/
def resolvePattern (pattern : String) (binding : Binding) (metadata : Metadata) :
    Except Template.Error Address := do
  let resolver ← Resolver.compile pattern
  resolver.resolve binding metadata

end BlobDispatch
