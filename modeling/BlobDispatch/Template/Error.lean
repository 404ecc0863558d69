import BlobDispatch.Address
import BlobDispatch.Text.Quoted

/-! What can go wrong with a pattern, and with a pattern that is resolved. A blob that a template
does not match is no error and has no constructor here. -/

namespace BlobDispatch.Template

/-- Why a text is not a pattern, or not one that can be matched. -/
inductive Fault where
  | nestedBrace
  | unclosedBrace
  | unopenedBrace
  | emptyName
  | badFirst (name : String)
  | badCharacter (name : String) (found : Char)
  | metadataNotAllowed (text : String)
  | adjacent (name : String)
  | repeated (name : String)
  | tooFewSegments
  | emptySegment
  deriving DecidableEq

def Fault.message : Fault → String
  | .nestedBrace => "nested '\x7b' in placeholder"
  | .unclosedBrace => "unbalanced '\x7b': missing '\x7d'"
  | .unopenedBrace => "unbalanced '\x7d': missing '\x7b'"
  | .emptyName => "placeholder name must not be empty"
  | .badFirst name => "placeholder " ++ Text.quoted name ++ " must start with a letter or '_'"
  | .badCharacter name found =>
    "placeholder " ++ Text.quoted name ++ " contains forbidden character " ++ Text.quotedChar found
  | .metadataNotAllowed text =>
    "'" ++ text ++ "' is only allowed in resolution templates, not in trigger paths"
  | .adjacent name => "parameter '" ++ name ++ "' directly follows another parameter"
  | .repeated name => "parameter '" ++ name ++ "' is declared more than once"
  | .tooFewSegments => "path must be in the form 'container/blob'"
  | .emptySegment => "path segments must not be empty"

inductive Error where
  | invalidPattern (pattern : String) (fault : Fault)
  | duplicateParameter (name : String)
  | unresolvedParameter (name : String)
  | invalidAddress (error : Address.Error)
  deriving DecidableEq

def Error.message : Error → String
  | .invalidPattern pattern fault =>
    "invalid pattern " ++ Text.quoted pattern ++ ": " ++ fault.message
  | .duplicateParameter name => "duplicate binding parameter: " ++ name
  | .unresolvedParameter name => "no value for named parameter '" ++ name ++ "'"
  | .invalidAddress error => error.message

end BlobDispatch.Template
