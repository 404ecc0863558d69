import BlobDispatch.Blob
import BlobDispatch.Text.Line

/-! The outcome of binding one input, with a status for a log or a dashboard. The message of a
failure is put on one line there. -/

namespace BlobDispatch.Invocation

inductive Outcome where
  | bound (blob : Blob)
  | failed (message : String)

structure InputStatus where
  parameter : String
  outcome : Outcome

namespace InputStatus

def isError (s : InputStatus) : Bool :=
  match s.outcome with
  | .bound _ => false
  | .failed _ => true

/-- The blob of an input that was bound. -/
def blob? (s : InputStatus) : Option Blob :=
  match s.outcome with
  | .bound blob => some blob
  | .failed _ => none

/-- The status text: the address of the blob, or the message with its line breaks replaced. -/
def text (s : InputStatus) : String :=
  match s.outcome with
  | .bound blob => "Bound to " ++ blob.container ++ "/" ++ blob.name
  | .failed message => Text.oneLine message

/-- The status text after the name of its parameter. -/
def display (s : InputStatus) : String := s.parameter ++ ": " ++ s.text

end InputStatus

end BlobDispatch.Invocation
