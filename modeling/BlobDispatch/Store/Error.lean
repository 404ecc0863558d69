import BlobDispatch.Text.Quoted

/-! Why a store refuses an operation. A refused operation changes nothing. -/

namespace BlobDispatch.Store

/-- Why a cursor does not continue a query. -/
inductive CursorFault where
  | otherQuery
  | outsidePrefix (key namePrefix : String)
  deriving DecidableEq

def CursorFault.message : CursorFault → String
  | .otherQuery => "cursor was issued for a different query"
  | .outsidePrefix key namePrefix =>
    "cursor key " ++ Text.quoted key ++ " is outside prefix " ++ Text.quoted namePrefix

/-- Why an argument is refused before the state is looked at. -/
inductive ArgumentFault where
  | emptyBlobName
  | noResults
  | tooManyResults (asked limit : UInt64)
  | noContainerInPrefix
  deriving DecidableEq

def ArgumentFault.message : ArgumentFault → String
  | .emptyBlobName => "blob name must not be empty"
  | .noResults => "max_results must be at least 1"
  | .tooManyResults asked limit =>
    "max_results " ++ toString asked.toNat ++ " exceeds the limit of " ++ toString limit.toNat
  | .noContainerInPrefix => "account-level listing requires a container name in the prefix"

inductive Error where
  | containerNotFound (name : String)
  | blobNotFound (container name : String)
  | invalidCursor (fault : CursorFault)
  | invalidArgument (fault : ArgumentFault)
  deriving DecidableEq

def Error.message : Error → String
  | .containerNotFound name => "container not found: " ++ name
  | .blobNotFound container name => "blob not found: " ++ container ++ "/" ++ name
  | .invalidCursor fault => "invalid continuation token: " ++ fault.message
  | .invalidArgument fault => "invalid argument: " ++ fault.message

end BlobDispatch.Store
