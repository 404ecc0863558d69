import BlobDispatch.Store.Error
import BlobDispatch.Text.Segments

/-! Queries and cursors of listings. A query names what is listed; a cursor, given out with a page
that is not the last, carries the query it belongs to and the last key of that page, and continues
this query only. -/

namespace BlobDispatch.Listing

/-- Where blobs are looked for: in one container, or in the one that the prefix itself names. -/
inductive Scope where
  | account
  | container (name : String)
  deriving DecidableEq

structure Query where
  scope : Scope
  namePrefix : String
  flat : Bool
  maxResults : Option UInt64
  deriving DecidableEq

/-- What a query comes down to: a container and a prefix of blob names in it. -/
structure Target where
  container : String
  namePrefix : String
  deriving DecidableEq

namespace Query

/-- A flat listing of a container, with pages as long as the store allows. -/
def ofContainer (name : String) : Query := ⟨.container name, "", true, none⟩

/-- A flat listing of the blobs whose address begins with a text. -/
def ofAccount (addressPrefix : String) : Query := ⟨.account, addressPrefix, true, none⟩

def withPrefix (q : Query) (namePrefix : String) : Query := { q with namePrefix }

/-- The listing of one level, with deeper names folded into directories. -/
def hierarchical (q : Query) : Query := { q with flat := false }

def withMaxResults (q : Query) (limit : UInt64) : Query := { q with maxResults := some limit }

/-- The target of a query. In the account the prefix is cut at its first separator, and the part
before it must not be empty. -/
def target (q : Query) : Except Store.Error Target :=
  match q.scope with
  | .container name => .ok ⟨name, q.namePrefix⟩
  | .account =>
    let (container, namePrefix) :=
      match Text.cut? '/' q.namePrefix.toList with
      | some (container, rest) => (String.ofList container, String.ofList rest)
      | none => (q.namePrefix, "")
    if container = "" then .error (.invalidArgument .noContainerInPrefix)
    else .ok ⟨container, namePrefix⟩

end Query

structure Cursor where
  query : Query
  lastKey : String
  deriving DecidableEq

/-- Refuses a cursor of another query, and one whose key the query cannot have listed. -/
def Cursor.validate (cursor : Cursor) (query : Query) : Except Store.Error Unit :=
  if cursor.query ≠ query then .error (.invalidCursor .otherQuery)
  else match query.target with
    | .error error => .error error
    | .ok target =>
      if Text.startsWith target.namePrefix cursor.lastKey then .ok ()
      else .error (.invalidCursor (.outsidePrefix cursor.lastKey target.namePrefix))

end BlobDispatch.Listing
