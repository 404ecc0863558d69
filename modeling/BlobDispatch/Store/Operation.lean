import BlobDispatch.Store.Drain

/-! Operations on a store as data, so that a run is a list and can be counted, filtered and
compared. A step either answers and gives the next state, or is refused and gives none. -/

namespace BlobDispatch.Store

inductive Operation where
  | createContainer (name : String)
  | deleteContainer (name : String)
  | containerExists (name : String)
  | containerNames
  | containerMetadata (name : String)
  | setContainerMetadata (name : String) (metadata : Metadata)
  | put (container name : String) (content : List UInt8) (metadata : Option Metadata)
      (now : Timestamp)
  | get (container name : String)
  | delete (container name : String)
  | setMetadata (container name : String) (metadata : Metadata)
  | list (query : Listing.Query) (cursor : Option Listing.Cursor)
  | pages (query : Listing.Query)
  | listAll (query : Listing.Query)
  | service
  | setService (properties : ServiceProperties)
  | blobCount (container : String)
  | size
  | inspect

/-- Answers of operations, by the kind of value they hold. -/
inductive Reply where
  | done
  | flag (value : Bool)
  | count (value : Option Nat)
  | names (value : List String)
  | metadata (value : Metadata)
  | blob (value : Blob)
  | blobs (value : List Blob)
  | page (value : Listing.Page)
  | pages (value : List Listing.Page)
  | service (value : ServiceProperties)
  | text (value : String)

/-- One operation: its answer and the state after it. -/
def apply (s : Store) : Operation → Except Error (Reply × Store)
  | .createContainer name => .ok (.flag (s.createContainer name).1, (s.createContainer name).2)
  | .deleteContainer name => .ok (.flag (s.deleteContainer name).1, (s.deleteContainer name).2)
  | .containerExists name => .ok (.flag (s.containerExists name), s)
  | .containerNames => .ok (.names s.containerNames, s)
  | .containerMetadata name => (s.containerMetadata name).map fun m => (.metadata m, s)
  | .setContainerMetadata name metadata =>
    (s.setContainerMetadata name metadata).map fun next => (.done, next)
  | .put container name content metadata now =>
    (s.put container name content metadata now).map fun (blob, next) => (.blob blob, next)
  | .get container name => (s.get container name).map fun blob => (.blob blob, s)
  | .delete container name =>
    (s.delete container name).map fun (existed, next) => (.flag existed, next)
  | .setMetadata container name metadata =>
    (s.setMetadata container name metadata).map fun next => (.done, next)
  | .list query cursor => (s.list query cursor).map fun page => (.page page, s)
  | .pages query => (s.pages query).map fun pages => (.pages pages, s)
  | .listAll query => (s.listAll query).map fun blobs => (.blobs blobs, s)
  | .service => .ok (.service s.service, s)
  | .setService properties => .ok (.done, s.setService properties)
  | .blobCount container => .ok (.count (s.blobCount? container), s)
  | .size => .ok (.count (some s.size), s)
  | .inspect => .ok (.text s.inspect, s)

/-- One operation in a run: a refused one gives its error and leaves the state. -/
def step (s : Store) (operation : Operation) : Except Error Reply × Store :=
  match s.apply operation with
  | .ok (reply, next) => (.ok reply, next)
  | .error error => (.error error, s)

/-- A run: the answer of every operation in order, and the state at the end. -/
def run (s : Store) : List Operation → List (Except Error Reply) × Store
  | [] => ([], s)
  | operation :: rest =>
    let (answer, next) := s.step operation
    let (answers, last) := next.run rest
    (answer :: answers, last)

/-- The states that some run leads to from a new store. -/
def Reachable (s : Store) : Prop :=
  ∃ config operations, ((Store.new config).run operations).2 = s

end BlobDispatch.Store
