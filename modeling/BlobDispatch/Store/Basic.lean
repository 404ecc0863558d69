import BlobDispatch.Listing.Page
import BlobDispatch.NameTable
import BlobDispatch.ServiceProperties

/-! A store of blobs in containers. Every operation is a function of the state; one that can be
refused gives an error and no state, so a refused operation leaves the state as it was. Tags come
from one count of the writes to the whole store. -/

namespace BlobDispatch

/-- The longest page that a listing may ask for, and gets when it asks for none. -/
structure Store.Config where
  maxPageSize : UInt64 := 5000
  deriving DecidableEq

structure Container where
  metadata : Metadata
  blobs : NameTable Blob

def Container.empty : Container := ⟨FoldedMap.empty, NameTable.empty⟩

structure Store where
  config : Store.Config
  containers : NameTable Container
  lastTag : Tag
  service : ServiceProperties

namespace Store

/-- A store without containers. -/
def new (config : Config) : Store := ⟨config, NameTable.empty, ⟨0⟩, {}⟩

def container (s : Store) (name : String) : Except Error Container :=
  match s.containers.get? name with
  | some container => .ok container
  | none => .error (.containerNotFound name)

def containerExists (s : Store) (name : String) : Bool := s.containers.contains name

def containerNames (s : Store) : List String := s.containers.names

/-- Creates a container unless it exists, and tells whether it did not. -/
def createContainer (s : Store) (name : String) : Bool × Store :=
  if s.containerExists name then (false, s)
  else (true, { s with containers := s.containers.insert name Container.empty })

/-- Deletes a container with its blobs, and tells whether there was one. -/
def deleteContainer (s : Store) (name : String) : Bool × Store :=
  (s.containerExists name, { s with containers := s.containers.erase name })

def containerMetadata (s : Store) (name : String) : Except Error Metadata :=
  (s.container name).map (·.metadata)

def setContainerMetadata (s : Store) (name : String) (metadata : Metadata) :
    Except Error Store := do
  let container ← s.container name
  return { s with containers := s.containers.insert name { container with metadata } }

/-- Writes a blob under the next tag. Without metadata of its own it keeps that of the blob it
replaces. -/
def put (s : Store) (containerName name : String) (content : List UInt8)
    (metadata : Option Metadata) (now : Timestamp) : Except Error (Blob × Store) :=
  if name = "" then .error (.invalidArgument .emptyBlobName)
  else do
    let container ← s.container containerName
    let kept := ((container.blobs.get? name).map (·.metadata)).getD FoldedMap.empty
    let tag := s.lastTag.next
    let blob : Blob :=
      { container := containerName
        name
        content
        properties := ⟨UInt64.ofNat content.length, tag, now⟩
        metadata := metadata.getD kept }
    let blobs := container.blobs.insert name blob
    return (blob, { s with
      lastTag := tag
      containers := s.containers.insert containerName { container with blobs } })

def get (s : Store) (containerName name : String) : Except Error Blob := do
  let container ← s.container containerName
  match container.blobs.get? name with
  | some blob => .ok blob
  | none => .error (.blobNotFound containerName name)

/-- Deletes a blob, and tells whether there was one. -/
def delete (s : Store) (containerName name : String) : Except Error (Bool × Store) := do
  let container ← s.container containerName
  let blobs := container.blobs.erase name
  return (container.blobs.contains name,
    { s with containers := s.containers.insert containerName { container with blobs } })

/-- Replaces the metadata of a blob and leaves the rest of it, its tag included. -/
def setMetadata (s : Store) (containerName name : String) (metadata : Metadata) :
    Except Error Store := do
  let container ← s.container containerName
  let blob ← s.get containerName name
  let blobs := container.blobs.insert name { blob with metadata }
  return { s with containers := s.containers.insert containerName { container with blobs } }

def setService (s : Store) (service : ServiceProperties) : Store := { s with service }

/-- The number of blobs in a container that exists. -/
def blobCount? (s : Store) (name : String) : Option Nat :=
  (s.containers.get? name).map (·.blobs.size)

/-- The number of blobs in all containers. -/
def size (s : Store) : Nat :=
  s.containers.values.foldl (fun total container => total + container.blobs.size) 0

/-- The diagnostic form of a store: its two counts. -/
def inspect (s : Store) : String :=
  "InMemoryBlobStore \x7b container_count: " ++ toString s.containers.size ++
    ", object_count: " ++ toString s.size ++ " \x7d"

/-- The length of the pages of a query. -/
def pageSize (s : Store) (query : Listing.Query) : Except Error UInt64 :=
  match query.maxResults with
  | none => .ok s.config.maxPageSize
  | some asked =>
    if asked = 0 then .error (.invalidArgument .noResults)
    else if s.config.maxPageSize < asked then
      .error (.invalidArgument (.tooManyResults asked s.config.maxPageSize))
    else .ok asked

/-- The first page of a query, or the one that a cursor continues with. -/
def list (s : Store) (query : Listing.Query) (cursor : Option Listing.Cursor) :
    Except Error Listing.Page := do
  let size ← s.pageSize query
  let target ← query.target
  match cursor with
  | none => pure ()
  | some c => c.validate query
  let container ← s.container target.container
  let blobs := match cursor with
    | none => container.blobs.atLeast target.namePrefix
    | some c => container.blobs.above c.lastKey
  return Listing.page query target
    (blobs.takeWhile fun blob => Text.startsWith target.namePrefix blob.name)
    (cursor.map (·.lastKey)) size.toNat

end Store

end BlobDispatch
