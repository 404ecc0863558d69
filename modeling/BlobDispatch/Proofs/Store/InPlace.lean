import BlobDispatch.Proofs.InPlace
import BlobDispatch.Store.Operation

/-! The operations of a store as programs on one state that they overwrite. A write looks up what it
changes, checks, takes the tag that it writes under, and only then changes an entry. Every check
comes before the first change, so each program does what the operation does as a function. -/

namespace BlobDispatch.Store

open InPlace Listing

namespace Program

def createContainer (name : String) : InPlace Store Error Bool := do
  if (← current).containerExists name then return false
  else
    update fun s => { s with containers := s.containers.insert name Container.empty }
    return true

def deleteContainer (name : String) : InPlace Store Error Bool := do
  let existed := (← current).containerExists name
  update fun s => { s with containers := s.containers.erase name }
  return existed

def entry (name : String) : InPlace Store Error Container := ask fun s => s.container name

def overwrite (name : String) (held : Container) : InPlace Store Error Unit :=
  update fun s => { s with containers := s.containers.insert name held }

def setContainerMetadata (name : String) (metadata : Metadata) : InPlace Store Error Unit := do
  let held ← entry name
  overwrite name { held with metadata }

def put (container name : String) (content : List UInt8) (metadata : Option Metadata)
    (now : Timestamp) : InPlace Store Error Blob :=
  if name = "" then throw (.invalidArgument .emptyBlobName)
  else do
    let held ← entry container
    let kept := ((held.blobs.get? name).map (·.metadata)).getD FoldedMap.empty
    -- The tag is taken here: nothing after this line may be refused.
    update fun s => { s with lastTag := s.lastTag.next }
    let tag := (← current).lastTag
    let blob : Blob :=
      { container
        name
        content
        properties := ⟨UInt64.ofNat content.length, tag, now⟩
        metadata := metadata.getD kept }
    overwrite container { held with blobs := held.blobs.insert name blob }
    return blob

def delete (container name : String) : InPlace Store Error Bool := do
  let held ← entry container
  overwrite container { held with blobs := held.blobs.erase name }
  return held.blobs.contains name

def setMetadata (container name : String) (metadata : Metadata) : InPlace Store Error Unit := do
  let held ← entry container
  match held.blobs.get? name with
  | none => throw (.blobNotFound container name)
  | some blob =>
    overwrite container { held with blobs := held.blobs.insert name { blob with metadata } }

/-- Every page is asked of the state as it is by then. -/
def pagesFrom (query : Query) : (limit : Nat) → Option Cursor → InPlace Store Error (List Page)
  | 0, _ => return []
  | limit + 1, cursor => do
    let page ← ask fun s => s.list query cursor
    match page.next with
    | none => return [page]
    | some next => return page :: (← pagesFrom query limit (some next))

def pages (query : Query) : InPlace Store Error (List Page) := do
  pagesFrom query ((← current).size + 1) none

def listAll (query : Query) : InPlace Store Error (List Blob) :=
  return (← pages query).flatMap Page.blobs

end Program

/-- An operation carried out on a state in place. -/
def Operation.perform : Operation → InPlace Store Error Reply
  | .createContainer name => return .flag (← Program.createContainer name)
  | .deleteContainer name => return .flag (← Program.deleteContainer name)
  | .containerExists name => return .flag ((← current).containerExists name)
  | .containerNames => return .names (← current).containerNames
  | .containerMetadata name => return .metadata (← ask fun s => s.containerMetadata name)
  | .setContainerMetadata name metadata => do
    Program.setContainerMetadata name metadata
    return .done
  | .put container name content metadata now =>
    return .blob (← Program.put container name content metadata now)
  | .get container name => return .blob (← ask fun s => s.get container name)
  | .delete container name => return .flag (← Program.delete container name)
  | .setMetadata container name metadata => do
    Program.setMetadata container name metadata
    return .done
  | .list query cursor => return .page (← ask fun s => s.list query cursor)
  | .pages query => return .pages (← Program.pages query)
  | .listAll query => return .blobs (← Program.listAll query)
  | .service => return .service (← current).service
  | .setService properties => do
    update fun s => s.setService properties
    return .done
  | .blobCount container => return .count ((← current).blobCount? container)
  | .size => return .count (some (← current).size)
  | .inspect => return .text (← current).inspect

section Commits

theorem asks_entry (name : String) : Asks (Program.entry name) fun s => s.container name :=
  asks_ask _

theorem commits_createContainer (name : String) :
    Commits (Program.createContainer name) fun s => .ok (s.createContainer name) := by
  intro s
  change exec (if s.containerExists name then pure false else _) s = _
  unfold Store.createContainer
  dsimp only
  cases s.containerExists name <;> rfl

theorem commits_setContainerMetadata (name : String) (metadata : Metadata) :
    Commits (Program.setContainerMetadata name metadata)
      fun s => (s.setContainerMetadata name metadata).map ((), ·) := by
  intro s
  rw [Program.setContainerMetadata, exec_bind, asks_entry]
  dsimp only [Store.setContainerMetadata]
  cases s.container name <;> rfl

theorem commits_put (container name : String) (content : List UInt8) (metadata : Option Metadata)
    (now : Timestamp) : Commits (Program.put container name content metadata now)
      fun s => s.put container name content metadata now := by
  intro s
  dsimp only [Program.put, Store.put]
  by_cases empty : name = ""
  · rw [if_pos empty, if_pos empty]
    rfl
  · rw [if_neg empty, if_neg empty, exec_bind, asks_entry]
    dsimp only
    cases s.container container <;> rfl

theorem commits_delete (container name : String) :
    Commits (Program.delete container name) fun s => s.delete container name := by
  intro s
  rw [Program.delete, exec_bind, asks_entry]
  dsimp only [Store.delete]
  cases s.container container <;> rfl

theorem commits_setMetadata (container name : String) (metadata : Metadata) :
    Commits (Program.setMetadata container name metadata)
      fun s => (s.setMetadata container name metadata).map ((), ·) := by
  intro s
  rw [Program.setMetadata, exec_bind, asks_entry]
  dsimp only [Store.setMetadata, Store.get]
  cases s.container container with
  | error error => rfl
  | ok held =>
    dsimp only [bind, Except.bind]
    cases held.blobs.get? name <;> rfl

theorem asks_pagesFrom (query : Query) (limit : Nat) (cursor : Option Cursor) :
    Asks (Program.pagesFrom query limit cursor) fun s => s.pagesFrom query limit cursor := by
  induction limit generalizing cursor with
  | zero => exact fun s => rfl
  | succ limit ih =>
    refine (asks_ask _).bind fun page => ?_
    cases page.next with
    | none => exact fun s => rfl
    | some next => exact (ih (some next)).bind fun rest s => rfl

theorem asks_pages (query : Query) : Asks (Program.pages query) fun s => s.pages query :=
  fun s => asks_pagesFrom query (s.size + 1) none s

theorem asks_listAll (query : Query) : Asks (Program.listAll query) fun s => s.listAll query :=
  (asks_pages query).map _

theorem commits_perform (operation : Operation) :
    Commits operation.perform fun s => s.apply operation := by
  cases operation with
  | createContainer name => exact (commits_createContainer name).replies _
  | setContainerMetadata name metadata =>
    exact (commits_setContainerMetadata name metadata).acknowledges _
  | put container name content metadata now =>
    exact (commits_put container name content metadata now).replies _
  | delete container name => exact (commits_delete container name).replies _
  | setMetadata container name metadata =>
    exact (commits_setMetadata container name metadata).acknowledges _
  | containerMetadata _ | get _ _ | list _ _ => exact (asks_ask _).replies _
  | pages query => exact (asks_pages query).replies _
  | listAll query => exact (asks_listAll query).replies _
  | deleteContainer _ | setService _ | containerExists _ | containerNames | service
  | blobCount _ | size | inspect => exact fun s => rfl

end Commits

end BlobDispatch.Store
