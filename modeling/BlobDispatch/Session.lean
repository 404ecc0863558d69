import BlobDispatch.Host.Scanner
import BlobDispatch.Store.Operation

/-! Sessions: a store, a registry and the cursors that a client has put aside under labels. A
request is answered with a value, or refused with an error and no new state. -/

namespace BlobDispatch

structure Session where
  store : Store
  registry : Registry
  saved : NameTable Listing.Cursor

namespace Session

/-- The blob that a request is about: one of the store, or one made up without content, as an
event from elsewhere may name it. -/
inductive Source where
  | stored (container name : String)
  | event (container name : String) (metadata : Metadata)

inductive Request where
  | store (operation : Store.Operation)
  | list (query : Listing.Query) (cursor : Option Listing.Cursor) (use save : Option String)
  | newRegistry (settings : Host.Settings)
  | settings
  | register (name pattern : String) (inputs : List (String × String))
  | triggers
  | getTrigger (name : String)
  | isSystem (container : String)
  | prepare
  | dispatch (source : Source)
  | bind (trigger : String) (source : Source)
  | bindInputs (trigger : String) (source : Source)
  | resolvePath (trigger : String) (source : Source) (pattern : String)
  | resolveInput (trigger : String) (source : Source) (pattern : String)
  | scan (trigger : String) (pageSize : Option UInt64)
  | scanRegistry (pageSize : Option UInt64)

inductive Response where
  | store (reply : Store.Reply)
  | page (page : Listing.Page)
  | settings (settings : Host.Settings)
  | allSettings (store : Store.Config) (host : Host.Settings)
  | registered (count : Nat)
  | triggers (triggers : List Trigger)
  | trigger (trigger : Option Trigger)
  | flag (value : Bool)
  | created (count : Nat)
  | invocations (invocations : List Invocation)
  | invocation (invocation : Option Invocation)
  | statuses (statuses : Option (List Invocation.InputStatus))
  | address (address : Option Address)
  | blob (blob : Option Blob)
  | scanned (pageSize : UInt64) (invocations : List Invocation)

inductive Error where
  | store (error : Store.Error)
  | trigger (error : Trigger.Error)
  | noSuchTrigger

def new (config : Store.Config) (settings : Host.Settings) : Session :=
  ⟨.new config, .new settings, NameTable.empty⟩

def trigger (s : Session) (name : String) : Except Error Trigger :=
  match s.registry.get? name with
  | some trigger => .ok trigger
  | none => .error .noSuchTrigger

/-- The blob of a source. One that is made up has the tag and the length zero. -/
def blob (s : Session) : Source → Except Error Blob
  | .stored container name => (s.store.get container name).mapError .store
  | .event container name metadata =>
    .ok ⟨container, name, [], ⟨0, ⟨0⟩, .epoch⟩, metadata⟩

/-- The invocation of a trigger for the blob of a source, if the trigger applies to it. -/
def invocation (s : Session) (triggerName : String) (source : Source) :
    Except Error (Trigger × Option Invocation) := do
  let trigger ← s.trigger triggerName
  let blob ← s.blob source
  return (trigger, trigger.bind blob)

def scanner (s : Session) : Option UInt64 → Scanner
  | some size => .ofPageSize size
  | none => .ofSettings s.registry.settings

/-- The cursors after a page: its next cursor is put under the label, or the label is freed. -/
def saveNext (s : Session) (page : Listing.Page) : Option String → NameTable Listing.Cursor
  | none => s.saved
  | some label =>
    match page.next with
    | some cursor => s.saved.insert label cursor
    | none => s.saved.erase label

/-- One request: its answer and the session after it. -/
def apply (s : Session) : Request → Except Error (Response × Session)
  | .store operation => do
    let (reply, store) ← (s.store.apply operation).mapError .store
    return (.store reply, { s with store })
  | .list query cursor use save => do
    let cursor := cursor.or (use.bind s.saved.get?)
    let page ← (s.store.list query cursor).mapError .store
    return (.page page, { s with saved := s.saveNext page save })
  | .newRegistry settings =>
    return (.settings settings, { s with registry := .new settings })
  | .settings => return (.allSettings s.store.config s.registry.settings, s)
  | .register name pattern inputs => do
    let trigger ← (Trigger.compile name pattern).mapError .trigger
    let trigger ← (trigger.withInputs inputs).mapError .trigger
    let registry ← (s.registry.register trigger).mapError .trigger
    return (.registered registry.triggers.length, { s with registry })
  | .triggers => return (.triggers s.registry.triggers, s)
  | .getTrigger name => return (.trigger (s.registry.get? name), s)
  | .isSystem container => return (.flag (s.registry.isSystem container), s)
  | .prepare =>
    let (count, store) := s.registry.prepare s.store
    return (.created count, { s with store })
  | .dispatch source => do
    let blob ← s.blob source
    return (.invocations (s.registry.dispatch blob), s)
  | .bind trigger source => do
    let (_, invocation) ← s.invocation trigger source
    return (.invocation invocation, s)
  | .bindInputs trigger source => do
    let (trigger, invocation) ← s.invocation trigger source
    return (.statuses (invocation.map fun i => trigger.bindInputs i s.store), s)
  | .resolvePath trigger source pattern => do
    match (← s.invocation trigger source).2 with
    | none => return (.address none, s)
    | some i =>
      let address ← (i.resolvePath pattern).mapError .trigger
      return (.address (some address), s)
  | .resolveInput trigger source pattern => do
    match (← s.invocation trigger source).2 with
    | none => return (.blob none, s)
    | some i =>
      let blob ← (i.resolveInput s.store pattern).mapError .trigger
      return (.blob (some blob), s)
  | .scan trigger pageSize => do
    let trigger ← s.trigger trigger
    let scanner := s.scanner pageSize
    let found ← (scanner.scan s.store trigger).mapError .trigger
    return (.scanned scanner.pageSize found, s)
  | .scanRegistry pageSize => do
    let scanner := s.scanner pageSize
    let found ← (scanner.scanRegistry s.store s.registry).mapError .trigger
    return (.scanned scanner.pageSize found, s)

/-- One request in a run: a refused one gives its error and leaves the session. -/
def step (s : Session) (request : Request) : Except Error Response × Session :=
  match s.apply request with
  | .ok (response, next) => (.ok response, next)
  | .error error => (.error error, s)

/-- A run: the answer of every request in order, and the session at the end. -/
def run (s : Session) : List Request → List (Except Error Response) × Session
  | [] => ([], s)
  | request :: rest =>
    let (answer, next) := s.step request
    let (answers, last) := next.run rest
    (answer :: answers, last)

end Session

end BlobDispatch
