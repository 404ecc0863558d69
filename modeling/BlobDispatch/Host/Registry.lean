import BlobDispatch.Trigger.Basic

/-! Registries: the triggers of a host in the order of their registration. Names differ by more
than ASCII case, and blobs in system containers fire nothing. -/

namespace BlobDispatch

structure Registry where
  settings : Host.Settings
  triggers : List Trigger

namespace Registry

def new (settings : Host.Settings) : Registry := ⟨settings, []⟩

/-- The trigger of a name in any ASCII case. -/
def get? (r : Registry) (name : String) : Option Trigger :=
  r.triggers.find? fun t => Text.sameAsciiFold t.name name

/-- Adds a trigger after the others. -/
def register (r : Registry) (t : Trigger) : Except Trigger.Error Registry :=
  match r.get? t.name with
  | some _ => .error (.duplicateTrigger t.name)
  | none => .ok { r with triggers := r.triggers ++ [t] }

/-- Compiles a trigger without inputs and adds it. -/
def registerPattern (r : Registry) (name pattern : String) : Except Trigger.Error Registry := do
  r.register (← Trigger.compile name pattern)

/-- Whether the host keeps a container for itself. -/
def isSystem (r : Registry) (container : String) : Bool :=
  r.settings.systemContainers.contains container

/-- The invocations for a blob, in order of registration. -/
def dispatch (r : Registry) (blob : Blob) : List Invocation :=
  if r.isSystem blob.container then [] else r.triggers.filterMap fun t => t.bind blob

/-- Creates containers in order, and counts those that were new. -/
def createAll (store : Store) : List String → Nat × Store
  | [] => (0, store)
  | name :: rest =>
    let (new, next) := store.createContainer name
    let (count, last) := createAll next rest
    ((if new then 1 else 0) + count, last)

/-- Creates the system containers, and counts those that were new. -/
def prepare (r : Registry) (store : Store) : Nat × Store :=
  createAll store r.settings.systemContainers

end Registry

end BlobDispatch
