import BlobDispatch.Host.Registry
import BlobDispatch.Store.Drain

/-! Scanning the blobs that are stored already. Listings are narrowed to the container that a
template fixes and to the text that every matching name begins with. -/

namespace BlobDispatch

structure Scanner where
  pageSize : UInt64
  systemContainers : List String

namespace Scanner

/-- A scanner with pages of a size, or of one blob where that is zero, and the default system
containers. -/
def ofPageSize (size : UInt64) : Scanner :=
  ⟨max size 1, ({} : Host.Settings).systemContainers⟩

/-- The scanner that settings ask for. -/
def ofSettings (settings : Host.Settings) : Scanner :=
  ⟨max settings.scanPageSize 1, settings.systemContainers⟩

/-- The containers to look into for a trigger. -/
def containers (scanner : Scanner) (store : Store) (trigger : Trigger) : List String :=
  let candidates := match trigger.template.layout.fixedContainer? with
    | some name => [name]
    | none => store.containerNames
  candidates.filter fun name => !scanner.systemContainers.contains name

/-- The listing to look through in a container. -/
def query (scanner : Scanner) (trigger : Trigger) (container : String) : Listing.Query :=
  ((Listing.Query.ofContainer container).withPrefix
    trigger.template.layout.objectLead).withMaxResults scanner.pageSize

/-- The invocations for the blobs of one container. One that does not exist has none. -/
def scanContainer (scanner : Scanner) (store : Store) (trigger : Trigger) (container : String) :
    Except Trigger.Error (List Invocation) :=
  match store.pages (scanner.query trigger container) with
  | .ok pages => .ok ((pages.flatMap Listing.Page.blobs).filterMap fun blob => trigger.bind blob)
  | .error (.containerNotFound _) => .ok []
  | .error error => .error (.store error)

/-- The invocations of a trigger for all blobs it applies to, by container and then by name. -/
def scan (scanner : Scanner) (store : Store) (trigger : Trigger) :
    Except Trigger.Error (List Invocation) := do
  let found ← (scanner.containers store trigger).mapM (scanner.scanContainer store trigger)
  return found.flatten

/-- The invocations of every trigger in order, without blobs in the registry's own system
containers. -/
def scanRegistry (scanner : Scanner) (store : Store) (registry : Registry) :
    Except Trigger.Error (List Invocation) := do
  let found ← registry.triggers.mapM (scanner.scan store)
  return found.flatten.filter fun invocation => !registry.isSystem invocation.blob.container

end Scanner

end BlobDispatch
