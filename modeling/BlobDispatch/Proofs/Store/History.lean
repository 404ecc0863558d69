import BlobDispatch.Store.Operation

/-! What the operations of a run and their answers say about a store, without the store. A history
lists them from the latest to the first, and every question about a place is answered by the latest
event that settles it: a container stands if the last event that created or deleted it created it,
and a blob is what the last write left there, unless a deletion came after it. -/

namespace BlobDispatch.Store

structure Event where
  operation : Operation
  answer : Except Error Reply

/-- What a write leaves besides metadata: the content, the tag in its answer, and its time. -/
structure Write where
  content : List UInt8
  tag : Tag
  now : Timestamp

def Write.blob (w : Write) (container name : String) (metadata : Metadata) : Blob :=
  { container
    name
    content := w.content
    properties := ⟨UInt64.ofNat w.content.length, w.tag, w.now⟩
    metadata }

namespace Event

/-- Whether the container stands from this event on, if the event creates or deletes it. An
operation that answers that it changed nothing does not count. -/
def standing? (e : Event) (container : String) : Option Bool :=
  match e with
  | ⟨.createContainer name, .ok (.flag true)⟩ => if name = container then some true else none
  | ⟨.deleteContainer name, .ok (.flag true)⟩ => if name = container then some false else none
  | _ => none

def described? (e : Event) (container : String) : Option Metadata :=
  match e with
  | ⟨.setContainerMetadata name metadata, .ok _⟩ => if name = container then some metadata else none
  | _ => none

/-- Whether the event is a deletion of the blob or of its container, in effect or not. -/
def clears (e : Event) (container name : String) : Bool :=
  match e with
  | ⟨.deleteContainer c, _⟩ => decide (c = container)
  | ⟨.delete c n, _⟩ => decide (c = container ∧ n = name)
  | _ => false

def write? (e : Event) (container name : String) : Option Write :=
  match e with
  | ⟨.put c n content _ now, .ok (.blob blob)⟩ =>
    if c = container ∧ n = name then some ⟨content, blob.tag, now⟩ else none
  | _ => none

/-- The metadata that the event gives to the blob, with a write or without. -/
def labelled? (e : Event) (container name : String) : Option Metadata :=
  match e with
  | ⟨.put c n _ (some metadata) _, .ok _⟩ =>
    if c = container ∧ n = name then some metadata else none
  | ⟨.setMetadata c n metadata, .ok _⟩ =>
    if c = container ∧ n = name then some metadata else none
  | _ => none

def service? (e : Event) : Option ServiceProperties :=
  match e with
  | ⟨.setService properties, .ok _⟩ => some properties
  | _ => none

end Event

abbrev History := List Event

namespace History

def stands (h : History) (container : String) : Bool :=
  (h.findSome? (·.standing? container)).getD false

def sinceCreated (h : History) (container : String) : History :=
  h.takeWhile fun e => (e.standing? container).isNone

/-- The metadata of a container that stands. -/
def metadata? (h : History) (container : String) : Option Metadata :=
  if h.stands container then
    some (((h.sinceCreated container).findSome? (·.described? container)).getD FoldedMap.empty)
  else none

def sinceCleared (h : History) (container name : String) : History :=
  h.takeWhile fun e => !e.clears container name

def lastWrite? (h : History) (container name : String) : Option Write :=
  (h.sinceCleared container name).findSome? (·.write? container name)

def lastLabel? (h : History) (container name : String) : Option Metadata :=
  (h.sinceCleared container name).findSome? (·.labelled? container name)

/-- The blob that the last write left, with the last metadata that it was given. -/
def blob? (h : History) (container name : String) : Option Blob :=
  (h.lastWrite? container name).map fun w =>
    w.blob container name ((h.lastLabel? container name).getD FoldedMap.empty)

def service (h : History) : ServiceProperties := (h.findSome? Event.service?).getD {}

end History

def after (config : Config) (operations : List Operation) : Store :=
  ((new config).run operations).2

def history (config : Config) (operations : List Operation) : History :=
  (List.zipWith Event.mk operations ((new config).run operations).1).reverse

namespace Event

def onMetadata (e : Event) (container : String) (before : Option Metadata) : Option Metadata :=
  match e.standing? container with
  | some true => some FoldedMap.empty
  | some false => none
  | none => before.map fun metadata => (e.described? container).getD metadata

def onBlob (e : Event) (container name : String) (before : Option Blob) : Option Blob :=
  if e.clears container name then none
  else match e.write? container name with
    | some w => some (w.blob container name ((e.labelled? container name).getD
        ((before.map (·.metadata)).getD FoldedMap.empty)))
    | none => before.map fun blob =>
        { blob with metadata := (e.labelled? container name).getD blob.metadata }

variable {e : Event} {container name : String}

theorem onMetadata_elsewhere (standing : e.standing? container = none)
    (described : e.described? container = none) (before : Option Metadata) :
    e.onMetadata container before = before := by
  simp [onMetadata, standing, described]

theorem onBlob_elsewhere (kept : e.clears container name = false)
    (write : e.write? container name = none) (labelled : e.labelled? container name = none)
    (before : Option Blob) : e.onBlob container name before = before := by
  simp [onBlob, kept, write, labelled]

end Event

namespace History

variable (e : Event) (h : History) (container name : String)

theorem stands_cons : stands (e :: h) container =
    (e.standing? container).getD (h.stands container) := by
  rw [stands, List.findSome?_cons]
  cases e.standing? container <;> rfl

theorem metadata?_cons : metadata? (e :: h) container =
    e.onMetadata container (h.metadata? container) := by
  unfold metadata? sinceCreated Event.onMetadata
  rw [stands_cons, List.takeWhile_cons]
  cases standing : e.standing? container with
  | some stands => cases stands <;> rfl
  | none =>
    rw [Option.getD_none]
    cases h.stands container with
    | false => rfl
    | true => cases described : e.described? container <;> simp [described]

private theorem findSome?_sinceCleared_cons {α : Type} (f : Event → Option α) :
    (sinceCleared (e :: h) container name).findSome? f =
      if e.clears container name then none
      else (f e).or ((h.sinceCleared container name).findSome? f) := by
  rw [sinceCleared, List.takeWhile_cons]
  cases e.clears container name with
  | true => rfl
  | false => cases found : f e <;> simp [sinceCleared, found]

theorem lastWrite?_cons : lastWrite? (e :: h) container name =
    if e.clears container name then none
    else (e.write? container name).or (h.lastWrite? container name) :=
  findSome?_sinceCleared_cons e h container name _

theorem lastLabel?_cons : lastLabel? (e :: h) container name =
    if e.clears container name then none
    else (e.labelled? container name).or (h.lastLabel? container name) :=
  findSome?_sinceCleared_cons e h container name _

theorem service_cons : service (e :: h) = e.service?.getD h.service := by
  unfold service
  rw [List.findSome?_cons]
  cases e.service? <;> rfl

variable {e h container name}

/-- A blob without a write has no metadata either, so a write alone tells what it finds. -/
theorem blob?_cons (unwritten : h.lastWrite? container name = none →
    h.lastLabel? container name = none) : blob? (e :: h) container name =
      e.onBlob container name (h.blob? container name) := by
  unfold blob? Event.onBlob
  rw [lastWrite?_cons, lastLabel?_cons]
  cases e.clears container name with
  | true => rfl
  | false =>
    cases written : e.write? container name with
    | none =>
      cases before : h.lastWrite? container name with
      | none => rfl
      | some w => cases e.labelled? container name <;> rfl
    | some w =>
      cases before : h.lastWrite? container name with
      | none => cases e.labelled? container name <;> simp [unwritten before]
      | some earlier => cases e.labelled? container name <;> rfl

end History

end BlobDispatch.Store
