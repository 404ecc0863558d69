import BlobDispatch.Store.Basic
import BlobDispatch.Template.Resolver
import BlobDispatch.Trigger.Error

/-! Invocations: a blob that a trigger applies to, with the values captured from its address. The
values and the metadata of the blob resolve the patterns of further addresses. -/

namespace BlobDispatch

structure Invocation where
  trigger : String
  blob : Blob
  binding : Binding

namespace Invocation

/-- Every value that a handler may bind by name: the captures, and the metadata of the blob under
keys that begin with the marker. -/
def values (i : Invocation) : CaseMap String :=
  i.blob.metadata.entries.foldl
    (fun values entry => values.insert (Placeholder.marker ++ entry.1) entry.2)
    (FoldedMap.ofList i.binding.entries)

/-- The address that a resolver gives. -/
def resolve (i : Invocation) (resolver : Resolver) : Except Trigger.Error Address :=
  (resolver.resolve i.binding i.blob.metadata).mapError .template

/-- The blob at the address that a resolver gives. -/
def fetch (i : Invocation) (store : Store) (resolver : Resolver) : Except Trigger.Error Blob := do
  let address ← i.resolve resolver
  (store.get address.container address.name).mapError .store

/-- The address that a pattern gives. -/
def resolvePath (i : Invocation) (pattern : String) : Except Trigger.Error Address := do
  i.resolve (← (Resolver.compile pattern).mapError .template)

/-- The blob at the address that a pattern gives. -/
def resolveInput (i : Invocation) (store : Store) (pattern : String) :
    Except Trigger.Error Blob := do
  i.fetch store (← (Resolver.compile pattern).mapError .template)

end Invocation

end BlobDispatch
