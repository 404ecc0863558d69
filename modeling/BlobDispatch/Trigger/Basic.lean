import BlobDispatch.Invocation.Basic
import BlobDispatch.Invocation.InputStatus

/-! Triggers: a template that says which blobs they apply to, and inputs that are resolved from
what the template captures and from the metadata of the blob. Everything is compiled when a
trigger is made, so only values that a blob lacks can be missing later. -/

namespace BlobDispatch

namespace Trigger

/-- A parameter that is bound to the blob at a derived address. -/
structure Input where
  parameter : String
  resolver : Resolver

end Trigger

structure Trigger where
  name : String
  template : Template
  contract : Contract
  inputs : List Trigger.Input

namespace Trigger

/-- A trigger without inputs. -/
def compile (name pattern : String) : Except Error Trigger := do
  let template ← (Template.compile pattern).mapError .template
  let contract ← template.contract.mapError .template
  return { name, template, contract, inputs := [] }

/-- Refuses placeholders that name a capture the contract lacks, for the first of them. -/
def checkPlaceholders (contract : Contract) : List Placeholder → Except Template.Error Unit
  | [] => .ok ()
  | .capture name :: rest =>
    if contract.contains name then checkPlaceholders contract rest
    else .error (.unresolvedParameter name)
  | .metadata _ :: rest => checkPlaceholders contract rest

/-- Declares an input after the others. Its parameter must differ from theirs, ASCII case aside,
and its captures must be ones of the trigger; metadata is looked for only when a blob is bound. -/
def withInput (t : Trigger) (parameter pattern : String) : Except Error Trigger :=
  if t.inputs.any fun input => Text.sameAsciiFold input.parameter parameter then
    .error (.duplicateInput t.name parameter)
  else do
    let resolver ← (Resolver.compile pattern).mapError .template
    (checkPlaceholders t.contract resolver.placeholders).mapError .template
    return { t with inputs := t.inputs ++ [⟨parameter, resolver⟩] }

/-- Declares inputs in order and stops at the first that is refused. -/
def withInputs (t : Trigger) : List (String × String) → Except Error Trigger
  | [] => .ok t
  | (parameter, pattern) :: rest => do
    let declared ← t.withInput parameter pattern
    declared.withInputs rest

/-- The invocation for a blob, if the trigger applies to it. -/
def bind (t : Trigger) (blob : Blob) : Option Invocation :=
  (t.template.match? blob.container blob.name).map fun binding => ⟨t.name, blob, binding⟩

/-- The outcome of every input for an invocation, in order of declaration. -/
def bindInputs (t : Trigger) (invocation : Invocation) (store : Store) :
    List Invocation.InputStatus :=
  t.inputs.map fun input =>
    match invocation.fetch store input.resolver with
    | .ok blob => ⟨input.parameter, .bound blob⟩
    | .error error => ⟨input.parameter, .failed error.message⟩

end Trigger

end BlobDispatch
