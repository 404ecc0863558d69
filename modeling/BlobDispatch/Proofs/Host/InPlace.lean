import BlobDispatch.Host.Registry
import BlobDispatch.Proofs.InPlace

/-! Registering as a program on one registry that it overwrites. The pattern is compiled and the
name looked up before the trigger is added, so each call does what it does as a function. -/

namespace BlobDispatch.Registry

open InPlace

namespace Program

def register (trigger : Trigger) : InPlace Registry Trigger.Error Unit := do
  match (← current).get? trigger.name with
  | some _ => throw (.duplicateTrigger trigger.name)
  | none => update fun r => { r with triggers := r.triggers ++ [trigger] }

def registerPattern (name pattern : String) : InPlace Registry Trigger.Error Unit := do
  let trigger ← ask fun _ => Trigger.compile name pattern
  register trigger

end Program

/-- A trigger is registered as it is, or made of a name and a pattern first. -/
inductive Call where
  | register (trigger : Trigger)
  | registerPattern (name pattern : String)

/-- A call carried out on a registry in place. -/
def Call.perform : Call → InPlace Registry Trigger.Error Unit
  | .register trigger => Program.register trigger
  | .registerPattern name pattern => Program.registerPattern name pattern

def apply (r : Registry) : Call → Except Trigger.Error Registry
  | .register trigger => r.register trigger
  | .registerPattern name pattern => r.registerPattern name pattern

section Commits

theorem commits_register (trigger : Trigger) :
    Commits (Program.register trigger) fun r => (r.register trigger).map ((), ·) := by
  intro r
  change exec (match r.get? trigger.name with
    | some _ => throw _
    | none => _) r = _
  dsimp only
  unfold Registry.register
  cases r.get? trigger.name <;> rfl

theorem commits_perform (call : Call) :
    Commits call.perform fun r => (r.apply call).map ((), ·) := by
  cases call with
  | register trigger => exact commits_register trigger
  | registerPattern name pattern =>
    refine ((asks_ask _).commits_bind commits_register).congr fun r => ?_
    rw [apply, registerPattern]
    cases Trigger.compile name pattern <;> rfl

end Commits

end BlobDispatch.Registry
