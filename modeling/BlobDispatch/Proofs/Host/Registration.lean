import BlobDispatch.Proofs.Host.InPlace
import BlobDispatch.Proofs.Host.Registry
import BlobDispatch.Proofs.Template.Names
import Mathlib.Data.List.Forall2
import Mathlib.Data.List.Induction
import Mathlib.Data.List.Pairwise

/-! Registering, one call after another. A registry holds the triggers of the calls that it has
accepted, in their order and under names that differ by more than ASCII case; a call that it refuses
has left no trace in it. What is dispatched for a blob follows from these calls alone. -/

namespace BlobDispatch

namespace Trigger

/-- A pattern that compiles makes a trigger: its names always make a contract. -/
theorem exists_compile_iff {name pattern : String} :
    (∃ t, compile name pattern = .ok t) ↔ ∃ template, Template.compile pattern = .ok template := by
  constructor
  · rintro ⟨t, made⟩
    obtain ⟨template, compiled, _⟩ := bind_eq_ok_iff.1 made
    exact ⟨template, mapError_eq_ok_iff.1 compiled⟩
  · rintro ⟨template, compiled⟩
    obtain ⟨contract, agreed⟩ := template.exists_contract
    refine ⟨⟨name, template, contract, []⟩, bind_eq_ok_iff.2 ⟨template, ?_, ?_⟩⟩
    · exact mapError_eq_ok_iff.2 compiled
    · exact bind_eq_ok_iff.2 ⟨contract, mapError_eq_ok_iff.2 agreed, rfl⟩

theorem name_of_compile {name pattern : String} {t : Trigger}
    (made : compile name pattern = .ok t) : t.name = name := by
  obtain ⟨template, _, made⟩ := bind_eq_ok_iff.1 made
  obtain ⟨contract, _, same⟩ := bind_eq_ok_iff.1 made
  cases same
  rfl

end Trigger

namespace Registry

namespace Call

/-- The name that the trigger is to be found under. -/
def name : Call → String
  | .register trigger => trigger.name
  | .registerPattern name _ => name

def trigger : Call → Except Trigger.Error Trigger
  | .register trigger => .ok trigger
  | .registerPattern name pattern => Trigger.compile name pattern

/-- The pattern is none that blobs can be matched with. A trigger that is there already has one. -/
def Invalid : Call → Prop
  | .register _ => False
  | .registerPattern _ pattern => ∃ error, Template.compile pattern = .error error

theorem name_of_trigger {call : Call} {t : Trigger} (made : call.trigger = .ok t) :
    t.name = call.name := by
  cases call with
  | register trigger =>
    cases made
    rfl
  | registerPattern name pattern => exact Trigger.name_of_compile made

theorem invalid_iff {call : Call} : call.Invalid ↔ ¬ ∃ t, call.trigger = .ok t := by
  cases call with
  | register trigger => exact iff_of_false id fun none => none ⟨trigger, rfl⟩
  | registerPattern name pattern =>
    change _ ↔ ¬ ∃ t, Trigger.compile name pattern = .ok t
    rw [Trigger.exists_compile_iff, Invalid]
    cases Template.compile pattern <;> simp

end Call

/-- One call in a run: a refused one gives its error and leaves the registry. -/
def step (r : Registry) (call : Call) : Except Trigger.Error Unit × Registry :=
  match r.apply call with
  | .ok next => (.ok (), next)
  | .error error => (.error error, r)

/-- A run: the answer of every call in order, and the registry at the end. -/
def run (r : Registry) : List Call → List (Except Trigger.Error Unit) × Registry
  | [] => ([], r)
  | call :: rest =>
    let (answer, next) := r.step call
    let (answers, last) := next.run rest
    (answer :: answers, last)

/-- A run carried out in place, each call on the registry as the one before has left it. -/
def serve (r : Registry) : List Call → List (Except Trigger.Error Unit) × Registry
  | [] => ([], r)
  | call :: rest =>
    let (answer, next) := call.perform.exec r
    let (answers, last) := next.serve rest
    (answer :: answers, last)

/-- The triggers of the calls that are answered without an error, in the order of the calls. -/
def accepted (r : Registry) (calls : List Call) : List Trigger :=
  (calls.zip (r.run calls).1).filterMap fun asked =>
    if asked.2.isOk then asked.1.trigger.toOption else none

section Step

variable {r next : Registry} {call : Call}

theorem exec_perform (r : Registry) (call : Call) : call.perform.exec r = r.step call := by
  rw [commits_perform call r, step]
  dsimp only
  cases r.apply call <;> rfl

theorem apply_eq_ok_iff : r.apply call = .ok next ↔ ∃ t, call.trigger = .ok t ∧
    r.get? t.name = none ∧ next = { r with triggers := r.triggers ++ [t] } := by
  have composed : r.apply call = call.trigger >>= r.register := by cases call <;> rfl
  simp only [composed, bind_eq_ok_iff, register_eq_ok_iff]

theorem exists_get?_iff {name : String} : (∃ t, r.get? name = some t) ↔
    ∃ t ∈ r.triggers, Text.sameAsciiFold t.name name = true := by
  rw [← Option.isSome_iff_exists, get?, List.find?_isSome]

/-- A call is accepted just when neither its pattern nor its name stands against it. -/
theorem exists_apply_iff : (∃ next, r.apply call = .ok next) ↔
    ¬ (call.Invalid ∨ ∃ t ∈ r.triggers, Text.sameAsciiFold t.name call.name = true) := by
  rw [not_or, Call.invalid_iff, not_not, ← exists_get?_iff, ← Option.isSome_iff_exists,
    Option.not_isSome_iff_eq_none]
  constructor
  · rintro ⟨next, added⟩
    obtain ⟨t, made, free, _⟩ := apply_eq_ok_iff.1 added
    rw [Call.name_of_trigger made] at free
    exact ⟨⟨t, made⟩, free⟩
  · rintro ⟨⟨t, made⟩, free⟩
    rw [← Call.name_of_trigger made] at free
    exact ⟨_, apply_eq_ok_iff.2 ⟨t, made, free, rfl⟩⟩

/-- What a call does: it is refused and leaves the registry, or adds its trigger. -/
theorem step_cases (r : Registry) (call : Call) :
    (∃ error, r.apply call = .error error ∧ r.step call = (.error error, r)) ∨
    ∃ t, call.trigger = .ok t ∧ r.get? t.name = none ∧
      r.step call = (.ok (), { r with triggers := r.triggers ++ [t] }) := by
  rw [step]
  cases applied : r.apply call with
  | error error => exact .inl ⟨error, rfl, rfl⟩
  | ok next =>
    obtain ⟨t, made, free, rfl⟩ := apply_eq_ok_iff.1 applied
    exact .inr ⟨t, made, free, rfl⟩

theorem refused_iff : (∃ error, (r.step call).1 = .error error) ↔
    call.Invalid ∨ ∃ t ∈ r.triggers, Text.sameAsciiFold t.name call.name = true := by
  rw [← not_iff_not, ← exists_apply_iff, step]
  cases r.apply call <;> simp

end Step

section Run

variable {calls : List Call}

theorem serve_eq_run (r : Registry) (calls : List Call) : r.serve calls = r.run calls := by
  induction calls generalizing r with
  | nil => rfl
  | cons call rest ih =>
    rw [serve, exec_perform, run]
    dsimp only
    rw [ih]

theorem length_run (r : Registry) (calls : List Call) :
    (r.run calls).1.length = calls.length := by
  induction calls generalizing r with
  | nil => rfl
  | cons call rest ih => exact congrArg Nat.succ (ih _)

theorem run_append (r : Registry) (calls : List Call) (call : Call) :
    r.run (calls ++ [call]) =
      ((r.run calls).1 ++ [((r.run calls).2.step call).1], ((r.run calls).2.step call).2) := by
  induction calls generalizing r with
  | nil => rfl
  | cons first rest ih =>
    rw [List.cons_append, run, run]
    dsimp only
    rw [ih, List.cons_append]

theorem accepted_append (r : Registry) (calls : List Call) (call : Call) :
    r.accepted (calls ++ [call]) = r.accepted calls ++
      if ((r.run calls).2.step call).1.isOk then call.trigger.toOption.toList else [] := by
  rw [accepted, run_append, List.zip_append (r.length_run calls).symm, List.filterMap_append]
  refine congrArg _ ?_
  rw [List.zip_cons_cons, List.zip_nil_left, List.filterMap_cons]
  cases ((r.run calls).2.step call).1 with
  | error error => rfl
  | ok answer => cases call.trigger <;> rfl

/-- One more call is refused and leaves everything, or has its trigger accepted under its name. -/
theorem run_next (r : Registry) (calls : List Call) (call : Call) : ∃ answer next,
    call.perform.exec (r.run calls).2 = (answer, next) ∧
      r.run (calls ++ [call]) = ((r.run calls).1 ++ [answer], next) ∧
      ((∃ error, answer = .error error) ↔ call.Invalid ∨
        ∃ t ∈ (r.run calls).2.triggers, Text.sameAsciiFold t.name call.name = true) ∧
      (∀ error, answer = .error error →
        next = (r.run calls).2 ∧ r.accepted (calls ++ [call]) = r.accepted calls) ∧
      (answer = .ok () → ∃ t, call.trigger = .ok t ∧ t.name = call.name ∧
        r.accepted (calls ++ [call]) = r.accepted calls ++ [t]) := by
  refine ⟨((r.run calls).2.step call).1, ((r.run calls).2.step call).2, exec_perform _ _,
    run_append _ _ _, refused_iff, ?_, ?_⟩
  · intro error refused
    rw [accepted_append, refused]
    rcases step_cases (r.run calls).2 call with ⟨_, _, done⟩ | ⟨_, _, _, done⟩
    · exact ⟨congrArg Prod.snd done, List.append_nil _⟩
    · cases refused.symm.trans (congrArg Prod.fst done)
  · intro answered
    rw [accepted_append, answered]
    rcases step_cases (r.run calls).2 call with ⟨_, _, done⟩ | ⟨t, made, _, _⟩
    · cases answered.symm.trans (congrArg Prod.fst done)
    · refine ⟨t, made, Call.name_of_trigger made, ?_⟩
      rw [made]
      rfl

/-- The accepted triggers are what a new registry has come to hold. -/
theorem run_new (settings : Host.Settings) (calls : List Call) :
    ((new settings).run calls).2 = ⟨settings, (new settings).accepted calls⟩ := by
  induction calls using List.reverseRecOn with
  | nil => rfl
  | append_singleton calls call ih =>
    rw [run_append, accepted_append]
    rcases step_cases ((new settings).run calls).2 call with
      ⟨error, _, done⟩ | ⟨t, made, _, done⟩
    · rw [done, ih]
      exact congrArg _ (List.append_nil _).symm
    · rw [done, ih, made]
      rfl

theorem built_run (settings : Host.Settings) (calls : List Call) :
    ((new settings).run calls).2.Built := by
  induction calls using List.reverseRecOn with
  | nil => exact .new settings
  | append_singleton calls call ih =>
    rw [run_append]
    rcases step_cases ((new settings).run calls).2 call with
      ⟨error, _, done⟩ | ⟨t, _, free, done⟩
    · rwa [done]
    · rw [done]
      exact ih.register (register_eq_ok_iff.2 ⟨free, rfl⟩)

end Run

section Lookup

variable {r : Registry} {name : String} {t : Trigger}

theorem Built.get?_eq_some_iff (built : r.Built) :
    r.get? name = some t ↔ t ∈ r.triggers ∧ Text.sameAsciiFold t.name name = true := by
  constructor
  · intro found
    have same := List.find?_some found
    exact ⟨List.mem_of_find?_eq_some found, same⟩
  · rintro ⟨member, same⟩
    obtain ⟨other, found⟩ : ∃ other, r.get? name = some other :=
      Option.isSome_iff_exists.1 (List.find?_isSome.2 ⟨t, member, same⟩)
    have alike := List.find?_some found
    have symmetric : Std.Symm fun a b : Trigger => Text.sameAsciiFold a.name b.name = false := by
      refine ⟨fun a b apart => ?_⟩
      rwa [Text.sameAsciiFold, BEq.comm]
    rw [found, Option.some.injEq]
    by_contra differ
    have apart := built.apart.forall (List.mem_of_find?_eq_some found) member differ
    rw [Text.sameAsciiFold, beq_iff_eq] at alike same
    rw [Text.sameAsciiFold, alike, same, beq_self_eq_true] at apart
    cases apart

end Lookup

section Dispatch

/-- An invocation carries the blob, and what the template of its trigger has matched. -/
structure Fires (blob : Blob) (t : Trigger) (i : Invocation) : Prop where
  matched : t.template.match? blob.container blob.name = some i.binding
  trigger_eq : i.trigger = t.name
  blob_eq : i.blob = blob

theorem bind_fires (blob : Blob) (triggers : List Trigger) :
    List.Forall₂ (Fires blob)
      (triggers.filter fun t => (t.template.match? blob.container blob.name).isSome)
      (triggers.filterMap fun t => t.bind blob) := by
  induction triggers with
  | nil => exact .nil
  | cons t rest ih =>
    cases found : t.template.match? blob.container blob.name with
    | none =>
      rw [List.filter_cons_of_neg (by simp [found]), List.filterMap_cons, Trigger.bind, found,
        Option.map_none]
      exact ih
    | some binding =>
      rw [List.filter_cons_of_pos (by simp [found]), List.filterMap_cons, Trigger.bind, found,
        Option.map_some]
      exact .cons ⟨found, rfl, rfl⟩ ih

theorem dispatch_fires (r : Registry) (blob : Blob) :
    (blob.container ∈ r.settings.systemContainers → r.dispatch blob = []) ∧
      (blob.container ∉ r.settings.systemContainers → List.Forall₂ (Fires blob)
        (r.triggers.filter fun t => (t.template.match? blob.container blob.name).isSome)
        (r.dispatch blob)) := by
  rw [dispatch, isSystem]
  constructor
  · intro own
    exact if_pos (List.contains_iff_mem.2 own)
  · intro other
    rw [if_neg (by simpa using other)]
    exact bind_fires blob _

end Dispatch

/-- A new registry after any calls holds the triggers that it has accepted, in the order of the
calls, and the same when every call is carried out in place. No two of them have names that differ
in ASCII case only; a name finds the accepted trigger of that name in any ASCII case, and nothing
else. The next call, also in place, is refused just when its pattern cannot be compiled or its name
is taken, and then the registry stays as it is; otherwise its trigger is accepted under its name.
For a blob, nothing is dispatched in a system container, and elsewhere one invocation for each
accepted trigger whose template matches, in their order. -/
theorem serve_accepts (settings : Host.Settings) (calls : List Call) :
    let r := ((new settings).run calls).2
    let accepted := (new settings).accepted calls
    (new settings).serve calls = (new settings).run calls ∧
      r.settings = settings ∧ r.triggers = accepted ∧
      (accepted.Pairwise fun a b => Text.sameAsciiFold a.name b.name = false) ∧
      (∀ name t, r.get? name = some t ↔
        t ∈ accepted ∧ Text.sameAsciiFold t.name name = true) ∧
      (∀ call, ∃ answer next, call.perform.exec r = (answer, next) ∧
        (new settings).run (calls ++ [call]) =
          (((new settings).run calls).1 ++ [answer], next) ∧
        ((∃ error, answer = .error error) ↔
          call.Invalid ∨ ∃ t ∈ accepted, Text.sameAsciiFold t.name call.name = true) ∧
        (∀ error, answer = .error error →
          next = r ∧ (new settings).accepted (calls ++ [call]) = accepted) ∧
        (answer = .ok () → ∃ t, call.trigger = .ok t ∧ t.name = call.name ∧
          (new settings).accepted (calls ++ [call]) = accepted ++ [t])) ∧
      ∀ blob, (blob.container ∈ settings.systemContainers → r.dispatch blob = []) ∧
        (blob.container ∉ settings.systemContainers → List.Forall₂ (Fires blob)
          (accepted.filter fun t => (t.template.match? blob.container blob.name).isSome)
          (r.dispatch blob)) := by
  intro r accepted
  have built : r.Built := built_run settings calls
  have held : r = ⟨settings, accepted⟩ := run_new settings calls
  have triggers : r.triggers = accepted := congrArg Registry.triggers held
  refine ⟨serve_eq_run _ _, congrArg Registry.settings held, triggers, ?_, ?_, ?_, ?_⟩
  · rw [← triggers]
    exact built.apart
  · intro name t
    rw [built.get?_eq_some_iff, triggers]
  · intro call
    have step := run_next (new settings) calls call
    rwa [show ((new settings).run calls).2.triggers = accepted from triggers] at step
  · intro blob
    have fired := dispatch_fires r blob
    rwa [held] at fired ⊢

/-- Calls of which the second asks for a name that is taken and the third for a pattern without a
separator. -/
def history : List Call :=
  [.registerPattern "any" "images/{folder}/{file}", .registerPattern "ANY" "docs/{name}",
    .registerPattern "bad" "images", .registerPattern "png" "images/{folder}/{name}.png"]

/-- An event of a new blob without content. -/
def event (container name : String) : Blob :=
  ⟨container, name, [], ⟨0, ⟨0⟩, .epoch⟩, FoldedMap.empty⟩

theorem serve_accepts_history :
    ∃ r t u i j, ((new {}).run history).2 = r ∧ ((new {}).serve history).2 = r ∧
      (new {}).accepted history = [t, u] ∧
      t.name = "any" ∧ u.name = "png" ∧ r.get? "PNG" = some u ∧
      r.dispatch (event "images" "cats/tom.png") = [i, j] ∧ i.trigger = "any" ∧
      j.trigger = "png" ∧ j.blob = event "images" "cats/tom.png" ∧
      r.dispatch (event Host.hostsContainer "a/b") = [] ∧
      ((Call.registerPattern "Png" "c/{n}").perform.exec r).2 = r ∧
      ((new {}).run (history ++ [.registerPattern "Png" "c/{n}"])).2 = r ∧
      ∃ v, (new {}).accepted (history ++ [.registerPattern "docs" "docs/{n}"]) = [t, u, v] ∧
        v.name = "docs" := by
  obtain ⟨tie, _, _, _, finds, next, dispatches⟩ := serve_accepts {} history
  obtain ⟨t, u, listed, first, second⟩ : ∃ t u, (new {}).accepted history = [t, u] ∧
      t.name = "any" ∧ u.name = "png" := ⟨_, _, rfl, rfl, rfl⟩
  have matching : (((new {}).accepted history).filter fun t =>
      (t.template.match? "images" "cats/tom.png").isSome) = (new {}).accepted history := rfl
  have fired := (dispatches (event "images" "cats/tom.png")).2 (by decide)
  change List.Forall₂ _ (((new {}).accepted history).filter fun t =>
      (t.template.match? "images" "cats/tom.png").isSome) _ at fired
  rw [matching, listed] at fired
  obtain ⟨i, rest, here, fired, shown⟩ := List.forall₂_cons_left_iff.1 fired
  obtain ⟨j, others, there, none, rfl⟩ := List.forall₂_cons_left_iff.1 fired
  cases List.forall₂_nil_left_iff.1 none
  obtain ⟨answer, _, done, served, refused, kept, _⟩ := next (.registerPattern "Png" "c/{n}")
  obtain ⟨error, thrown⟩ := refused.2 (.inr ⟨u, by simp [listed], by rw [second]; decide⟩)
  obtain ⟨answer, _, _, more, free, _, added⟩ := next (.registerPattern "docs" "docs/{n}")
  have answered : answer = .ok () := by
    have last : ((new {}).run (history ++ [.registerPattern "docs" "docs/{n}"])).1.getLast? =
        some (.ok ()) := rfl
    rw [more] at last
    simpa using last
  obtain ⟨v, _, third, longer⟩ := added answered
  refine ⟨_, t, u, i, j, rfl, congrArg Prod.snd tie, listed, first, second, ?_, shown, ?_, ?_,
    there.blob_eq, ?_, ?_, ?_, v, ?_, third⟩
  · exact (finds "PNG" u).2 ⟨by simp [listed], by rw [second]; decide⟩
  · rw [here.trigger_eq, first]
  · rw [there.trigger_eq, second]
  · exact (dispatches _).1 (by decide)
  · rw [done, (kept error thrown).1]
  · rw [served, (kept error thrown).1]
  · rw [longer, listed]
    rfl

end Registry

end BlobDispatch
