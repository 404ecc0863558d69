import BlobDispatch.Proofs.Host.InPlace
import BlobDispatch.Proofs.Store.InPlace
import BlobDispatch.Session

/-! Requests as programs on one session that they overwrite: its store, its registry and its saved
cursors. A trigger is compiled with all its inputs, and its name looked up, before it is added, and
a cursor is put aside only once there is a page. -/

namespace BlobDispatch.Session

open InPlace

namespace Program

def onStore {α : Type} (program : InPlace Store Store.Error α) : InPlace Session Error α :=
  program.onPart Session.store (fun s store => { s with store }) .store

def onRegistry {α : Type} (program : InPlace Registry Trigger.Error α) :
    InPlace Session Error α :=
  program.onPart Session.registry (fun s registry => { s with registry }) .trigger

/-- Puts a cursor aside under a label, or frees the label. -/
def save (page : Listing.Page) : Option String → InPlace Session Error Unit
  | none => return ()
  | some label =>
    match page.next with
    | some next => update fun s => { s with saved := s.saved.insert label next }
    | none => update fun s => { s with saved := s.saved.erase label }

def list (query : Listing.Query) (cursor : Option Listing.Cursor) (use label : Option String) :
    InPlace Session Error Listing.Page := do
  let cursor := cursor.or (use.bind (← current).saved.get?)
  let page ← onStore (ask fun store => store.list query cursor)
  save page label
  return page

def register (name pattern : String) (inputs : List (String × String)) :
    InPlace Session Error Nat := do
  let trigger ← ask fun _ => (Trigger.compile name pattern).mapError .trigger
  let trigger ← ask fun _ => (trigger.withInputs inputs).mapError .trigger
  onRegistry (Registry.Program.register trigger)
  return (← current).registry.triggers.length

def createAll : List String → InPlace Session Error Nat
  | [] => return 0
  | name :: rest => do
    let new ← onStore (Store.Program.createContainer name)
    return (if new then 1 else 0) + (← createAll rest)

def newRegistry (settings : Host.Settings) : InPlace Session Error Unit :=
  update fun s => { s with registry := .new settings }

end Program

/-- A request carried out on a session in place. The last case is of the requests that only ask. -/
def Request.perform : Request → InPlace Session Error Response
  | .store operation => return .store (← Program.onStore operation.perform)
  | .list query cursor use label => return .page (← Program.list query cursor use label)
  | .newRegistry given => do
    Program.newRegistry given
    return .settings given
  | .register name pattern inputs => return .registered (← Program.register name pattern inputs)
  | .prepare => return .created (← Program.createAll (← current).registry.settings.systemContainers)
  | request => ask fun s => (s.apply request).map Prod.fst

section Commits

theorem commits_onStore {α : Type} {program : InPlace Store Store.Error α}
    {outcome : Store → Except Store.Error (α × Store)} (commits : Commits program outcome) :
    Commits (Program.onStore program) fun s =>
      ((outcome s.store).mapError .store).map fun (value, store) => (value, { s with store }) :=
  commits.onPart (fun _ => rfl) _

theorem asks_onStore {α : Type} {program : InPlace Store Store.Error α}
    {question : Store → Except Store.Error α} (asks : Asks program question) :
    Asks (Program.onStore program) fun s => (question s.store).mapError .store :=
  asks.onPart (fun _ => rfl) _

theorem commits_onRegistry {α : Type} {program : InPlace Registry Trigger.Error α}
    {outcome : Registry → Except Trigger.Error (α × Registry)} (commits : Commits program outcome) :
    Commits (Program.onRegistry program) fun s =>
      ((outcome s.registry).mapError .trigger).map
        fun (value, registry) => (value, { s with registry }) :=
  commits.onPart (fun _ => rfl) _

theorem exec_save (page : Listing.Page) (label : Option String) (s : Session) :
    (Program.save page label).exec s = (.ok (), { s with saved := s.saveNext page label }) := by
  obtain ⟨items, next⟩ := page
  cases label with
  | none => rfl
  | some label => cases next <;> rfl

theorem commits_list (query : Listing.Query) (cursor : Option Listing.Cursor)
    (use label : Option String) :
    Commits (Program.list query cursor use label) fun s =>
      ((s.store.list query (cursor.or (use.bind s.saved.get?))).mapError .store).map
        fun page => (page, { s with saved := s.saveNext page label }) := by
  intro s
  change exec (Program.onStore (ask fun store => store.list query _) >>= _) s = _
  rw [exec_bind, asks_onStore (asks_ask _)]
  dsimp only
  cases s.store.list query (cursor.or (use.bind s.saved.get?)) with
  | error error => rfl
  | ok page =>
    rw [mapError_ok]
    dsimp only [Except.map]
    rw [exec_bind, exec_save]
    rfl

theorem commits_register (name pattern : String) (inputs : List (String × String)) :
    Commits (Program.register name pattern inputs) fun s => do
      let trigger ← (Trigger.compile name pattern).mapError .trigger
      let trigger ← (trigger.withInputs inputs).mapError .trigger
      let registry ← (s.registry.register trigger).mapError .trigger
      return (registry.triggers.length, { s with registry }) := by
  refine (asks_ask _).commits_bind fun trigger => (asks_ask _).commits_bind fun trigger s => ?_
  rw [exec_bind, commits_onRegistry (Registry.commits_register trigger)]
  dsimp only
  cases s.registry.register trigger <;> rfl

theorem exec_createAll (names : List String) (s : Session) :
    (Program.createAll names).exec s =
      (.ok (Registry.createAll s.store names).1,
        { s with store := (Registry.createAll s.store names).2 }) := by
  induction names generalizing s with
  | nil => rfl
  | cons name rest ih =>
    rw [Program.createAll, exec_bind, commits_onStore (Store.commits_createContainer name)]
    change exec (Program.createAll rest >>= _)
      { s with store := (s.store.createContainer name).2 } = _
    rw [exec_bind, ih]
    rfl

theorem commits_asking {request : Request}
    (perform : request.perform = ask fun s => (s.apply request).map Prod.fst)
    (leaves : ∀ (s : Session) response next, s.apply request = .ok (response, next) → next = s) :
    Commits request.perform fun s => s.apply request := by
  intro s
  rw [perform, asks_ask]
  dsimp only
  cases applied : s.apply request with
  | error error => rfl
  | ok answered =>
    cases leaves s answered.1 answered.2 applied
    rfl

theorem commits_perform (request : Request) :
    Commits request.perform fun s => s.apply request := by
  cases request with
  | store operation =>
    refine ((commits_onStore (Store.commits_perform operation)).replies _).congr fun s => ?_
    dsimp only [apply]
    rcases s.store.apply operation with _ | ⟨_, _⟩ <;> rfl
  | list query cursor use label =>
    refine ((commits_list query cursor use label).replies _).congr fun s => ?_
    dsimp only [apply]
    cases s.store.list query (cursor.or (use.bind s.saved.get?)) <;> rfl
  | newRegistry settings => exact fun s => rfl
  | register name pattern inputs =>
    refine ((commits_register name pattern inputs).replies _).congr fun s => ?_
    dsimp only [apply]
    cases (Trigger.compile name pattern).mapError Error.trigger with
    | error error => rfl
    | ok trigger =>
      dsimp only [bind, Except.bind]
      cases (trigger.withInputs inputs).mapError Error.trigger with
      | error error => rfl
      | ok trigger =>
        dsimp only
        cases (s.registry.register trigger).mapError Error.trigger <;> rfl
  | prepare =>
    intro s
    change exec (Program.createAll s.registry.settings.systemContainers >>= _) s = _
    rw [exec_bind, exec_createAll]
    rfl
  | settings | triggers | getTrigger _ | isSystem _ =>
    exact commits_asking rfl fun _ _ _ done => by cases done; rfl
  | dispatch _ | bind _ _ | bindInputs _ _ =>
    refine commits_asking rfl fun _ _ _ done => ?_
    obtain ⟨_, _, same⟩ := bind_eq_ok_iff.1 done
    cases same
    rfl
  | resolvePath _ _ _ | resolveInput _ _ _ =>
    refine commits_asking rfl fun _ _ _ done => ?_
    obtain ⟨⟨_, invocation⟩, _, resolved⟩ := bind_eq_ok_iff.1 done
    cases invocation with
    | none => cases resolved; rfl
    | some i =>
      obtain ⟨_, _, same⟩ := bind_eq_ok_iff.1 resolved
      cases same
      rfl
  | scan _ _ =>
    refine commits_asking rfl fun _ _ _ done => ?_
    obtain ⟨_, _, scanned⟩ := bind_eq_ok_iff.1 done
    obtain ⟨_, _, same⟩ := bind_eq_ok_iff.1 scanned
    cases same
    rfl
  | scanRegistry _ =>
    refine commits_asking rfl fun _ _ _ done => ?_
    obtain ⟨_, _, same⟩ := bind_eq_ok_iff.1 done
    cases same
    rfl

end Commits

end BlobDispatch.Session
