import BlobDispatch.Proofs.Template.Contract
import BlobDispatch.Proofs.Template.Resolver
import BlobDispatch.Store.Operation
import BlobDispatch.Trigger.Basic
import Mathlib.Data.List.Find
import Mathlib.Data.List.Forall2

/-! Inputs of triggers. What is checked when an input is declared is enough when a blob is bound:
the contract, the template and every match of it have the same names, so the captures of a declared
input always have values, and only metadata can be missing. -/

namespace BlobDispatch

/-- The first placeholder of a pattern for metadata that is not there. -/
def Resolver.absent? (r : Resolver) (metadata : Metadata) : Option Placeholder :=
  r.placeholders.find? fun placeholder =>
    placeholder.isMetadata && (metadata.get? placeholder.key).isNone

/-- The captures that a pattern asks for are in a contract. -/
def Resolver.Covered (r : Resolver) (contract : Contract) : Prop :=
  ∀ name, .capture name ∈ r.placeholders → contract.contains name = true

namespace Trigger

/-- An input is declared as its parameter and pattern ask, within a contract. -/
structure Input.Declares (input : Input) (contract : Contract) (asked : String × String) :
    Prop where
  parameter_eq : input.parameter = asked.1
  compiled : Resolver.compile asked.2 = .ok input.resolver
  covered : input.resolver.Covered contract

section Declaration

variable {t next : Trigger}

theorem checkPlaceholders_eq_ok_iff {contract : Contract} {placeholders : List Placeholder} :
    checkPlaceholders contract placeholders = .ok () ↔
      ∀ name, .capture name ∈ placeholders → contract.contains name = true := by
  induction placeholders with
  | nil => simp [checkPlaceholders]
  | cons placeholder rest ih =>
    cases placeholder with
    | metadata text =>
      rw [checkPlaceholders, ih]
      simp
    | capture name =>
      rw [checkPlaceholders]
      cases known : contract.contains name with
      | true =>
        rw [if_pos rfl, ih]
        simp [known]
      | false =>
        rw [if_neg Bool.false_ne_true]
        refine iff_of_false nofun fun all => ?_
        rw [all name List.mem_cons_self] at known
        cases known

theorem contract_of_compile {name pattern : String} (made : compile name pattern = .ok t) :
    t.contract.keys = t.template.names ∧ t.inputs = [] := by
  obtain ⟨template, _, made⟩ := bind_eq_ok_iff.1 made
  obtain ⟨contract, agreed, same⟩ := bind_eq_ok_iff.1 made
  cases same
  exact ⟨Contract.keys_of_ofNames (mapError_eq_ok_iff.1 agreed), rfl⟩

theorem withInput_eq_ok {parameter pattern : String}
    (added : t.withInput parameter pattern = .ok next) : ∃ input : Input,
      input.Declares t.contract (parameter, pattern) ∧
        next = { t with inputs := t.inputs ++ [input] } := by
  rw [withInput] at added
  split at added
  · cases added
  · obtain ⟨resolver, compiled, added⟩ := bind_eq_ok_iff.1 added
    obtain ⟨_, checked, same⟩ := bind_eq_ok_iff.1 added
    cases same
    have covered := checkPlaceholders_eq_ok_iff.1 (mapError_eq_ok_iff.1 checked)
    exact ⟨⟨parameter, resolver⟩, ⟨rfl, mapError_eq_ok_iff.1 compiled, covered⟩, rfl⟩

theorem withInputs_eq_ok {inputs : List (String × String)}
    (added : t.withInputs inputs = .ok next) : ∃ declared : List Input,
      List.Forall₂ (fun asked input => input.Declares t.contract asked) inputs declared ∧
        next = { t with inputs := t.inputs ++ declared } := by
  induction inputs generalizing t with
  | nil =>
    cases added
    exact ⟨[], .nil, by rw [List.append_nil]⟩
  | cons asked rest ih =>
    obtain ⟨between, first, added⟩ := bind_eq_ok_iff.1 added
    obtain ⟨input, declares, rfl⟩ := withInput_eq_ok first
    obtain ⟨later, all, rfl⟩ := ih added
    exact ⟨input :: later, .cons declares all, by rw [List.append_assoc, List.singleton_append]⟩

end Declaration

end Trigger

theorem Resolver.Covered.find?_eq {r : Resolver} {contract : Contract}
    (covered : r.Covered contract) {binding : Binding} (keys : contract.keys = binding.keys)
    (metadata : Metadata) :
    (r.placeholders.find? fun placeholder => (placeholder.value? binding metadata).isNone) =
      r.absent? metadata := by
  apply List.find?_congr
  intro placeholder member
  cases placeholder with
  | metadata text => rfl
  | capture name =>
    -- Two folded maps with the same keys contain the same names, in any case.
    have known := covered name member
    rw [FoldedMap.contains_eq_of_keys keys, FoldedMap.contains_eq_isSome_get?] at known
    rw [Placeholder.value?, ← Option.not_isSome, known]
    rfl

namespace Invocation

/-- What an input comes to in a store: it is bound to the blob at the address that its pattern
resolves to, and its pattern is left unresolved for the first placeholder whose metadata is
absent, and for no other. -/
structure Settles (i : Invocation) (store : Store) (resolver : Resolver) (outcome : Outcome) :
    Prop where
  bound : ∀ blob, outcome = .bound blob ↔ ∃ address,
    resolver.resolve i.binding i.blob.metadata = .ok address ∧
      store.get address.container address.name = .ok blob
  failed : ∀ message, outcome = .failed message ↔ ∃ error,
    i.fetch store resolver = .error error ∧ error.message = message
  unresolved : ∀ parameter,
    i.fetch store resolver = .error (.template (.unresolvedParameter parameter)) ↔
      ∃ placeholder, resolver.absent? i.blob.metadata = some placeholder ∧
        placeholder.name = parameter

theorem fetch_eq_ok_iff {i : Invocation} {store : Store} {resolver : Resolver} {blob : Blob} :
    i.fetch store resolver = .ok blob ↔ ∃ address,
      resolver.resolve i.binding i.blob.metadata = .ok address ∧
        store.get address.container address.name = .ok blob := by
  rw [fetch, bind_eq_ok_iff]
  simp only [resolve, mapError_eq_ok_iff]

theorem fetch_eq_unresolved_iff {i : Invocation} {store : Store} {resolver : Resolver}
    {parameter : String} :
    i.fetch store resolver = .error (.template (.unresolvedParameter parameter)) ↔
      resolver.resolve i.binding i.blob.metadata = .error (.unresolvedParameter parameter) := by
  rw [fetch, resolve]
  cases resolver.resolve i.binding i.blob.metadata with
  | error error => simp [bind, Except.bind]
  | ok address =>
    cases found : store.get address.container address.name <;>
      simp [bind, Except.bind, found]

theorem settles_of_fetch {i : Invocation} {store : Store} {resolver : Resolver}
    {contract : Contract} (covered : resolver.Covered contract)
    (keys : contract.keys = i.binding.keys) {outcome : Outcome}
    (fetched : outcome = match i.fetch store resolver with
      | .ok blob => .bound blob
      | .error error => .failed error.message) : i.Settles store resolver outcome where
  bound blob := by
    rw [← fetch_eq_ok_iff, fetched]
    cases i.fetch store resolver <;> simp
  failed message := by
    rw [fetched]
    cases i.fetch store resolver <;> simp
  unresolved parameter := by
    rw [fetch_eq_unresolved_iff, Resolver.resolve_eq_unresolved_iff, covered.find?_eq keys]

end Invocation

namespace Trigger

open Invocation

/-- For a blob that a trigger applies to, every input that was declared has a status, in order of
declaration. Captures never lack a value, so an input is bound to the blob that its pattern leads
to unless its pattern names metadata that the triggering blob has not, or leads nowhere. -/
theorem statuses_of_declared {name pattern : String} {inputs : List (String × String)}
    {compiled trigger : Trigger} (made : Trigger.compile name pattern = .ok compiled)
    (declared : compiled.withInputs inputs = .ok trigger) {blob : Blob} {invocation : Invocation}
    (bound : trigger.bind blob = some invocation) (store : Store) :
    invocation.blob = blob ∧
      List.Forall₂ (fun asked status => status.parameter = asked.1 ∧ ∃ resolver,
          Resolver.compile asked.2 = .ok resolver ∧
            invocation.Settles store resolver status.outcome)
        inputs (trigger.bindInputs invocation store) := by
  obtain ⟨keys, empty⟩ := contract_of_compile made
  obtain ⟨added, declares, rfl⟩ := withInputs_eq_ok declared
  obtain ⟨data, found, rfl⟩ := Option.map_eq_some_iff.1 bound
  have captured : compiled.contract.keys = data.keys :=
    keys.trans (Template.keys_of_match? found).symm
  refine ⟨rfl, ?_⟩
  rw [bindInputs, empty, List.nil_append, List.forall₂_map_right_iff]
  refine declares.imp ?_
  intro asked input declares
  split
  · rename_i found fetched
    refine ⟨declares.parameter_eq, input.resolver, declares.compiled, ?_⟩
    exact settles_of_fetch declares.covered captured (by rw [fetched])
  · rename_i error fetched
    refine ⟨declares.parameter_eq, input.resolver, declares.compiled, ?_⟩
    exact settles_of_fetch declares.covered captured (by rw [fetched])

/-- An input that finds a blob, through a capture in another case, and one that asks for metadata
of which only the first is there. -/
theorem statuses_of_declared_sample :
    ∃ (store : Store) (compiled trigger : Trigger) (blob copy : Blob) (invocation : Invocation)
      (first second : InputStatus),
      Trigger.compile "t" "c/\x7bn\x7d" = .ok compiled ∧
        compiled.withInputs [("copy", "d/\x7bN\x7d"),
          ("note", "d/\x7bmetadata.owner\x7d/\x7bMetadata.kind\x7d")] = .ok trigger ∧
        store.get "c" "x" = .ok blob ∧ store.get "d" "x" = .ok copy ∧
        trigger.bind blob = some invocation ∧
        trigger.bindInputs invocation store = [first, second] ∧
        first.parameter = "copy" ∧ first.outcome = .bound copy ∧ second.parameter = "note" ∧
        second.outcome =
          .failed "path error: no value for named parameter 'Metadata.kind'" := by
  obtain ⟨store, blob, copy, stored, beside, inside, named, kept⟩ :
      ∃ (store : Store) (blob copy : Blob), store.get "c" "x" = .ok blob ∧
        store.get "d" "x" = .ok copy ∧ blob.container = "c" ∧ blob.name = "x" ∧
        blob.metadata = FoldedMap.ofList [("Owner", "o")] :=
    ⟨((Store.new {}).run [.createContainer "c", .createContainer "d",
      .put "c" "x" [1] (some (FoldedMap.ofList [("Owner", "o")])) .epoch,
      .put "d" "x" [2] none .epoch]).2, _, _, rfl, rfl, rfl, rfl, rfl⟩
  obtain ⟨compiled, trigger, made, declared, matched⟩ : ∃ compiled trigger : Trigger,
      Trigger.compile "t" "c/\x7bn\x7d" = .ok compiled ∧
        compiled.withInputs [("copy", "d/\x7bN\x7d"),
          ("note", "d/\x7bmetadata.owner\x7d/\x7bMetadata.kind\x7d")] = .ok trigger ∧
        trigger.template.match? "c" "x" = some (FoldedMap.ofList [("n", "x")]) :=
    ⟨_, _, rfl, rfl, rfl⟩
  obtain ⟨copier, compiledCopy, resolved⟩ : ∃ copier, Resolver.compile "d/\x7bN\x7d" = .ok copier ∧
      copier.resolve (FoldedMap.ofList [("n", "x")]) (FoldedMap.ofList [("Owner", "o")]) =
        .ok ⟨"d", "x"⟩ := ⟨_, rfl, rfl⟩
  obtain ⟨noter, compiledNote, absent⟩ : ∃ noter,
      Resolver.compile "d/\x7bmetadata.owner\x7d/\x7bMetadata.kind\x7d" = .ok noter ∧
        noter.absent? (FoldedMap.ofList [("Owner", "o")]) = some (.metadata "Metadata.kind") :=
    ⟨_, rfl, rfl⟩
  have bound : trigger.bind blob = some ⟨trigger.name, blob, FoldedMap.ofList [("n", "x")]⟩ := by
    rw [Trigger.bind, inside, named, matched]
    rfl
  have all := (statuses_of_declared made declared bound store).2
  cases listed : trigger.bindInputs _ store with
  | nil =>
    rw [listed] at all
    cases all
  | cons first rest =>
    rw [listed] at all
    obtain ⟨⟨copied, resolver, read, settles⟩, later⟩ := List.forall₂_cons.1 all
    obtain ⟨second, rest, ⟨noted, other, reread, missing⟩, last, rfl⟩ :=
      List.forall₂_cons_left_iff.1 later
    cases List.forall₂_nil_left_iff.1 last
    cases compiledCopy.symm.trans read
    cases compiledNote.symm.trans reread
    rw [← kept] at resolved absent
    have found := (settles.bound copy).2 ⟨_, resolved, beside⟩
    have unresolved := (missing.unresolved _).2 ⟨_, absent, rfl⟩
    have failed := (missing.failed _).2 ⟨_, unresolved, rfl⟩
    exact ⟨store, compiled, trigger, blob, copy, _, first, second, made, declared, stored, beside,
      bound, listed, copied, found, noted, failed⟩

end Trigger

end BlobDispatch
