import BlobDispatch.Proofs.Store.Answers
import BlobDispatch.Proofs.Text.Line
import BlobDispatch.Proofs.Trigger.Inputs

/-! Statuses on one line. The message of a failure is put on one line whatever it says, by replacing
its line breaks and nothing else, but the address of a blob that an input is bound to is written out
as it is. -/

namespace BlobDispatch

open Text Invocation

theorem Store.Reachable.text_of_get {store : Store} (reachable : store.Reachable)
    {address : Address} {blob : Blob}
    (found : store.get address.container address.name = .ok blob) (parameter : String) :
    InputStatus.text ⟨parameter, .bound blob⟩ = "Bound to " ++ address.text := by
  have placed := reachable.wellFormed.isAt_of_get found
  simp only [InputStatus.text, Address.text, placed.container_eq, placed.name_eq,
    String.append_assoc]

theorem Invocation.onOneLine_failed (parameter message : String) :
    OnOneLine (InputStatus.text ⟨parameter, .failed message⟩) :=
  onOneLine_oneLine message

/-- The status of a failure is its message with every line break replaced: there is one way to read
the message from left to right, taking the longest break at each place, and the status is what it
gives, with one semicolon more for each break. So it is the message itself just when that is on one
line, and making it a message again changes nothing. -/
theorem Invocation.failed_status_flattens (parameter message : String) :
    ∃ breaks, (∀ flat count, Flattens message.toList flat count ↔
        flat = (InputStatus.text ⟨parameter, .failed message⟩).toList ∧ count = breaks) ∧
      (InputStatus.text ⟨parameter, .failed message⟩).toList.count ';' =
        message.toList.count ';' + breaks ∧
      OnOneLine (InputStatus.text ⟨parameter, .failed message⟩) ∧
      (InputStatus.text ⟨parameter, .failed message⟩ = message ↔ OnOneLine message) ∧
      ∀ other, InputStatus.text ⟨other, .failed (InputStatus.text ⟨parameter, .failed message⟩)⟩ =
        InputStatus.text ⟨parameter, .failed message⟩ := by
  obtain ⟨breaks, read⟩ := exists_flattens_iff message
  have single := onOneLine_oneLine message
  refine ⟨breaks, read, ?_, single, oneLine_eq_self_iff, fun _ => oneLine_eq_self_iff.2 single⟩
  exact ((read _ _).2 ⟨rfl, rfl⟩).count_semicolon

example : InputStatus.text ⟨"input", .failed "\r\r\na; b\n"⟩ = "; ; a; b; " := by decide

namespace Trigger

/-- No failure takes more than a line, whatever its message. The status of an input takes more
just when the input leads to a blob that is there and whose address takes more, as names of blobs
and containers are free to. -/
theorem statuses_take_one_line {store : Store} (reachable : store.Reachable) (trigger : Trigger)
    (invocation : Invocation) :
    (∀ parameter message, OnOneLine (InputStatus.text ⟨parameter, .failed message⟩)) ∧
      List.Forall₂ (fun input status => ¬ OnOneLine status.text ↔
          ∃ address blob, invocation.resolve input.resolver = .ok address ∧
            store.get address.container address.name = .ok blob ∧ ¬ OnOneLine address.text)
        trigger.inputs (trigger.bindInputs invocation store) := by
  refine ⟨onOneLine_failed, ?_⟩
  rw [bindInputs, List.forall₂_map_right_iff, List.forall₂_same]
  intro input _
  split
  · rename_i blob fetched
    obtain ⟨address, resolved, got⟩ := bind_eq_ok_iff.1 fetched
    have found := mapError_eq_ok_iff.1 got
    have opening : OnOneLine "Bound to " := by decide
    rw [reachable.text_of_get found, onOneLine_append, and_iff_right opening]
    constructor
    · intro broken
      exact ⟨address, blob, resolved, found, broken⟩
    · rintro ⟨other, _, same, _, broken⟩
      cases resolved.symm.trans same
      exact broken
  · rename_i error fetched
    refine iff_of_false (not_not_intro (onOneLine_failed _ _)) ?_
    rintro ⟨address, blob, resolved, found, _⟩
    have other : invocation.fetch store input.resolver = .ok blob :=
      bind_eq_ok_iff.2 ⟨address, resolved, mapError_eq_ok_iff.2 found⟩
    cases fetched.symm.trans other

section Broken

/-- A store with one blob, whose name takes two lines. -/
def broken : Store :=
  ((Store.new {}).run [.createContainer "c", .put "c" "x\ny" [] none .epoch]).2

/-- An input for the blob itself, and one for a blob that is not there. -/
def copying : List (String × String) := [("copy", "c/\x7bn\x7d"), ("other", "c/z\n\x7bn\x7d")]

/-- The status of a blob that is there takes two lines, and the status of a missing one does not,
with line feeds in both addresses. -/
theorem statuses_take_one_line_broken : broken.Reachable ∧
    ∃ (compiled trigger : Trigger) (blob : Blob) (invocation : Invocation)
      (first second : InputStatus),
      Trigger.compile "t" "c/\x7bn\x7d" = .ok compiled ∧
        compiled.withInputs copying = .ok trigger ∧ broken.get "c" "x\ny" = .ok blob ∧
        trigger.bind blob = some invocation ∧
        trigger.bindInputs invocation broken = [first, second] ∧
        ¬ OnOneLine first.text ∧ OnOneLine second.text := by
  have reachable : broken.Reachable := ⟨{}, _, rfl⟩
  obtain ⟨compiled, trigger, blob, invocation, copier, other, made, declared, stored, bound,
      inputs, resolved, missing⟩ :
      ∃ (compiled trigger : Trigger) (blob : Blob) (invocation : Invocation)
        (copier other : Trigger.Input), Trigger.compile "t" "c/\x7bn\x7d" = .ok compiled ∧
          compiled.withInputs copying = .ok trigger ∧ broken.get "c" "x\ny" = .ok blob ∧
          trigger.bind blob = some invocation ∧ trigger.inputs = [copier, other] ∧
          invocation.resolve copier.resolver = .ok ⟨"c", "x\ny"⟩ ∧
          invocation.resolve other.resolver = .ok ⟨"c", "z\nx\ny"⟩ :=
    ⟨_, _, _, _, _, _, rfl, rfl, rfl, rfl, rfl, rfl, rfl⟩
  have all := (statuses_take_one_line reachable trigger invocation).2
  rw [inputs] at all
  obtain ⟨first, _, here, later, listed⟩ := List.forall₂_cons_left_iff.1 all
  obtain ⟨second, _, there, last, rfl⟩ := List.forall₂_cons_left_iff.1 later
  cases List.forall₂_nil_left_iff.1 last
  have long := here.2 ⟨_, blob, resolved, stored, by decide⟩
  refine ⟨reachable, compiled, trigger, blob, invocation, first, second, made, declared, stored,
    bound, listed, long, ?_⟩
  -- The second address leads to no blob.
  by_contra broke
  obtain ⟨address, blob, same, found, _⟩ := there.1 broke
  cases missing.symm.trans same
  cases found

/-- The blob is bound, and the line feed in its name is in the status. -/
theorem status_on_two_lines : broken.Reachable ∧
    ∃ (compiled trigger : Trigger) (blob : Blob) (invocation : Invocation) (status : InputStatus),
      Trigger.compile "t" "c/\x7bn\x7d" = .ok compiled ∧
        compiled.withInputs copying = .ok trigger ∧ broken.get "c" "x\ny" = .ok blob ∧
        trigger.bind blob = some invocation ∧
        status ∈ trigger.bindInputs invocation broken ∧ '\n' ∈ status.text.toList :=
  ⟨⟨{}, _, rfl⟩, _, _, _, _, _, rfl, rfl, rfl, rfl, List.mem_cons_self, by decide⟩

end Broken

end Trigger

end BlobDispatch
