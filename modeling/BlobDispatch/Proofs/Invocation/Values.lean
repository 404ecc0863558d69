import BlobDispatch.Proofs.FoldedMap
import BlobDispatch.Proofs.Template.Match
import BlobDispatch.Proofs.Text.Lowercase
import BlobDispatch.Store.Operation
import BlobDispatch.Trigger.Basic
import Mathlib.Data.List.Find

/-! The values that a handler may bind by name. The marker sets the metadata apart from the captures
of every template: a lowered name of a parameter has no dot in it. Among themselves metadata keys
are compared with the marker before them, where a final sigma that opens a key is lowered to another
letter than it is alone; entries whose keys differ only there fall together. -/

namespace BlobDispatch

namespace Placeholder

theorem toList_lower_marker (key : String) : (Text.lower (marker ++ key)).toList =
    marker.toList ++ Text.lowerFrom marker.toList.reverse key.toList := by
  have kept : marker.toList.flatMap Text.lowerChar = marker.toList := by decide
  rw [Text.toList_lower_append (by decide), kept]

theorem lower_marker {key : String} (unopened : Text.opensWithFinalSigma key.toList = false) :
    Text.lower (marker ++ key) = marker ++ Text.lower key := by
  have kept : Text.lower marker = marker := by decide
  rw [Text.lower_append (by decide) unopened, kept]

private theorem lowerChar_undotted {c : Char} (named : isNameCharacter c = true) :
    '.' ∉ Text.lowerChar c :=
  of_isNameCharacter (P := fun c => '.' ∉ Text.lowerChar c) (by decide) named

theorem IsIdentifier.lower_undotted {name : String} (identifier : IsIdentifier name.toList) :
    '.' ∉ (Text.lower name).toList := by
  intro dotted
  rw [Text.lower, String.toList_ofList] at dotted
  rcases Text.mem_lowerFrom dotted with final | inner | ⟨c, member, image⟩
  · exact absurd final (by decide)
  · exact absurd inner (by decide)
  · exact lowerChar_undotted (identifier.isNameCharacter c member) image

theorem lower_marker_ne {name key : String} (identifier : IsIdentifier name.toList) :
    Text.lower (marker ++ key) ≠ Text.lower name := by
  intro same
  apply identifier.lower_undotted
  rw [← same, toList_lower_marker]
  exact List.mem_append_left _ (by decide)

end Placeholder

def Metadata.marked (metadata : Metadata) : List (String × String) :=
  metadata.entries.map fun entry => (Placeholder.marker ++ entry.1, entry.2)

namespace Invocation

/-- The last entry of the metadata whose key is lowered, after the marker, as this key is. -/
def lastMarked? (i : Invocation) (key : String) : Option String :=
  (i.blob.metadata.entries.reverse.find? fun entry =>
    Text.lower (Placeholder.marker ++ entry.1) == Text.lower (Placeholder.marker ++ key)).map (·.2)

section

variable {i : Invocation}
    (identifiers : ∀ name ∈ i.binding.keys, Placeholder.IsIdentifier name.toList)

theorem values_eq (i : Invocation) : i.values =
    i.blob.metadata.marked.foldl (fun values entry => values.insert entry.1 entry.2)
      i.binding := by
  rw [values, FoldedMap.ofList_entries, Metadata.marked, List.foldl_map]

/-- No key that the marker stands before is lowered as an identifier is. -/
theorem get?_values_of_isIdentifier (i : Invocation) {name : String}
    (identifier : Placeholder.IsIdentifier name.toList) :
    i.values.get? name = i.binding.get? name := by
  have unmarked : (i.blob.metadata.marked.reverse.find?
      fun entry => Text.lower entry.1 == Text.lower name) = none := by
    rw [List.find?_eq_none]
    intro entry inside same
    rw [List.mem_reverse, Metadata.marked] at inside
    obtain ⟨original, _, rfl⟩ := List.mem_map.1 inside
    exact Placeholder.lower_marker_ne identifier (by simpa using same)
  rw [values_eq, FoldedMap.get?_foldl_insert, unmarked]
  rfl

include identifiers

private theorem binding_get?_marker (key : String) :
    i.binding.get? (Placeholder.marker ++ key) = none := by
  rw [← Option.not_isSome_iff_eq_none, ← FoldedMap.contains_eq_isSome_get?,
    FoldedMap.contains_eq_true_iff]
  intro there
  obtain ⟨entry, member, same⟩ := List.mem_map.1 there
  exact Placeholder.lower_marker_ne (identifiers _ (List.mem_map_of_mem member)) same.symm

theorem get?_values_marker (key : String) :
    i.values.get? (Placeholder.marker ++ key) = i.lastMarked? key := by
  rw [values_eq, FoldedMap.get?_foldl_insert, binding_get?_marker identifiers, Option.or_none,
    Metadata.marked, ← List.map_reverse, List.find?_map, Option.map_map]
  rfl

theorem get?_values_capture {name : String} (member : name ∈ i.binding.keys) :
    i.values.get? name = i.binding.get? name :=
  i.get?_values_of_isIdentifier (identifiers name member)

theorem size_values_iff : i.values.size = i.binding.size + i.blob.metadata.size ↔
    (i.blob.metadata.entries.map fun entry =>
      Text.lower (Placeholder.marker ++ entry.1)).Nodup := by
  have counted : i.blob.metadata.marked.length = i.blob.metadata.size := List.length_map _
  have folded : (i.blob.metadata.marked.map fun entry => Text.lower entry.1) =
      i.blob.metadata.entries.map fun entry => Text.lower (Placeholder.marker ++ entry.1) := by
    rw [Metadata.marked, List.map_map]
    rfl
  rw [values_eq, ← counted, FoldedMap.size_foldl_insert_iff, List.map_append, folded,
    List.nodup_append]
  constructor
  · exact fun distinct => distinct.2.1
  · intro distinct
    refine ⟨i.binding.distinct, distinct, ?_⟩
    intro capture captured key marked same
    obtain ⟨entry, member, rfl⟩ := List.mem_map.1 captured
    obtain ⟨other, _, rfl⟩ := List.mem_map.1 marked
    exact Placeholder.lower_marker_ne (identifiers _ (List.mem_map_of_mem member)) same.symm

end

section

variable {i : Invocation}
    (unopened : ∀ key ∈ i.blob.metadata.keys, Text.opensWithFinalSigma key.toList = false)

include unopened

theorem lastMarked?_eq_get? {key : String}
    (opened : Text.opensWithFinalSigma key.toList = false) :
    i.lastMarked? key = i.blob.metadata.get? key := by
  rw [lastMarked?, FoldedMap.get?_eq_find?_reverse]
  apply congrArg (Option.map _)
  apply List.find?_congr
  intro entry member
  have inside : entry.1 ∈ i.blob.metadata.keys :=
    List.mem_map_of_mem (List.mem_reverse.1 member)
  rw [Placeholder.lower_marker opened, Placeholder.lower_marker (unopened _ inside),
    Bool.eq_iff_iff, beq_iff_eq, beq_iff_eq, String.append_right_inj]

theorem nodup_marked : (i.blob.metadata.entries.map fun entry =>
    Text.lower (Placeholder.marker ++ entry.1)).Nodup := by
  have lowered : (i.blob.metadata.entries.map fun entry =>
      Text.lower (Placeholder.marker ++ entry.1)) =
      (i.blob.metadata.entries.map fun entry => Text.lower entry.1).map
        fun key => Placeholder.marker ++ key := by
    rw [List.map_map]
    apply List.map_congr_left
    intro entry member
    exact Placeholder.lower_marker (unopened _ (List.mem_map_of_mem member))
  rw [lowered]
  exact i.blob.metadata.distinct.map fun _ _ same => String.append_right_inj _ |>.1 same

end

/-- The values for a blob that a trigger applies to. A key after the marker is looked up among the
metadata keys after the marker, and the last entry there counts; captures keep their values; and no
two entries fall together exactly if these keys are lowered apart. Without final sigmas at the start
of keys that is all as in the metadata itself. -/
theorem values_of_bind (trigger : Trigger) (blob : Blob) (invocation : Invocation)
    (bound : trigger.bind blob = some invocation) :
    (∀ key, invocation.values.get? (Placeholder.marker ++ key) = invocation.lastMarked? key) ∧
      (∀ name ∈ trigger.template.names, ∃ value, invocation.binding.get? name = some value ∧
        invocation.values.get? name = some value) ∧
      (invocation.values.size = trigger.template.names.length + blob.metadata.size ↔
        (blob.metadata.entries.map fun entry =>
          Text.lower (Placeholder.marker ++ entry.1)).Nodup) ∧
      ((∀ key ∈ blob.metadata.keys, Text.opensWithFinalSigma key.toList = false) →
        invocation.values.size = trigger.template.names.length + blob.metadata.size ∧
          ∀ key, Text.opensWithFinalSigma key.toList = false →
            invocation.values.get? (Placeholder.marker ++ key) = blob.metadata.get? key) := by
  obtain ⟨data, found, rfl⟩ := Option.map_eq_some_iff.1 bound
  have keys : data.keys = trigger.template.names := Template.keys_of_match? found
  have counted : data.size = trigger.template.names.length := by
    rw [← keys]
    exact (List.length_map _).symm
  have identifiers : ∀ name ∈ data.keys, Placeholder.IsIdentifier name.toList := by
    rw [keys]
    exact fun name member => trigger.template.isIdentifier_of_mem_names member
  have size := size_values_iff (i := ⟨trigger.name, blob, data⟩) identifiers
  rw [counted] at size
  refine ⟨get?_values_marker identifiers, ?_, size, ?_⟩
  · intro name member
    rw [← keys] at member
    have captured := data.get?_of_mem_keys member
    exact ⟨_, captured, (get?_values_capture identifiers member).trans captured⟩
  · intro unopened
    refine ⟨size.2 (nodup_marked unopened), ?_⟩
    intro key opened
    rw [get?_values_marker identifiers, lastMarked?_eq_get? unopened opened]

/-- The blob that is stored with given metadata, and what a trigger on its container makes of it. -/
theorem exists_bound (metadata : Metadata) :
    ∃ (store : Store) (trigger : Trigger) (blob : Blob) (invocation : Invocation),
      Trigger.compile "t" "c/\x7bn\x7d" = .ok trigger ∧ store.get "c" "x" = .ok blob ∧
        trigger.bind blob = some invocation ∧ blob.metadata = metadata ∧
        invocation.blob = blob ∧ invocation.binding = FoldedMap.ofList [("n", "x")] ∧
        trigger.template.names = ["n"] := by
  obtain ⟨store, blob, stored, inside, named, kept⟩ : ∃ (store : Store) (blob : Blob),
      store.get "c" "x" = .ok blob ∧ blob.container = "c" ∧ blob.name = "x" ∧
        blob.metadata = metadata :=
    ⟨((Store.new {}).run [.createContainer "c", .put "c" "x" [1] (some metadata) .epoch]).2, _, rfl,
      rfl, rfl, rfl⟩
  obtain ⟨trigger, compiled, names, matched⟩ : ∃ trigger : Trigger,
      Trigger.compile "t" "c/\x7bn\x7d" = .ok trigger ∧ trigger.template.names = ["n"] ∧
        trigger.template.match? "c" "x" = some (FoldedMap.ofList [("n", "x")]) :=
    ⟨_, rfl, rfl, rfl⟩
  refine ⟨store, trigger, blob, ⟨trigger.name, blob, FoldedMap.ofList [("n", "x")]⟩, compiled,
    stored, ?_, kept, rfl, rfl, names⟩
  rw [Trigger.bind, inside, named, matched]
  rfl

/-- Keys with a sigma inside, and one that differs from its lower-case form. -/
theorem values_of_bind_sample :
    ∃ (store : Store) (trigger : Trigger) (blob : Blob) (invocation : Invocation),
      Trigger.compile "t" "c/\x7bn\x7d" = .ok trigger ∧ store.get "c" "x" = .ok blob ∧
        trigger.bind blob = some invocation ∧ blob.metadata.size = 2 ∧
        invocation.values.size = 3 ∧ invocation.values.get? "n" = some "x" ∧
        invocation.values.get? (Placeholder.marker ++ "OWNER") = some "o" ∧
        invocation.values.get? (Placeholder.marker ++ "a\u03a3") = some "7" := by
  obtain ⟨store, trigger, blob, invocation, compiled, stored, bound, kept, _, captured, names⟩ :=
    exists_bound (FoldedMap.ofList [("Owner", "o"), ("a\u03c2", "7")])
  obtain ⟨_, captures, _, whole⟩ := values_of_bind trigger blob invocation bound
  rw [kept, names] at whole
  obtain ⟨size, found⟩ := whole (by decide)
  obtain ⟨value, given, listed⟩ := captures "n" (by simp [names])
  rw [captured] at given
  refine ⟨store, trigger, blob, invocation, compiled, stored, bound, ?_, size, ?_, ?_, ?_⟩
  · rw [kept]
    decide
  · rw [listed, ← given]
    decide
  · rw [found _ (by decide)]
    decide
  · rw [found _ (by decide)]
    decide

/-- Two keys that differ alone and are one after the marker, where either is read as a sigma at the
end of a word. The value of the first one is lost. -/
theorem values_merge_final_sigma :
    ∃ (store : Store) (trigger : Trigger) (blob : Blob) (invocation : Invocation),
      Trigger.compile "t" "c/\x7bn\x7d" = .ok trigger ∧ store.get "c" "x" = .ok blob ∧
        trigger.bind blob = some invocation ∧
        blob.metadata.entries = [("\u03a3", "1"), ("\u03c2", "2")] ∧
        blob.metadata.get? "\u03a3" = some "1" ∧
        invocation.values.get? (Placeholder.marker ++ "\u03a3") = some "2" ∧
        invocation.values.size = 2 ∧ trigger.template.names.length + blob.metadata.size = 3 := by
  obtain ⟨store, trigger, blob, invocation, compiled, stored, bound, kept, same, captured, names⟩ :=
    exists_bound (FoldedMap.ofList [("\u03a3", "1"), ("\u03c2", "2")])
  have merged : invocation.values = [("\u03a3", "1"), ("\u03c2", "2")].foldl
      (fun values entry => values.insert (Placeholder.marker ++ entry.1) entry.2)
        (FoldedMap.ofList [("n", "x")]) := by
    rw [values, same, kept, captured, FoldedMap.ofList_entries]
    rfl
  refine ⟨store, trigger, blob, invocation, compiled, stored, bound, ?_, ?_, ?_, ?_, ?_⟩
  · rw [kept]
    decide
  · rw [kept]
    decide
  · rw [merged]
    decide
  · rw [merged]
    decide
  · rw [names, kept]
    decide

end Invocation

end BlobDispatch
