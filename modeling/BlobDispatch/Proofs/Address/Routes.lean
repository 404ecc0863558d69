import BlobDispatch.Invocation.Basic
import BlobDispatch.Proofs.Json.Forms
import BlobDispatch.Proofs.Store.Answers
import BlobDispatch.Proofs.Template.Resolver

/-! Ways to an address. All but one of them check the parts, so that the text of an address stands
for it alone, and a stored blob that has an address is found by the text. The JSON form is read
without a check and leads to every address, also to one whose text stands for another. -/

namespace BlobDispatch

section Stored

variable {s : Store} {container name : String} {blob : Blob}

theorem Store.WellFormed.address_eq (wellFormed : s.WellFormed)
    (stored : s.get container name = .ok blob) :
    blob.address = Address.ofParts container name := by
  have placed := wellFormed.isAt_of_get stored
  rw [Blob.address, placed.container_eq, placed.name_eq]

/-- No name of a stored blob is empty, so it takes a proper name of the container only. -/
theorem Store.WellFormed.exists_address_iff (wellFormed : s.WellFormed)
    (stored : s.get container name = .ok blob) :
    (∃ a, blob.address = .ok a) ↔ container ≠ "" ∧ '/' ∉ container.toList := by
  have named := (wellFormed.isAt_of_get stored).named
  rw [wellFormed.address_eq stored, Address.exists_ofParts_iff, and_iff_right named]

end Stored

namespace Address

/-- A text is read just when there is something on both sides of its first separator, and is then
the text of what it is read as; two parts are accepted just when their text is read as these parts.
So no two valid addresses have one text, and every stored blob with an address is what a read of its
text as an address leads to. -/
theorem text_reads_back :
    (∀ s : String,
      ((∃ a, parse s = .ok a) ↔ '/' ∈ s.toList ∧ before s ≠ "" ∧ after s ≠ "") ∧
      ∀ a, parse s = .ok a → a.text = s) ∧
    (∀ container name : String,
      ((∃ a, ofParts container name = .ok a) ↔
        container ≠ "" ∧ name ≠ "" ∧ '/' ∉ container.toList) ∧
      ∀ a, ofParts container name = .ok a →
        a = ⟨container, name⟩ ∧ parse a.text = .ok ⟨container, name⟩) ∧
    (∀ a b : Address, a.Valid → b.Valid → a.text = b.text → a = b) ∧
    ∀ s : Store, s.Reachable → ∀ container name blob, s.get container name = .ok blob →
      ((∃ a, blob.address = .ok a) ↔ container ≠ "" ∧ '/' ∉ container.toList) ∧
      ∀ a, blob.address = .ok a →
        ∃ b, parse a.text = .ok b ∧ s.get b.container b.name = .ok blob := by
  refine ⟨?_, ?_, fun _ _ => text_injOn, ?_⟩
  · intro s
    exact ⟨exists_parse_iff, fun _ read => (parse_eq_ok_iff.1 read).2⟩
  · intro container name
    refine ⟨exists_ofParts_iff, ?_⟩
    intro a made
    obtain ⟨rfl, valid⟩ := ofParts_eq_ok_iff.1 made
    exact ⟨rfl, parse_text_iff.2 valid⟩
  · intro s reachable container name blob stored
    have wellFormed := reachable.wellFormed
    refine ⟨wellFormed.exists_address_iff stored, ?_⟩
    intro a placed
    rw [wellFormed.address_eq stored] at placed
    obtain ⟨rfl, valid⟩ := ofParts_eq_ok_iff.1 placed
    exact ⟨_, parse_text_iff.2 valid, stored⟩

section Slashes

/-- A store with separators all over the name of a blob, and one in the name of a container. -/
private def slashed : Store :=
  ((Store.new {}).run [.createContainer "c", .createContainer "a/b",
    .put "c" "/x//" [1] none .epoch, .put "a/b" "y" [] none .epoch]).2

theorem text_reads_back_slashes : slashed.Reachable ∧ ∃ blob hidden a b,
    slashed.get "c" "/x//" = .ok blob ∧ blob.address = .ok a ∧
      slashed.get "a/b" "y" = .ok hidden ∧ (¬ ∃ a, hidden.address = .ok a) ∧
      parse "c//x//" = .ok b ∧ b.text = "c//x//" ∧ a.Valid ∧ b.Valid ∧ a = b ∧
      ofParts "c" "/x//" = .ok a ∧ parse a.text = .ok ⟨"c", "/x//"⟩ ∧
      ∃ found, parse a.text = .ok found ∧
        slashed.get found.container found.name = .ok blob := by
  obtain ⟨texts, parts, single, blobs⟩ := text_reads_back
  have reachable : slashed.Reachable := ⟨{}, _, rfl⟩
  obtain ⟨blob, hidden, stored, beside⟩ : ∃ blob hidden,
      slashed.get "c" "/x//" = .ok blob ∧ slashed.get "a/b" "y" = .ok hidden :=
    ⟨_, _, rfl, rfl⟩
  obtain ⟨named, found⟩ := blobs slashed reachable "c" "/x//" blob stored
  have unnamed := (blobs slashed reachable "a/b" "y" hidden beside).1
  obtain ⟨a, made⟩ := (parts "c" "/x//").1.2 (by decide)
  obtain ⟨same, readBack⟩ := (parts "c" "/x//").2 a made
  obtain ⟨b, read⟩ := (texts "c//x//").1.2 (by decide)
  have written := (texts "c//x//").2 b read
  have valid := (ofParts_eq_ok_iff.1 made).2
  have validToo := (parse_eq_ok_iff.1 read).1
  have placed : blob.address = .ok a := by
    rw [reachable.wellFormed.address_eq stored, made]
  have equal : a = b := single a b valid validToo (by rw [written, same]; decide)
  exact ⟨reachable, blob, hidden, a, b, stored, placed, beside,
    fun made => (unnamed.1 made).2 (by decide), read, written, valid, validToo, equal, made,
    readBack, found a placed⟩

end Slashes

/-- The ways to an address that a program has. -/
inductive Route where
  | parts
  | text
  | blob
  | resolver
  | pattern
  | invocation
  | form

/-- From some input, the route leads to the address. -/
inductive Route.LeadsTo : Route → Address → Prop
  | parts {container name : String} {a : Address} (made : ofParts container name = .ok a) :
      LeadsTo .parts a
  | text {s : String} {a : Address} (read : parse s = .ok a) : LeadsTo .text a
  | blob {b : Blob} {a : Address} (placed : b.address = .ok a) : LeadsTo .blob a
  | resolver {r : Resolver} {binding : Binding} {metadata : Metadata} {a : Address}
      (resolved : r.resolve binding metadata = .ok a) : LeadsTo .resolver a
  | pattern {pattern : String} {binding : Binding} {metadata : Metadata} {a : Address}
      (resolved : resolvePattern pattern binding metadata = .ok a) : LeadsTo .pattern a
  | invocation {i : Invocation} {pattern : String} {a : Address}
      (resolved : i.resolvePath pattern = .ok a) : LeadsTo .invocation a
  | form {j : Json} {a : Address} (read : decode? j = some a) : LeadsTo .form a

end Address

namespace Resolver

theorem valid_of_resolve {r : Resolver} {binding : Binding} {metadata : Metadata} {a : Address}
    (resolved : r.resolve binding metadata = .ok a) : a.Valid := by
  obtain ⟨_, _, read⟩ := resolve_eq_ok_iff.1 resolved
  exact (Address.parse_eq_ok_iff.1 read).1

/-- A resolver that takes a whole address from one value. -/
def whole : Resolver := ⟨"\x7bpath\x7d", [.parameter (.capture "path")], rfl⟩

/-- The value that it takes it from. -/
def written (a : Address) : Binding := FoldedMap.empty.insert "path" a.text

theorem resolve_whole {a : Address} (valid : a.Valid) (metadata : Metadata) :
    whole.resolve (written a) metadata = .ok a := by
  apply resolve_eq_ok _ valid rfl
  simp [whole, written, substitute, Placeholder.value?, FoldedMap.get?_insert, Except.map]

end Resolver

namespace Address

theorem Route.valid_of_leadsTo {route : Route} {a : Address} (checked : route ≠ .form)
    (leads : route.LeadsTo a) : a.Valid := by
  cases leads with
  | parts made => exact (ofParts_eq_ok_iff.1 made).2
  | text read => exact (parse_eq_ok_iff.1 read).1
  | blob placed => exact (ofParts_eq_ok_iff.1 placed).2
  | resolver resolved => exact Resolver.valid_of_resolve resolved
  | pattern resolved =>
    obtain ⟨_, _, resolved⟩ := bind_eq_ok_iff.1 resolved
    exact Resolver.valid_of_resolve resolved
  | invocation resolved =>
    obtain ⟨_, _, resolved⟩ := bind_eq_ok_iff.1 resolved
    exact Resolver.valid_of_resolve (mapError_eq_ok_iff.1 resolved)
  | form read => exact absurd rfl checked

theorem Route.form_leadsTo (a : Address) : Route.form.LeadsTo a :=
  .form (LawfulJsonForm.decode_encode a)

theorem Route.leadsTo_of_valid (route : Route) {a : Address} (valid : a.Valid) :
    route.LeadsTo a := by
  have made : ofParts a.container a.name = .ok a := ofParts_eq_ok_iff.2 ⟨rfl, valid⟩
  have compiled : Resolver.compile Resolver.whole.pattern = .ok Resolver.whole :=
    Resolver.compile_eq_ok_iff.2 rfl
  let blob : Blob := ⟨a.container, a.name, [], ⟨0, ⟨0⟩, .epoch⟩, FoldedMap.empty⟩
  have resolved := Resolver.resolve_whole valid blob.metadata
  cases route with
  | parts => exact .parts made
  | text => exact .text (parse_text_iff.2 valid)
  | blob => exact .blob (b := blob) made
  | resolver => exact .resolver resolved
  | pattern => exact .pattern (bind_eq_ok_iff.2 ⟨_, compiled, resolved⟩)
  | invocation =>
    have fetched : (⟨"", blob, Resolver.written a⟩ : Invocation).resolve Resolver.whole = .ok a :=
      mapError_eq_ok_iff.2 resolved
    exact .invocation (bind_eq_ok_iff.2 ⟨_, mapError_eq_ok_iff.2 compiled, fetched⟩)
  | form => exact form_leadsTo a

/-- Every route but the JSON form leads to just the addresses that are valid, and so to those whose
text is read as them. The form leads to all, whatever their parts. -/
theorem Route.leadsTo_iff (route : Route) (a : Address) :
    route.LeadsTo a ↔ (route ≠ .form → a.Valid ∧ parse a.text = .ok a) := by
  constructor
  · intro leads checked
    have valid := valid_of_leadsTo checked leads
    exact ⟨valid, parse_text_iff.2 valid⟩
  · intro promised
    by_cases checked : route = .form
    · rw [checked]
      exact form_leadsTo a
    · exact leadsTo_of_valid route (promised checked).1

/-- The form of an address whose container has a separator in its name. -/
def slashedForm : Json := .object [("container", .string "a/b"), ("name", .string "c")]

/-- It is read as it is, and the text of what it is read as stands for another address. -/
theorem slashedForm_leadsTo : decode? slashedForm = some (⟨"a/b", "c"⟩ : Address) ∧
    Route.form.LeadsTo ⟨"a/b", "c"⟩ ∧ ¬ Valid ⟨"a/b", "c"⟩ ∧
      parse (text ⟨"a/b", "c"⟩) = .ok ⟨"a", "b/c"⟩ := by
  have read : decode? slashedForm = some (⟨"a/b", "c"⟩ : Address) := rfl
  exact ⟨read, .form read, by decide, rfl⟩

end Address

end BlobDispatch
