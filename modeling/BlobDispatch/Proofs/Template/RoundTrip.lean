import BlobDispatch.Proofs.Template.Resolver

/-! Resolving and then matching. Values that are not empty and free of the separator, put into the
pattern of a template, give an address that the template matches. A value may hold the text of a
literal, so the match may cut the address at other places than it was put together at; what it
captures gives the same address all the same. Where no component has two parameters there is one
way only to cut an address, and the match captures the values that were put in. -/

namespace BlobDispatch

namespace Component

variable {value other : String → String}

private theorem fill_eq_of_names_eq_nil {component : Component} (fixed : component.names = []) :
    component.fill value = component.fill other := by
  induction component with
  | nil => rfl
  | cons piece rest ih =>
    cases piece with
    | literal text =>
      have later := ih fixed
      simp [later]
    | parameter name => simp at fixed

/-- A component with one parameter at most is filled to the same text by equal values only: the
literals before and after the parameter cancel. -/
theorem value_eq_of_fill_eq {component : Component} (single : component.names.length ≤ 1)
    (same : component.fill value = component.fill other) :
    ∀ name ∈ component.names, value name = other name := by
  induction component with
  | nil => exact List.forall_mem_nil _
  | cons piece rest ih =>
    cases piece with
    | literal text =>
      rw [fill_literal, fill_literal] at same
      exact ih single (List.append_cancel_left same)
    | parameter name =>
      rw [names_parameter, List.length_cons] at single
      have fixed : names rest = [] := by
        apply List.eq_nil_of_length_eq_zero
        omega
      have tail : fill value rest = fill other rest := fill_eq_of_names_eq_nil fixed
      rw [fill_parameter, fill_parameter, tail] at same
      have here : value name = other name := String.toList_inj.1 (List.append_cancel_right same)
      rw [names_parameter, fixed]
      simpa using here

end Component

namespace Template

variable {t : Template} {value other : String → String} {container object : String}

theorem assigns_substitute (free : ∀ name ∈ t.names, value name ≠ "" ∧ '/' ∉ (value name).toList) :
    t.Assigns value (substitute value t.layout.containerPart)
      (substitute value t.layout.objectPart) := ⟨free, rfl, rfl⟩

/-- With one parameter at most in every component, an address comes from one assignment only. -/
theorem Assigns.unique (single : ∀ component ∈ t.layout.parts, component.names.length ≤ 1)
    (assigns : t.Assigns value container object) (again : t.Assigns other container object) :
    ∀ name ∈ t.names, value name = other name := by
  have filled := (assigns_iff.1 assigns).2.trans (assigns_iff.1 again).2.symm
  intro name declared
  have listed : name ∈ t.layout.parts.flatMap Component.names := declared
  obtain ⟨component, member, inside⟩ := List.mem_flatMap.1 listed
  have same := List.map_inj_left.1 filled component member
  exact Component.value_eq_of_fill_eq (single component member) same name inside

/-- Values put into a template's own pattern, under any metadata, give an address; the template
matches it, and what it captures resolves to it again. With one parameter at most in the container
and in every segment of the object, the captures are the values. -/
theorem match_of_resolved (t : Template) (data : Binding)
    (given : ∀ name ∈ t.names, ∃ value, data.get? name = some value ∧ value ≠ "" ∧
      '/' ∉ value.toList) :
    ∃ resolver address, Resolver.compile t.pattern = .ok resolver ∧
      (∀ metadata, resolver.resolve data metadata = .ok address) ∧
      ∃ found, t.match? address.container address.name = some found ∧
        (∀ metadata, resolver.resolve found metadata = .ok address) ∧
        ((∀ component ∈ t.layout.container :: t.layout.object, component.names.length ≤ 1) →
          found.keys = t.names ∧ ∀ name ∈ t.names, found.get? name = data.get? name) := by
  have held : ∀ name ∈ t.names, data.get? name = some (data.captured name) := by
    intro name declared
    obtain ⟨value, there, _⟩ := given name declared
    simp [Binding.captured, there]
  have free : ∀ name ∈ t.names, data.captured name ≠ "" ∧ '/' ∉ (data.captured name).toList := by
    intro name declared
    obtain ⟨value, there, clean⟩ := given name declared
    simpa [Binding.captured, there] using clean
  have assigns := assigns_substitute free
  obtain ⟨found, matched, _⟩ := match?_of_assigns assigns
  have keys := keys_of_match? matched
  have caught : ∀ name ∈ t.names, found.get? name = some (found.captured name) := by
    intro name declared
    apply Binding.get?_of_mem_keys
    rwa [keys]
  obtain ⟨resolver, compiled, resolves⟩ := exists_resolver t
  refine ⟨resolver, _, compiled, resolves assigns held, found, matched,
    resolves (assigns_of_match? matched) caught, ?_⟩
  intro single
  refine ⟨keys, ?_⟩
  intro name declared
  have same := (assigns_of_match? matched).unique single assigns name declared
  rw [caught name declared, held name declared, same]

/-- A template with one parameter in each segment of the object. -/
def nested : Template where
  pattern := "c/{a}.txt/{b}"
  layout := ⟨[.literal "c"], [[.parameter "a", .literal ".txt"], [.parameter "b"]]⟩
  compiled := by decide

/-- A value that ends like the literal after it, and yet is captured whole. -/
theorem match_of_resolved_nested :
    ∃ data : Binding, data.get? "a" = some "x.txt" ∧ data.get? "b" = some "y" ∧
      ∃ resolver address, Resolver.compile nested.pattern = .ok resolver ∧
        resolver.resolve data FoldedMap.empty = .ok address ∧
        ∃ found, nested.match? address.container address.name = some found ∧
          found.get? "a" = some "x.txt" ∧ found.get? "b" = some "y" := by
  obtain ⟨data, first, second⟩ : ∃ data : Binding, data.get? "a" = some "x.txt" ∧
      data.get? "b" = some "y" :=
    ⟨FoldedMap.ofList [("a", "x.txt"), ("b", "y")], by decide, by decide⟩
  have given : ∀ name ∈ nested.names, ∃ value, data.get? name = some value ∧ value ≠ "" ∧
      '/' ∉ value.toList := by
    have names : nested.names = ["a", "b"] := by decide
    rw [names]
    refine List.forall_mem_cons.2 ⟨⟨"x.txt", first, by decide, by decide⟩, ?_⟩
    exact List.forall_mem_singleton.2 ⟨"y", second, by decide, by decide⟩
  obtain ⟨resolver, address, compiled, resolved, found, matched, _, recovered⟩ :=
    match_of_resolved nested data given
  have kept := (recovered (by decide)).2
  refine ⟨data, first, second, resolver, address, compiled, resolved _, found, matched, ?_, ?_⟩
  · rw [kept "a" (by decide), first]
  · rw [kept "b" (by decide), second]

end Template

end BlobDispatch
