import BlobDispatch.Host.Registry
import BlobDispatch.Proofs.Store.Moves
import Mathlib.Data.Finset.Card
import Mathlib.Data.Finset.Dedup

/-! Preparing a store for a host. Each name in a list is given an empty container unless it has one
already. A name that is listed again has one by then, so it counts once and nothing comes of it
later, and nothing else in the store changes. -/

namespace BlobDispatch

namespace Store

variable {s : Store} {name : String}

theorem containerExists_createContainer (s : Store) (name key : String) :
    (s.createContainer name).2.containerExists key = (s.containerExists key || key == name) := by
  simp only [containerExists, NameTable.contains, get?_createContainer, Option.isSome_or]
  by_cases here : key = name <;> simp [here]

/-- The names in a list that no container has, each of them once. -/
def missing (s : Store) (names : List String) : Finset String :=
  names.toFinset.filter fun name => s.containerExists name = false

theorem missing_cons_of_exists (there : s.containerExists name = true) (rest : List String) :
    s.missing (name :: rest) = s.missing rest := by
  simp [missing, Finset.filter_insert, there]

theorem missing_cons_of_not_exists (absent : s.containerExists name = false)
    (rest : List String) :
    s.missing (name :: rest) = insert name ((s.createContainer name).2.missing rest) := by
  ext key
  by_cases here : key = name
  · simp [missing, here, absent]
  · simp [missing, here, containerExists_createContainer]

theorem not_mem_missing_createContainer (s : Store) (name : String) (rest : List String) :
    name ∉ (s.createContainer name).2.missing rest := by
  simp [missing, containerExists_createContainer]

end Store

namespace Registry

theorem createAll_cons (s : Store) (name : String) (rest : List String) :
    createAll s (name :: rest) =
      ((if (s.createContainer name).1 then 1 else 0) +
        (createAll (s.createContainer name).2 rest).1,
       (createAll (s.createContainer name).2 rest).2) := rfl

theorem createAll_of_exist {s : Store} {names : List String}
    (there : ∀ name ∈ names, s.containerExists name = true) : createAll s names = (0, s) := by
  induction names with
  | nil => rfl
  | cons name rest ih =>
    obtain ⟨first, later⟩ := List.forall_mem_cons.1 there
    rw [createAll_cons, Store.createContainer_of_exists first, ih later]
    rfl

theorem get?_createAll (s : Store) (names : List String) (key : String) :
    (createAll s names).2.containers.get? key =
      (s.containers.get? key).or (if key ∈ names then some Container.empty else none) := by
  induction names generalizing s with
  | nil => simp [createAll]
  | cons name rest ih =>
    rw [createAll_cons, ih, Store.get?_createContainer, Option.or_assoc]
    by_cases here : key = name <;> simp [here]

theorem createAll_keeps (kept : Store → Prop)
    (keep : ∀ {s : Store} (name : String), kept s → kept (s.createContainer name).2)
    {s : Store} (names : List String) (first : kept s) : kept (createAll s names).2 := by
  induction names generalizing s with
  | nil => exact first
  | cons name rest ih => exact ih (keep name first)

theorem createAll_eq (s : Store) (names : List String) : (createAll s names).2 =
    { s with containers := (createAll s names).2.containers } := by
  induction names generalizing s with
  | nil => rfl
  | cons name rest ih => rw [createAll_cons, ih, Store.createContainer_eq]

/-- New containers are empty, and creating them takes no tag. -/
theorem createAll_same (s : Store) (names : List String) :
    (createAll s names).2.lastTag = s.lastTag ∧
      ∀ container name, (createAll s names).2.blob? container name = s.blob? container name := by
  constructor
  · rw [createAll_eq]
  · intro container name
    rw [Store.blob?, Store.blob?, get?_createAll]
    cases s.containers.get? container with
    | some held => rfl
    | none =>
      by_cases listed : container ∈ names
      · rw [if_pos listed]
        rfl
      · rw [if_neg listed]
        rfl

/-- Creations count the names that were missing at the start. What is created on the way takes its
own name off the rest of the list and no other. -/
theorem createAll_fst (s : Store) (names : List String) :
    (createAll s names).1 = (s.missing names).card := by
  induction names generalizing s with
  | nil => rfl
  | cons name rest ih =>
    rw [createAll_cons, ih]
    cases there : s.containerExists name with
    | true =>
      rw [Store.createContainer_of_exists there, Store.missing_cons_of_exists there]
      simp
    | false =>
      rw [Store.missing_cons_of_not_exists there,
        Finset.card_insert_of_notMem (s.not_mem_missing_createContainer name rest),
        Store.createContainer_of_not_exists there]
      simp [Nat.add_comm]

theorem containerExists_createAll {s : Store} {names : List String} {name : String}
    (listed : name ∈ names) : (createAll s names).2.containerExists name = true := by
  rw [Store.containerExists, NameTable.contains, get?_createAll, if_pos listed]
  simp

/-- A store that is prepared has all system containers. The new ones are empty and are as many as
distinct names were missing, what was there is there unchanged, and so is everything else. Preparing
it once more does nothing. -/
theorem prepare_creates_missing (r : Registry) (s : Store) :
    (r.prepare s).1 = (s.missing r.settings.systemContainers).card ∧
    (∀ name ∈ r.settings.systemContainers, (r.prepare s).2.containerExists name = true) ∧
    (∀ name container, s.containers.get? name = some container →
      (r.prepare s).2.containers.get? name = some container) ∧
    (∀ name ∈ s.missing r.settings.systemContainers,
      (r.prepare s).2.containers.get? name = some Container.empty) ∧
    (∀ name ∉ r.settings.systemContainers,
      (r.prepare s).2.containers.get? name = s.containers.get? name) ∧
    (r.prepare s).2.lastTag = s.lastTag ∧ (r.prepare s).2.service = s.service ∧
    (r.prepare s).2.config = s.config ∧
    r.prepare (r.prepare s).2 = (0, (r.prepare s).2) := by
  have seen := get?_createAll s r.settings.systemContainers
  have there : ∀ name ∈ r.settings.systemContainers,
      (r.prepare s).2.containerExists name = true := fun _ => containerExists_createAll
  refine ⟨createAll_fst _ _, there, ?_, ?_, ?_, ?_, ?_, ?_, createAll_of_exist there⟩
  · intro name container found
    rw [prepare, seen, found, Option.some_or]
  · intro name absent
    obtain ⟨listed, absent⟩ := Finset.mem_filter.1 absent
    rw [prepare, seen, Store.get?_of_not_exists absent, Option.none_or,
      if_pos (List.mem_toFinset.1 listed)]
  · intro name other
    rw [prepare, seen, if_neg other, Option.or_none]
  · rw [prepare, createAll_eq]
  · rw [prepare, createAll_eq]
  · rw [prepare, createAll_eq]

section Used

/-- A host that keeps three containers for itself, one of them named twice. -/
private def reserving : Registry := .new { systemContainers := ["hosts", "locks", "hosts", "logs"] }

/-- A store that has one of them, in use, and a container of its own. -/
private def used : Store :=
  ((Store.new {}).run [.createContainer "data", .createContainer "locks",
    .setContainerMetadata "locks" (FoldedMap.ofList [("k", "v")]),
    .put "locks" "x" [1] none .epoch]).2

theorem prepare_creates_missing_used :
    (reserving.prepare used).1 = 2 ∧ used.containerExists "hosts" = false ∧
      (reserving.prepare used).2.containerExists "hosts" = true ∧
      (∃ locks, used.containers.get? "locks" = some locks ∧
        (reserving.prepare used).2.containers.get? "locks" = some locks) ∧
      (reserving.prepare used).2.containers.get? "logs" = some Container.empty ∧
      (reserving.prepare used).2.containers.get? "data" = used.containers.get? "data" ∧
      (reserving.prepare used).2.lastTag = ⟨1⟩ ∧
      reserving.prepare (reserving.prepare used).2 = (0, (reserving.prepare used).2) := by
  obtain ⟨count, created, kept, fresh, others, tag, _, _, again⟩ :=
    prepare_creates_missing reserving used
  obtain ⟨locks, found⟩ : ∃ locks, used.containers.get? "locks" = some locks := ⟨_, rfl⟩
  refine ⟨count, rfl, created "hosts" (by decide), ⟨locks, found, kept "locks" locks found⟩,
    fresh "logs" (by decide), others "data" (by decide), tag, again⟩

end Used

end Registry

end BlobDispatch
