import BlobDispatch.Proofs.Store.Moves
import BlobDispatch.Proofs.Store.WellFormed

/-! Stores and histories. One step changes the store as its event changes what the history says, so
after any run the two agree at every place, and what can be read is what the history says. -/

namespace BlobDispatch.Store

theorem containerExists_eq (s : Store) (container : String) :
    s.containerExists container = (s.metadata? container).isSome := by
  rw [metadata?, Option.isSome_map]
  rfl

theorem containerMetadata_eq (s : Store) (container : String) :
    s.containerMetadata container = match s.metadata? container with
      | some metadata => .ok metadata
      | none => .error (.containerNotFound container) := by
  unfold containerMetadata Store.container metadata?
  cases s.containers.get? container <;> rfl

theorem get_eq (s : Store) (container name : String) :
    s.get container name =
      if s.containerExists container then
        match s.blob? container name with
        | some blob => .ok blob
        | none => .error (.blobNotFound container name)
      else .error (.containerNotFound container) := by
  unfold Store.get Store.container containerExists NameTable.contains blob?
  cases s.containers.get? container <;> rfl

/-- A store and a history that say the same of every place. -/
structure Agrees (s : Store) (h : History) : Prop where
  metadata : ∀ container, s.metadata? container = h.metadata? container
  blob : ∀ container name, s.blob? container name = h.blob? container name
  service : s.service = h.service
  unwritten : ∀ container name, h.lastWrite? container name = none →
    h.lastLabel? container name = none

theorem agrees_new (config : Config) : Agrees (new config) [] where
  metadata _ := rfl
  blob _ _ := rfl
  service := rfl
  unwritten _ _ _ := rfl

theorem Agrees.step {s next : Store} {h : History} {e : Event} (agrees : Agrees s h)
    (moves : Moves s next e) : Agrees next (e :: h) := by
  constructor
  · intro container
    rw [moves.metadata, agrees.metadata, History.metadata?_cons]
  · intro container name
    rw [moves.blob, agrees.blob, History.blob?_cons (agrees.unwritten container name)]
  · rw [moves.service, agrees.service, History.service_cons]
  · intro container name missing
    rw [History.lastWrite?_cons] at missing
    rw [History.lastLabel?_cons]
    split
    · rfl
    · rename_i kept
      rw [if_neg kept, Option.or_eq_none_iff] at missing
      obtain ⟨write, before⟩ := missing
      rw [Option.or_eq_none_iff]
      refine ⟨?_, agrees.unwritten container name before⟩
      -- A label without a write is given to a blob that is there, and so was written before.
      cases given : e.labelled? container name with
      | none => rfl
      | some metadata =>
        have there := moves.written container name (by simp [given]) write
        rw [agrees.blob, History.blob?, before] at there
        exact absurd rfl there

theorem Agrees.run {s : Store} {h : History} (agrees : Agrees s h) (operations : List Operation) :
    Agrees (s.run operations).2
      ((List.zipWith Event.mk operations (s.run operations).1).reverse ++ h) := by
  induction operations generalizing s h with
  | nil => exact agrees
  | cons operation rest ih =>
    have later := ih (agrees.step (moves_of_step s operation))
    rw [Store.run, List.zipWith_cons_cons, List.reverse_cons, List.append_assoc]
    exact later

theorem agrees_history (config : Config) (operations : List Operation) :
    Agrees (after config operations) (history config operations) := by
  have agrees := (agrees_new config).run operations
  rwa [List.append_nil] at agrees

theorem containers_eq {s t : Store}
    (metadata : ∀ container, s.metadata? container = t.metadata? container)
    (blob : ∀ container name, s.blob? container name = t.blob? container name) :
    s.containers = t.containers := by
  apply NameTable.ext_get?
  intro container
  have described := metadata container
  have stored := blob container
  unfold metadata? at described
  unfold blob? at stored
  cases found : s.containers.get? container with
  | none =>
    rw [found] at described
    exact (Option.map_eq_none_iff.1 described.symm).symm
  | some held =>
    rw [found] at described
    obtain ⟨other, there, same⟩ := Option.map_eq_some_iff.1 described.symm
    have blobs : held.blobs = other.blobs := by
      apply NameTable.ext_get?
      intro name
      have here := stored name
      rw [found, there] at here
      exact here
    rw [there]
    cases held
    cases other
    cases same
    cases blobs
    rfl

theorem step_of_lastTag {s : Store} {operation : Operation} (read : operation.isRead = true)
    (tag : Tag) :
    ({ s with lastTag := tag }.step operation).1 = (s.step operation).1 := by
  have list (query : Listing.Query) (cursor : Option Listing.Cursor) :
      { s with lastTag := tag }.list query cursor = s.list query cursor := rfl
  have pagesFrom (query : Listing.Query) (limit : Nat) (cursor : Option Listing.Cursor) :
      { s with lastTag := tag }.pagesFrom query limit cursor = s.pagesFrom query limit cursor := by
    induction limit generalizing cursor with
    | zero => rfl
    | succ limit ih => simp only [Store.pagesFrom, list, ih]
  have pages (query : Listing.Query) : { s with lastTag := tag }.pages query = s.pages query :=
    pagesFrom query _ none
  have get (container name : String) :
      { s with lastTag := tag }.get container name = s.get container name := rfl
  have same (name : String) :
      { s with lastTag := tag }.containerMetadata name = s.containerMetadata name := rfl
  cases operation with
  | createContainer _ | deleteContainer _ | setContainerMetadata _ _ | put _ _ _ _ _ | delete _ _
  | setMetadata _ _ _ | setService _ => cases read
  | list query cursor =>
    rw [step, step, apply, apply, list]
    cases s.list query cursor <;> rfl
  | pages query =>
    rw [step, step, apply, apply, pages]
    cases s.pages query <;> rfl
  | listAll query =>
    rw [step, step, apply, apply, listAll, listAll, pages]
    cases s.pages query <;> rfl
  | containerMetadata name =>
    rw [step, step, apply, apply, same]
    cases s.containerMetadata name <;> rfl
  | get container name =>
    rw [step, step, apply, apply, get]
    cases s.get container name <;> rfl
  | containerExists _ | containerNames | service | blobCount _ | size | inspect => rfl

theorem answer_eq {s t : Store} (config : s.config = t.config)
    (containers : s.containers = t.containers) (service : s.service = t.service)
    {operation : Operation} (read : operation.isRead = true) :
    (s.step operation).1 = (t.step operation).1 := by
  cases s
  cases t
  cases config
  cases containers
  cases service
  exact (step_of_lastTag read _).symm

/-- Two histories that say the same of every place. -/
structure History.Alike (h k : History) : Prop where
  metadata : ∀ container, h.metadata? container = k.metadata? container
  blob : ∀ container name, h.blob? container name = k.blob? container name
  service : h.service = k.service

theorem History.isSome_metadata? (h : History) (container : String) :
    (h.metadata? container).isSome = h.stands container := by
  unfold metadata?
  cases h.stands container <;> rfl

theorem answer_of_alike {config : Config} {operations others : List Operation}
    (alike : (history config operations).Alike (history config others)) {operation : Operation}
    (read : operation.isRead = true) :
    ((after config operations).step operation).1 = ((after config others).step operation).1 := by
  have first := agrees_history config operations
  have second := agrees_history config others
  have containers : (after config operations).containers = (after config others).containers := by
    apply containers_eq
    · intro container
      exact (first.metadata container).trans
        ((alike.metadata container).trans (second.metadata container).symm)
    · intro container name
      exact (first.blob container name).trans
        ((alike.blob container name).trans (second.blob container name).symm)
  have service : (after config operations).service = (after config others).service :=
    first.service.trans (alike.service.trans second.service.symm)
  have configured : (after config operations).config = (after config others).config :=
    (config_run (new config) operations).trans (config_run (new config) others).symm
  exact answer_eq configured containers service read

def History.Accepts (h : History) : Operation → Prop
  | .setContainerMetadata container _ | .delete container _ => h.stands container = true
  | .put container name _ _ _ => name ≠ "" ∧ h.stands container = true
  | .setMetadata container name _ => h.blob? container name ≠ none
  | _ => True

theorem Agrees.exists_eq {s : Store} {h : History} (agrees : Agrees s h) (container : String) :
    s.containerExists container = h.stands container := by
  rw [containerExists_eq, agrees.metadata, History.isSome_metadata?]

theorem Agrees.stands_iff {s : Store} {h : History} (agrees : Agrees s h) (container : String) :
    h.stands container = true ↔ ∃ held, s.containers.get? container = some held := by
  rw [← agrees.exists_eq]
  exact Option.isSome_iff_exists

private theorem succeeds_map_iff {ε α β : Type} {result : Except ε α} {f : α → β × Store} :
    (∃ reply next, result.map f = .ok (reply, next)) ↔ ∃ value, result = .ok value := by
  cases result with
  | error error => simp [Except.map]
  | ok value => exact iff_of_true ⟨_, _, rfl⟩ ⟨value, rfl⟩

theorem Agrees.accepted_iff {s : Store} {h : History} (agrees : Agrees s h)
    {operation : Operation} (write : operation.isRead = false) :
    (∃ reply next, s.apply operation = .ok (reply, next)) ↔ h.Accepts operation := by
  cases operation with
  | createContainer _ | deleteContainer _ | setService _ => exact iff_of_true ⟨_, _, rfl⟩ trivial
  | setContainerMetadata container metadata =>
    rw [apply, succeeds_map_iff, History.Accepts, agrees.stands_iff]
    constructor
    · intro done
      obtain ⟨_, done⟩ := done
      obtain ⟨held, found, _⟩ := setContainerMetadata_eq_ok_iff.1 done
      exact ⟨held, found⟩
    · intro standing
      obtain ⟨held, found⟩ := standing
      exact ⟨_, setContainerMetadata_eq_ok_iff.2 ⟨held, found, rfl⟩⟩
  | put container name content metadata now =>
    rw [apply, succeeds_map_iff, History.Accepts, agrees.stands_iff]
    constructor
    · intro done
      obtain ⟨_, done⟩ := done
      obtain ⟨named, held, found, _⟩ := put_eq_ok_iff.1 done
      exact ⟨named, held, found⟩
    · intro standing
      obtain ⟨named, held, found⟩ := standing
      exact ⟨(_, _), put_eq_ok_iff.2 ⟨named, held, found, rfl, rfl⟩⟩
  | delete container name =>
    rw [apply, succeeds_map_iff, History.Accepts, agrees.stands_iff]
    constructor
    · intro done
      obtain ⟨_, done⟩ := done
      obtain ⟨held, found, _⟩ := delete_eq_ok_iff.1 done
      exact ⟨held, found⟩
    · intro standing
      obtain ⟨held, found⟩ := standing
      exact ⟨(_, _), delete_eq_ok_iff.2 ⟨held, found, rfl, rfl⟩⟩
  | setMetadata container name metadata =>
    rw [apply, succeeds_map_iff, History.Accepts, ← agrees.blob]
    constructor
    · intro done
      obtain ⟨_, done⟩ := done
      obtain ⟨held, blob, found, there, _⟩ := setMetadata_eq_ok_iff.1 done
      rw [blob?_of_get? found, there]
      exact Option.some_ne_none blob
    · intro there
      obtain ⟨blob, there⟩ := Option.ne_none_iff_exists'.1 there
      obtain ⟨held, found, there⟩ := Option.bind_eq_some_iff.1 there
      exact ⟨_, setMetadata_eq_ok_iff.2 ⟨held, blob, found, there, rfl⟩⟩
  | _ => cases write

theorem flags_eq (s : Store) (container : String) :
    (s.createContainer container).1 = !s.containerExists container ∧
      (s.deleteContainer container).1 = s.containerExists container := by
  refine ⟨?_, rfl⟩
  cases there : s.containerExists container with
  | true => rw [createContainer_of_exists there]; rfl
  | false => rw [createContainer_of_not_exists there]; rfl

/-- After any run from a new store, what can be read is what the history says: which containers
exist, the blob at every address or the reason that there is none, the metadata of containers and
the service properties. No read tells two runs apart whose histories say the same of every place.
What counts in the history is settled by it as well: creations and deletions take effect just where
they change something, other changes are accepted just where they have something to change, and
creating a container that stands changes nothing. -/
theorem reads_of_history (config : Config) (operations : List Operation) :
    (∀ container, (after config operations).containerExists container =
        (history config operations).stands container) ∧
      (∀ container name, (after config operations).get container name =
        if (history config operations).stands container then
          match (history config operations).blob? container name with
          | some blob => .ok blob
          | none => .error (.blobNotFound container name)
        else .error (.containerNotFound container)) ∧
      (∀ container, (after config operations).containerMetadata container =
        match (history config operations).metadata? container with
        | some metadata => .ok metadata
        | none => .error (.containerNotFound container)) ∧
      (after config operations).service = (history config operations).service ∧
      (∀ others, (history config operations).Alike (history config others) →
        ∀ operation : Operation, operation.isRead = true →
          ((after config operations).step operation).1 =
            ((after config others).step operation).1) ∧
      (∀ container, ((after config operations).createContainer container).1 =
          !(history config operations).stands container ∧
        ((after config operations).deleteContainer container).1 =
          (history config operations).stands container) ∧
      (∀ operation : Operation, operation.isRead = false →
        ((∃ reply next, (after config operations).apply operation = .ok (reply, next)) ↔
          (history config operations).Accepts operation)) ∧
      ∀ container, (history config operations).stands container = true →
        (after config operations).createContainer container = (false, after config operations) := by
  have agrees := agrees_history config operations
  refine ⟨agrees.exists_eq, ?_, ?_, agrees.service, ?_, ?_, ?_, ?_⟩
  · intro container name
    rw [get_eq, agrees.exists_eq, agrees.blob]
  · intro container
    rw [containerMetadata_eq, agrees.metadata]
  · intro others alike operation read
    exact answer_of_alike alike read
  · intro container
    rw [← agrees.exists_eq]
    exact flags_eq _ container
  · intro operation write
    exact agrees.accepted_iff write
  · intro container standing
    rw [createContainer, if_pos ((agrees.exists_eq container).trans standing)]

/-- A blob that is written with metadata, labelled anew and written again without metadata. -/
def rewrites : List Operation :=
  [.createContainer "c", .put "c" "x" [1] (some FoldedMap.empty) .epoch,
    .setMetadata "c" "x" (FoldedMap.ofList [("k", "v")]), .put "c" "x" [2] none .epoch]

/-- The last write keeps the metadata. A container that is created again and a label for a blob that
is not there change no answer. -/
theorem reads_of_history_rewrites :
    (∃ blob, (after {} rewrites).get "c" "x" = .ok blob ∧ blob.content = [2] ∧
        blob.tag = ⟨2⟩ ∧ blob.metadata = FoldedMap.ofList [("k", "v")]) ∧
      (after {} rewrites).containerExists "d" = false ∧
      (after {} rewrites).createContainer "c" = (false, after {} rewrites) ∧
      (∃ reply next, (after {} rewrites).apply (.delete "c" "y") = .ok (reply, next)) ∧
      ∀ query, ((after {} rewrites).step (.listAll query)).1 =
        ((after {} (rewrites ++ [.createContainer "c", .setMetadata "c" "y" FoldedMap.empty])).step
          (.listAll query)).1 := by
  obtain ⟨stands, blobs, _, _, determined, _, accepted, again⟩ := reads_of_history {} rewrites
  have longer : history {} (rewrites ++ [.createContainer "c",
      .setMetadata "c" "y" FoldedMap.empty]) =
      ⟨.setMetadata "c" "y" FoldedMap.empty, .error (.blobNotFound "c" "y")⟩ ::
        ⟨.createContainer "c", .ok (.flag false)⟩ :: history {} rewrites := rfl
  have alike : (history {} rewrites).Alike (history {} (rewrites ++ [.createContainer "c",
      .setMetadata "c" "y" FoldedMap.empty])) := by
    rw [longer]
    constructor <;> intros <;> rfl
  refine ⟨?_, ?_, again "c" rfl, (accepted (.delete "c" "y") rfl).2 rfl,
    fun query => determined _ alike (.listAll query) rfl⟩
  · rw [blobs]
    exact ⟨_, rfl, rfl, rfl, rfl⟩
  · rw [stands]
    rfl

end BlobDispatch.Store
