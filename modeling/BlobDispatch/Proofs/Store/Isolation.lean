import BlobDispatch.Proofs.Store.Mirror
import BlobDispatch.Proofs.Store.Reads
import BlobDispatch.Proofs.Store.Renumbering

/-! Containers do not see each other. All containers are in one state and take their tags from one
count, and yet what happens in the others cannot be told from anything that a run answers about a
container: leaving the operations on the others out changes the tags alone, and not their order. -/

namespace BlobDispatch.Store

/-- An operation that is not about another container. -/
def Operation.spares (c : String) (operation : Operation) : Bool :=
  operation.container?.all (· = c)

def Event.retag (f : Tag → Tag) (e : Event) : Event :=
  { e with answer := e.answer.map (Reply.retag f) }

def Event.returned (e : Event) : List Blob :=
  match e.answer with
  | .ok reply => reply.returned
  | .error _ => []

theorem Event.returned_retag (f : Tag → Tag) (e : Event) :
    (e.retag f).returned = e.returned.map (Blob.retag f) := by
  obtain ⟨operation, answer⟩ := e
  cases answer with
  | error error => rfl
  | ok reply => exact reply.returned_retag f

theorem Event.written?_retag (f : Tag → Tag) (e : Event) :
    (e.retag f).written? = e.written?.map (Blob.retag f) := by
  obtain ⟨operation, answer⟩ := e
  cases answer with
  | error error => rfl
  | ok reply =>
    cases operation with
    | put _ _ _ _ _ => cases reply <;> rfl
    | _ => rfl

theorem Event.put_of_written {e : Event} {blob : Blob} (written : e.written? = some blob) :
    ∃ container name content metadata now,
      e.operation = .put container name content metadata now := by
  obtain ⟨operation, answer⟩ := e
  cases answer with
  | error error => cases written
  | ok reply =>
    cases operation with
    | put container name content metadata now =>
      exact ⟨container, name, content, metadata, now, rfl⟩
    | _ => cases written

/-- The operations of a run about a container, with their answers. -/
def eventsIn (s : Store) (c : String) (operations : List Operation) : List Event :=
  (s.events operations).filter fun e => e.operation.container? = some c

def tagsIn (s : Store) (c : String) (operations : List Operation) : List Tag :=
  ((s.eventsIn c operations).filterMap Event.written?).map Blob.tag

def Bears (s : Store) (c : String) (tags : List Tag) : Prop :=
  ∀ name blob, s.blob? c name = some blob → blob.tag ∈ tags

section Step

variable {f : Tag → Tag} {c : String} {s t : Store} {operation : Operation}

theorem get?_of_elsewhere (elsewhere : operation.container? ≠ some c) :
    (s.step operation).2.containers.get? c = s.containers.get? c := by
  have apart {name : String} (about : operation.container? = some name) : c ≠ name :=
    fun same => elsewhere (same ▸ about)
  unfold step
  split
  · rename_i reply next done
    cases operation with
    | createContainer name =>
      cases done
      rw [get?_createContainer, if_neg (apart rfl), Option.or_none]
    | deleteContainer name =>
      cases done
      exact NameTable.get?_erase_of_ne (apart rfl)
    | setContainerMetadata name metadata =>
      obtain ⟨_, changed, same⟩ := map_eq_ok_iff.1 done
      cases same
      obtain ⟨_, _, rfl⟩ := setContainerMetadata_eq_ok_iff.1 changed
      exact NameTable.get?_insert_of_ne (apart rfl)
    | put container _ _ _ _ =>
      obtain ⟨⟨_, _⟩, changed, same⟩ := map_eq_ok_iff.1 done
      cases same
      obtain ⟨_, _, _, _, rfl⟩ := put_eq_ok_iff.1 changed
      exact NameTable.get?_insert_of_ne (apart rfl)
    | delete container _ =>
      obtain ⟨⟨_, _⟩, changed, same⟩ := map_eq_ok_iff.1 done
      cases same
      obtain ⟨_, _, _, rfl⟩ := delete_eq_ok_iff.1 changed
      exact NameTable.get?_insert_of_ne (apart rfl)
    | setMetadata container _ _ =>
      obtain ⟨_, changed, same⟩ := map_eq_ok_iff.1 done
      cases same
      obtain ⟨_, _, _, _, rfl⟩ := setMetadata_eq_ok_iff.1 changed
      exact NameTable.get?_insert_of_ne (apart rfl)
    | containerMetadata _ | get _ _ | list _ _ | pages _ | listAll _ =>
      obtain ⟨_, _, same⟩ := map_eq_ok_iff.1 done
      cases same
      rfl
    | containerExists _ | containerNames | service | setService _ | blobCount _ | size
    | inspect =>
      cases done
      rfl
  · rfl

theorem config_of_step (s : Store) (operation : Operation) :
    (s.step operation).2.config = s.config :=
  config_of_effect (effect_of_step s operation)

theorem wellFormed_of_step (placed : s.WellFormed) (operation : Operation) :
    (s.step operation).2.WellFormed :=
  wellFormed_of_effect (effect_of_step s operation) placed

/-- The full run goes on elsewhere. -/
theorem Mirrors.elsewhere (mirrors : Mirrors f c s t) (elsewhere : operation.container? ≠ some c) :
    Mirrors f c (s.step operation).2 t where
  config := by rw [config_of_step, mirrors.config]
  container := by rw [get?_of_elsewhere elsewhere, mirrors.container]
  alone := mirrors.alone

/-- Both runs go on with an operation that is about no container. -/
theorem Mirrors.nowhere (mirrors : Mirrors f c s t) (nowhere : operation.container? = none) :
    Mirrors f c (s.step operation).2 (t.step operation).2 := by
  have apart (name : String) : operation.container? ≠ some name := by
    rw [nowhere]
    exact nofun
  have first := mirrors.elsewhere (apart c)
  refine ⟨?_, ?_, ?_⟩
  · rw [config_of_step, first.config]
  · rw [get?_of_elsewhere (apart c), first.container]
  · intro other away
    rw [get?_of_elsewhere (apart other)]
    exact first.alone other away

theorem Mirrors.step (mirrors : Mirrors f c s t) (placed : s.WellFormed)
    (about : operation.container? = some c)
    (taken : ∀ blob, Event.written? ⟨operation, (s.step operation).1⟩ = some blob →
      f blob.tag = t.lastTag.next) :
    (t.step operation).1 = (s.step operation).1.map (Reply.retag f) ∧
      Mirrors f c (s.step operation).2 (t.step operation).2 := by
  have matched : Matches f c (s.apply operation) (t.apply operation) := by
    refine mirrors.apply placed about fun reply next blob done written => taken blob ?_
    rw [Event.written?, Store.step, done]
    exact written
  unfold Store.step
  generalize s.apply operation = first at matched ⊢
  generalize t.apply operation = second at matched ⊢
  cases matched with
  | refused error => exact ⟨rfl, mirrors⟩
  | answered same following => exact ⟨congrArg Except.ok same, following⟩

theorem holds_of_returned (placed : s.WellFormed) {blob : Blob}
    (shown : blob ∈ Event.returned ⟨operation, (s.step operation).1⟩) :
    (s.step operation).2.Holds blob := by
  unfold Store.step at *
  split at shown
  · rename_i done
    exact holds_of_apply placed done shown
  · cases shown

theorem Mirrors.stored (mirrors : Mirrors f c s t) (placed : s.WellFormed)
    (about : operation.container? = some c)
    (taken : ∀ blob, Event.written? ⟨operation, (s.step operation).1⟩ = some blob →
      f blob.tag = t.lastTag.next) {blob : Blob}
    (shown : blob ∈ Event.returned ⟨operation, (s.step operation).1⟩) :
    (s.step operation).2.blob? c blob.name = some blob := by
  obtain ⟨same, following⟩ := mirrors.step placed about taken
  have again : blob.retag f ∈ Event.returned ⟨operation, (t.step operation).1⟩ := by
    rw [same]
    have retagged := Event.returned_retag f ⟨operation, (s.step operation).1⟩
    exact retagged ▸ List.mem_map_of_mem shown
  obtain ⟨held, found, _⟩ :=
    blob?_eq_some_iff.1 (holds_of_returned (mirrors.wellFormed placed) again)
  -- The other store has no container besides this one, and yet has shown the same blob.
  have here : blob.container = c := by
    by_contra away
    cases found.symm.trans (following.alone _ away)
  rw [← here]
  exact holds_of_returned placed shown

theorem Bears.step {tags : List Tag} (bears : s.Bears c tags) (placed : s.WellFormed)
    (given : ∀ blob, operation.container? = some c →
      Event.written? ⟨operation, (s.step operation).1⟩ = some blob → blob.tag ∈ tags) :
    (s.step operation).2.Bears c tags := by
  intro name blob stored
  by_cases about : operation.container? = some c
  · have later := wellFormed_of_step placed operation
    have here := (later.isAt stored).container_eq
    rcases (tracks_of_step s operation).kept blob (holds_of_blob? later stored) with
      new | ⟨before, there, same, _⟩
    · exact given blob about new
    · rw [← same.tag_eq]
      apply bears before.name before
      rw [← here, ← same.container_eq]
      exact there
  · apply bears name blob
    rwa [blob?, get?_of_elsewhere about] at stored

end Step

section Run

variable {f : Tag → Tag} {c : String} {s t : Store} {operation : Operation}
  {operations rest : List Operation} {tags : List Tag}

theorem eventsIn_cons_of_about (about : operation.container? = some c) :
    s.eventsIn c (operation :: rest) =
      ⟨operation, (s.step operation).1⟩ :: (s.step operation).2.eventsIn c rest := by
  rw [eventsIn, events_cons, List.filter_cons_of_pos (by simpa using about)]
  rfl

theorem eventsIn_cons_of_elsewhere (elsewhere : operation.container? ≠ some c) :
    s.eventsIn c (operation :: rest) = (s.step operation).2.eventsIn c rest := by
  rw [eventsIn, events_cons, List.filter_cons_of_neg (by simpa using elsewhere)]
  rfl

theorem tagsIn_cons_of_about (about : operation.container? = some c) :
    s.tagsIn c (operation :: rest) =
      (Event.written? ⟨operation, (s.step operation).1⟩).toList.map Blob.tag ++
        (s.step operation).2.tagsIn c rest := by
  rw [tagsIn, eventsIn_cons_of_about about, List.filterMap_cons]
  cases Event.written? ⟨operation, (s.step operation).1⟩ <;> rfl

theorem tagsIn_cons_of_elsewhere (elsewhere : operation.container? ≠ some c) :
    s.tagsIn c (operation :: rest) = (s.step operation).2.tagsIn c rest := by
  rw [tagsIn, eventsIn_cons_of_elsewhere elsewhere]
  rfl

/-- The two runs up to a point: one store mirrors the other, and the tags that the rest of the full
run gives out in the container stand for the next ones of the other. -/
structure Follows (f : Tag → Tag) (c : String) (tags : List Tag) (s t : Store)
    (operations : List Operation) : Prop where
  mirrors : Mirrors f c s t
  wellFormed : s.WellFormed
  bears : s.Bears c tags
  given : ∀ tag ∈ s.tagsIn c operations, tag ∈ tags
  renumbered : Renumbers f t.lastTag (s.tagsIn c operations)

theorem Follows.elsewhere (follows : Follows f c tags s t (operation :: rest))
    (elsewhere : operation.container? ≠ some c) :
    Follows f c tags (s.step operation).2 t rest where
  mirrors := follows.mirrors.elsewhere elsewhere
  wellFormed := wellFormed_of_step follows.wellFormed operation
  bears := follows.bears.step follows.wellFormed fun _ about => absurd about elsewhere
  given := tagsIn_cons_of_elsewhere elsewhere ▸ follows.given
  renumbered := tagsIn_cons_of_elsewhere elsewhere ▸ follows.renumbered

theorem Follows.nowhere (follows : Follows f c tags s t (operation :: rest))
    (nowhere : operation.container? = none) :
    Follows f c tags (s.step operation).2 (t.step operation).2 rest := by
  have later := follows.elsewhere (by rw [nowhere]; exact nofun)
  refine ⟨follows.mirrors.nowhere nowhere, later.wellFormed, later.bears, later.given, ?_⟩
  have unwritten : Event.written? ⟨operation, (t.step operation).1⟩ = none := by
    apply Option.eq_none_iff_forall_ne_some.2
    intro blob written
    obtain ⟨_, _, _, _, _, rfl⟩ := Event.put_of_written written
    cases nowhere
  rw [(tracks_of_step t operation).last, unwritten]
  exact later.renumbered

theorem Follows.taken (follows : Follows f c tags s t (operation :: rest))
    (about : operation.container? = some c) {blob : Blob}
    (written : Event.written? ⟨operation, (s.step operation).1⟩ = some blob) :
    f blob.tag = t.lastTag.next := by
  have renumbered := follows.renumbered
  rw [tagsIn_cons_of_about about, written] at renumbered
  cases renumbered with
  | cons next _ => exact next

theorem Follows.about (follows : Follows f c tags s t (operation :: rest))
    (about : operation.container? = some c) :
    Follows f c tags (s.step operation).2 (t.step operation).2 rest := by
  obtain ⟨same, mirrors⟩ :=
    follows.mirrors.step follows.wellFormed about fun _ => follows.taken about
  have given := follows.given
  have renumbered := follows.renumbered
  rw [tagsIn_cons_of_about about] at given renumbered
  refine ⟨mirrors, wellFormed_of_step follows.wellFormed operation, ?_,
    fun tag later => given tag (List.mem_append_right _ later), ?_⟩
  · refine follows.bears.step follows.wellFormed fun blob _ written => ?_
    rw [written] at given
    exact given blob.tag (List.mem_append_left _ (List.mem_singleton_self _))
  · have retagged := Event.written?_retag f ⟨operation, (s.step operation).1⟩
    rw [Event.retag, ← same] at retagged
    rw [(tracks_of_step t operation).last, retagged]
    cases written : Event.written? ⟨operation, (s.step operation).1⟩ with
    | none => rwa [written] at renumbered
    | some blob =>
      rw [written] at renumbered
      cases renumbered with
      | cons next later =>
        have tag : (blob.retag f).tag = t.lastTag.next := next
        simpa [tag] using later

/-- Over a whole run the events about the container are the same but for their tags, and every tag
that they show is one of a write to it. -/
theorem Follows.run (follows : Follows f c tags s t operations) :
    t.eventsIn c (operations.filter (·.spares c)) =
        (s.eventsIn c operations).map (Event.retag f) ∧
      Follows f c tags (s.run operations).2 (t.run (operations.filter (·.spares c))).2 [] ∧
      ∀ e ∈ s.eventsIn c operations, ∀ blob ∈ e.returned, blob.tag ∈ tags := by
  induction operations generalizing s t with
  | nil => exact ⟨rfl, follows, List.forall_mem_nil _⟩
  | cons operation rest ih =>
    by_cases about : operation.container? = some c
    · have next := follows.about about
      obtain ⟨events, last, shown⟩ := ih next
      have kept : operation.spares c = true := by simp [Operation.spares, about]
      rw [List.filter_cons_of_pos kept, eventsIn_cons_of_about about, eventsIn_cons_of_about about,
        events]
      refine ⟨?_, last, ?_⟩
      · have same := (follows.mirrors.step follows.wellFormed about fun _ => follows.taken about).1
        rw [List.map_cons, Event.retag, ← same]
      · intro e member blob given
        rcases List.mem_cons.1 member with rfl | inside
        · have stored := follows.mirrors.stored follows.wellFormed about
            (fun _ => follows.taken about) given
          exact next.bears blob.name blob stored
        · exact shown e inside blob given
    · cases place : operation.container? with
      | none =>
        obtain ⟨events, last, shown⟩ := ih (follows.nowhere place)
        have kept : operation.spares c = true := by simp [Operation.spares, place]
        rw [List.filter_cons_of_pos kept, eventsIn_cons_of_elsewhere about,
          eventsIn_cons_of_elsewhere about]
        exact ⟨events, last, shown⟩
      | some other =>
        obtain ⟨events, last, shown⟩ := ih (follows.elsewhere about)
        have left : ¬operation.spares c = true := by
          rw [place, Option.some_inj] at about
          simpa [Operation.spares, place] using about
        rw [List.filter_cons_of_neg left, eventsIn_cons_of_elsewhere about]
        exact ⟨events, last, shown⟩

theorem tagsIn_sublist (s : Store) (c : String) (operations : List Operation) :
    (s.tagsIn c operations).Sublist ((s.writes operations).map Blob.tag) :=
  (List.filter_sublist.filterMap _).map _

end Run

/-- What happens in other containers does not show in a container. Take a run from a new store and
the same run without the operations on other containers. The operations about the container answer
the same in both, pages, cursors and errors included, but for a relabelling of the tags that keeps
their order; the container is the same at the end; and so is every answer about it that is asked
for then. -/
theorem container_isolated (config : Config) (c : String) {operations : List Operation}
    (few : ((new config).writes operations).length < 2 ^ 64) :
    ∃ relabel : Tag → Tag,
      (∀ a ∈ (new config).tagsIn c operations, ∀ b ∈ (new config).tagsIn c operations,
        (compare (relabel a) (relabel b) = .lt ↔ compare a b = .lt)) ∧
      (∀ e ∈ (new config).eventsIn c operations, ∀ blob ∈ e.returned,
        blob.tag ∈ (new config).tagsIn c operations) ∧
      (new config).eventsIn c (operations.filter (·.spares c)) =
        ((new config).eventsIn c operations).map (Event.retag relabel) ∧
      (after config (operations.filter (·.spares c))).containers.get? c =
        ((after config operations).containers.get? c).map (Container.retag relabel) ∧
      ∀ operation : Operation, operation.container? = some c → operation.isRead = true →
        ((after config (operations.filter (·.spares c))).step operation).1 =
          ((after config operations).step operation).1.map (Reply.retag relabel) ∧
        ∀ blob ∈ Event.returned ⟨operation, ((after config operations).step operation).1⟩,
          blob.tag ∈ (new config).tagsIn c operations := by
  have sublist := tagsIn_sublist (new config) c operations
  have fewer : ((new config).tagsIn c operations).length < 2 ^ 64 := by
    have bound := sublist.length_le
    rw [List.length_map] at bound
    omega
  have ascending : ((new config).tagsIn c operations).Pairwise fun a b => a.number < b.number := by
    refine List.Pairwise.sublist sublist (List.pairwise_map.2 (writes_ascending ?_).1)
    rw [show (new config).lastTag.number = 0 from rfl, Nat.zero_add]
    exact few
  have follows : Follows (Tag.rank ((new config).tagsIn c operations)) c
      ((new config).tagsIn c operations) (new config) (new config) operations :=
    { mirrors := ⟨rfl, rfl, fun _ _ => rfl⟩
      wellFormed := (marked_new config).wellFormed
      bears := fun _ _ stored => by cases stored
      given := fun _ member => member
      renumbered := renumbers_rank ascending fewer }
  -- One relabelling serves for the whole run: it is made of all the tags that the run will give.
  obtain ⟨events, last, shown⟩ := follows.run
  refine ⟨_, fun _ _ _ member => rank_lt_iff fewer member, shown, events,
    last.mirrors.container, ?_⟩
  intro operation about read
  have unwritten : ∀ blob,
      Event.written? ⟨operation, ((after config operations).step operation).1⟩ = some blob →
        Tag.rank ((new config).tagsIn c operations) blob.tag =
          (after config (operations.filter (·.spares c))).lastTag.next := by
    intro blob written
    obtain ⟨_, _, _, _, _, rfl⟩ := Event.put_of_written written
    cases read
  refine ⟨(last.mirrors.step last.wellFormed about unwritten).1, ?_⟩
  intro blob given
  have stored := last.mirrors.stored last.wellFormed about unwritten given
  rw [blob?, step_of_isRead read] at stored
  exact last.bears blob.name blob stored

/-- Writes to two containers in turn, with a directory listing of the one in between. -/
def alternating : List Operation :=
  [.createContainer "c", .createContainer "d", .put "d" "x" [1] none .epoch,
    .put "c" "a/x" [2] none .epoch, .put "d" "a/x" [3] none .epoch,
    .list ((Listing.Query.ofAccount "c/").hierarchical.withMaxResults 1) none,
    .put "c" "b" [4] none .epoch, .deleteContainer "d"]

theorem container_isolated_alternating :
    ((new {}).writes alternating).length < 2 ^ 64 ∧
      (new {}).tagsIn "c" alternating = [⟨2⟩, ⟨4⟩] ∧
      ∃ relabel : Tag → Tag, relabel ⟨2⟩ = ⟨1⟩ ∧ relabel ⟨4⟩ = ⟨2⟩ ∧
        (new {}).eventsIn "c" (alternating.filter (·.spares "c")) =
          ((new {}).eventsIn "c" alternating).map (Event.retag relabel) ∧
        ((after {} (alternating.filter (·.spares "c"))).step (.get "c" "b")).1 =
          ((after {} alternating).step (.get "c" "b")).1.map (Reply.retag relabel) := by
  have few : ((new {}).writes alternating).length < 2 ^ 64 := by decide
  obtain ⟨relabel, _, _, events, _, later⟩ := container_isolated {} "c" few
  have tags : [⟨1⟩, ⟨2⟩] = [relabel ⟨2⟩, relabel ⟨4⟩] :=
    congrArg (fun events => (events.filterMap Event.written?).map Blob.tag) events
  obtain ⟨first, rest⟩ := List.cons.inj tags
  obtain ⟨second, _⟩ := List.cons.inj rest
  exact ⟨few, rfl, relabel, first.symm, second.symm, events, (later (.get "c" "b") rfl rfl).1⟩

end BlobDispatch.Store
