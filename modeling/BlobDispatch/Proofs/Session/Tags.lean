import BlobDispatch.Proofs.Session.Step
import BlobDispatch.Proofs.Store.Tags

/-! Tags over a whole run. The tags that a run gives out are numbered one after another, whatever is
deleted and created again in between, so a tag names one write for as long as the count has not
wrapped: two blobs that are returned at any two moments with one tag are versions of one write. -/

namespace BlobDispatch.Session

open Store (Tracks)

def written? : Request → Except Error Response → Option Blob
  | .store operation, .ok (.store reply) => operation.written? reply
  | _, _ => none

/-- The tags that a run gives out, in order: those of its successful writes. -/
def issued (s : Session) (requests : List Request) : List Tag :=
  (List.zipWith written? requests (s.run requests).1).filterMap (·.map Blob.tag)

/-- The answer to a request of a run, by its place, returns the blob. -/
def Returns (s : Session) (requests : List Request) (moment : Nat) (blob : Blob) : Prop :=
  ∃ response, (s.run requests).1[moment]? = some (.ok response) ∧ blob ∈ response.returned

/-- A request of a run, by its place, gives new metadata to the blob at an address. -/
def Relabels (s : Session) (requests : List Request) (moment : Nat) (container name : String) :
    Prop :=
  ∃ metadata response,
    requests[moment]? = some (.store (.setMetadata container name metadata)) ∧
      (s.run requests).1[moment]? = some (.ok response)

section Step

variable {s next : Session} {request : Request} {response : Response}

theorem written?_of_other (other : ∀ operation, request ≠ .store operation)
    (answer : Except Error Response) : written? request answer = none := by
  cases request with
  | store operation => exact absurd rfl (other operation)
  | _ => rfl

theorem written?_error (request : Request) (error : Error) :
    written? request (.error error) = none := by
  cases request <;> rfl

theorem tracks_of_apply (wellFormed : s.store.WellFormed)
    (done : s.apply request = .ok (response, next)) :
    Tracks s.store next.store (written? request (.ok response)) fun container name =>
      ∃ metadata, request = .store (.setMetadata container name metadata) := by
  by_cases store : ∃ operation, request = .store operation
  · obtain ⟨operation, rfl⟩ := store
    obtain ⟨reply, rfl, applied⟩ := apply_store_eq_ok done
    simpa [written?] using Store.tracks_of_apply applied
  · have other := not_exists.1 store
    obtain ⟨⟨names, same⟩, _⟩ := store_of_apply wellFormed done other
    obtain ⟨last, blobs⟩ := Registry.createAll_same s.store names
    rw [written?_of_other other]
    rw [← same] at last blobs
    exact Store.tracks_of_blobs last blobs

theorem tracks_of_step (wellFormed : s.store.WellFormed) (request : Request) :
    Tracks s.store (s.step request).2.store (written? request (s.step request).1)
      fun container name => ∃ metadata response,
        request = .store (.setMetadata container name metadata) ∧
          (s.step request).1 = .ok response := by
  unfold step
  split
  · rename_i response next done
    have tracks := tracks_of_apply wellFormed done
    simpa using tracks
  · rw [written?_error]
    exact Store.tracks_of_blobs rfl fun _ _ => rfl

theorem wellFormed_of_step (wellFormed : s.store.WellFormed) :
    (s.step request).2.store.WellFormed := by
  unfold step
  split
  · rename_i done
    exact wellFormed_of_apply done wellFormed
  · exact wellFormed

theorem holds_of_step (wellFormed : s.store.WellFormed) (answer : (s.step request).1 = .ok response)
    {blob : Blob} (shown : blob ∈ response.returned) : (s.step request).2.store.Holds blob := by
  unfold step at *
  split at answer
  · rename_i done
    cases answer
    exact holds_of_apply wellFormed done shown
  · cases answer

theorem returned_setMetadata {container name : String} {metadata : Metadata}
    (answer : (s.step (.store (.setMetadata container name metadata))).1 = .ok response) :
    response.returned = [] := by
  unfold step at answer
  split at answer
  · rename_i done
    cases answer
    obtain ⟨_, rfl, applied⟩ := apply_store_eq_ok done
    obtain ⟨_, _, same⟩ := map_eq_ok_iff.1 applied
    cases same
    rfl
  · cases answer

end Step

section Run

variable {s : Session} {request : Request} {rest requests : List Request}

theorem issued_cons (s : Session) (request : Request) (rest : List Request) :
    s.issued (request :: rest) =
      (written? request (s.step request).1).toList.map Blob.tag ++
        (s.step request).2.issued rest := by
  rw [issued, run, List.zipWith_cons_cons, List.filterMap_cons]
  cases written? request (s.step request).1 <;> rfl

/-- The tags are in order so far, and there are enough of them for the rest of the run. -/
structure Ready (s : Session) (requests : List Request) : Prop where
  marked : s.store.Marked
  room : s.store.lastTag.number + (s.issued requests).length < 2 ^ 64

theorem Ready.room_step (ready : Ready s (request :: rest)) :
    s.store.lastTag.number + (written? request (s.step request).1).toList.length < 2 ^ 64 := by
  have room := ready.room
  rw [issued_cons, List.length_append, List.length_map] at room
  omega

theorem Ready.number_step (ready : Ready s (request :: rest)) :
    (s.step request).2.store.lastTag.number =
      s.store.lastTag.number + (written? request (s.step request).1).toList.length :=
  (tracks_of_step ready.marked.wellFormed request).number_last ready.room_step

theorem Ready.step (ready : Ready s (request :: rest)) : Ready (s.step request).2 rest := by
  have tracks := tracks_of_step ready.marked.wellFormed request
  refine ⟨ready.marked.step (wellFormed_of_step ready.marked.wellFormed) tracks ready.room_step, ?_⟩
  have room := ready.room
  rw [issued_cons, List.length_append, List.length_map] at room
  rw [ready.number_step]
  omega

/-- The tags of a run are the numbers that follow the last tag, up to the last tag of its end. -/
theorem numbers_issued (ready : Ready s requests) :
    (s.issued requests).map Tag.number =
        List.range' (s.store.lastTag.number + 1) (s.issued requests).length ∧
      (s.run requests).2.store.lastTag.number =
        s.store.lastTag.number + (s.issued requests).length := by
  induction requests generalizing s with
  | nil => exact ⟨rfl, rfl⟩
  | cons request rest ih =>
    have tracks := tracks_of_step ready.marked.wellFormed request
    have room := ready.room_step
    have next := ready.number_step
    obtain ⟨numbers, last⟩ := ih ready.step
    rw [issued_cons, run]
    cases new : written? request (s.step request).1 with
    | none =>
      rw [new] at next
      rw [next] at numbers last
      exact ⟨numbers, last⟩
    | some blob =>
      rw [new] at next tracks room
      have number := tracks.number_written room
      rw [next] at numbers last
      rw [Option.toList_some, List.map_singleton, List.singleton_append]
      constructor
      · rw [List.map_cons, number, numbers, List.length_cons, List.range'_succ]
        rfl
      · rw [List.length_cons, last, Option.toList_some, List.length_singleton]
        omega

/-- A blob that is returned under a tag from before the run was stored before the run. -/
private theorem held_before (ready : Ready s requests) {moment : Nat} {blob : Blob}
    (returned : s.Returns requests moment blob)
    (known : blob.tag.number ≤ s.store.lastTag.number) :
    ∃ before, s.store.Holds before ∧ before.SameWrite blob ∧
      (before.metadata = blob.metadata ∨
        ∃ k < moment, s.Relabels requests k blob.container blob.name) := by
  induction requests generalizing s moment with
  | nil =>
    obtain ⟨_, answered, _⟩ := returned
    cases answered
  | cons request rest ih =>
    have tracks := tracks_of_step ready.marked.wellFormed request
    cases moment with
    | zero =>
      obtain ⟨response, answered, shown⟩ := returned
      have answer : (s.step request).1 = .ok response := Option.some.inj answered
      have stored := holds_of_step ready.marked.wellFormed answer shown
      obtain ⟨before, there, same, labels⟩ := tracks.before ready.room_step stored known
      refine ⟨before, there, same, .inl ?_⟩
      rcases labels with kept | ⟨metadata, _, rfl, _⟩
      · exact kept
      · rw [returned_setMetadata answer] at shown
        cases shown
    | succ moment =>
      have later : (s.step request).2.Returns rest moment blob := returned
      have next := ready.number_step
      obtain ⟨between, stored, same, labels⟩ := ih ready.step later (by omega)
      rw [← same.tag_eq] at known
      obtain ⟨before, there, sameBefore, labelsBefore⟩ :=
        tracks.before ready.room_step stored known
      refine ⟨before, there, sameBefore.trans same, ?_⟩
      rcases labels with kept | ⟨k, early, relabelled⟩
      · rcases labelsBefore with keptBefore | ⟨metadata, response, asked, answer⟩
        · exact .inl (keptBefore.trans kept)
        · rw [same.container_eq, same.name_eq] at asked
          exact .inr ⟨0, Nat.succ_pos _, metadata, response, congrArg some asked,
            congrArg some answer⟩
      · exact .inr ⟨k + 1, Nat.succ_lt_succ early, relabelled⟩

private theorem same_write (ready : Ready s requests) {first second : Nat} {a b : Blob}
    (order : first ≤ second) (returned : s.Returns requests first a)
    (again : s.Returns requests second b) (equal : a.tag = b.tag) :
    a.SameWrite b ∧ (a.metadata = b.metadata ∨ ∃ k, first < k ∧ k < second ∧
      s.Relabels requests k a.container a.name) := by
  induction requests generalizing s first second with
  | nil =>
    obtain ⟨_, answered, _⟩ := returned
    cases answered
  | cons request rest ih =>
    have marked := ready.step.marked
    cases first with
    | succ first =>
      obtain ⟨second, rfl⟩ := Nat.exists_eq_add_of_le' (Nat.le_trans (Nat.le_add_left 1 _) order)
      obtain ⟨same, labels⟩ := ih ready.step (Nat.le_of_succ_le_succ order) returned again
      refine ⟨same, labels.imp id ?_⟩
      intro relabelled
      obtain ⟨k, early, late, there⟩ := relabelled
      exact ⟨k + 1, Nat.succ_lt_succ early, Nat.succ_lt_succ late, there⟩
    | zero =>
      obtain ⟨response, answered, shown⟩ := returned
      have answer : (s.step request).1 = .ok response := Option.some.inj answered
      have stored := holds_of_step ready.marked.wellFormed answer shown
      cases second with
      | zero =>
        obtain ⟨_, reanswered, reshown⟩ := again
        have reanswer : (s.step request).1 = .ok _ := Option.some.inj reanswered
        have restored := holds_of_step ready.marked.wellFormed reanswer reshown
        cases marked.apart a b stored restored equal
        exact ⟨.refl a, .inl rfl⟩
      | succ second =>
        have known := marked.bounded a stored
        rw [equal] at known
        obtain ⟨before, there, same, labels⟩ := held_before ready.step again known
        cases marked.apart a before stored there (equal.trans same.tag_eq.symm)
        refine ⟨same, labels.imp id ?_⟩
        intro relabelled
        obtain ⟨k, early, there⟩ := relabelled
        rw [← same.container_eq, ← same.name_eq] at there
        exact ⟨k + 1, Nat.succ_pos _, Nat.succ_lt_succ early, there⟩

private theorem issued_of_holds (ready : Ready s requests) {blob : Blob}
    (stored : (s.run requests).2.store.Holds blob) :
    blob.tag ∈ s.issued requests ∨ ∃ before, s.store.Holds before ∧ before.tag = blob.tag := by
  induction requests generalizing s with
  | nil => exact .inr ⟨blob, stored, rfl⟩
  | cons request rest ih =>
    have tracks := tracks_of_step ready.marked.wellFormed request
    rw [issued_cons]
    rcases ih ready.step stored with later | ⟨between, held, same⟩
    · exact .inl (List.mem_append_right _ later)
    · rcases tracks.kept between held with new | ⟨before, there, one, _⟩
      · left
        rw [new, ← same]
        exact List.mem_append_left _ (List.mem_singleton_self _)
      · exact .inr ⟨before, there, one.tag_eq.trans same⟩

private theorem marked_run (ready : Ready s requests) : (s.run requests).2.store.Marked := by
  induction requests generalizing s with
  | nil => exact ready.marked
  | cons request rest ih => exact ih ready.step

end Run

/-- Tags name writes. In a run with less than 2^64 successful writes, every write takes a tag above
all that were given out before, and no other request takes one; the stored blobs carry distinct
tags, all of them given out by the run; and blobs that are returned at any two moments with one tag
are of one container, name and content, with equal properties, and with equal metadata unless the
blob was given new metadata in between. -/
theorem tags_name_writes (config : Store.Config) (settings : Host.Settings)
    {requests : List Request} (few : ((new config settings).issued requests).length < 2 ^ 64) :
    ((new config settings).issued requests).Pairwise (fun a b => compare a b = .lt) ∧
      ((new config settings).run requests).2.store.lastTag.number =
        ((new config settings).issued requests).length ∧
      (∀ request,
        written? request (((new config settings).run requests).2.step request).1 = none →
        (((new config settings).run requests).2.step request).2.store.lastTag =
          ((new config settings).run requests).2.store.lastTag) ∧
      ((((new config settings).run requests).2.store.walk []).map Blob.tag).Nodup ∧
      (∀ blob ∈ ((new config settings).run requests).2.store.walk [],
        blob.tag ∈ (new config settings).issued requests) ∧
      ∀ first second a b, first ≤ second → (new config settings).Returns requests first a →
        (new config settings).Returns requests second b → a.tag = b.tag →
        a.SameWrite b ∧ (a.metadata = b.metadata ∨ ∃ k, first < k ∧ k < second ∧
          (new config settings).Relabels requests k a.container a.name) := by
  have ready : Ready (new config settings) requests := by
    refine ⟨Store.marked_new config, ?_⟩
    rw [show (new config settings).store.lastTag.number = 0 from rfl, Nat.zero_add]
    exact few
  have marked := marked_run ready
  obtain ⟨numbers, last⟩ := numbers_issued ready
  refine ⟨?_, ?_, ?_, marked.tags_nodup [], ?_, ?_⟩
  · have ascending : (((new config settings).issued requests).map Tag.number).Pairwise (· < ·) := by
      rw [numbers]
      exact List.pairwise_lt_range'
    exact (List.pairwise_map.1 ascending).imp Tag.compare_eq_lt_iff.2
  · rw [last]
    exact Nat.zero_add _
  · intro request unwritten
    have tracks := tracks_of_step marked.wellFormed request
    rw [tracks.last, unwritten]
    rfl
  · intro blob met
    have stored := Store.holds_iff.2 ((Store.mem_walk_iff marked.wellFormed).1 met).2
    rcases issued_of_holds ready stored with given | ⟨_, held, _⟩
    · exact given
    · cases held
  · intro first second a b order returned again equal
    exact same_write ready order returned again equal

/-- A blob that is labelled anew, deleted with its container and written again, before a write that
is refused. -/
def recreated : List Request :=
  [.store (.createContainer "c"), .store (.put "c" "x" [1] none .epoch),
    .store (.setMetadata "c" "x" (FoldedMap.ofList [("k", "v")])), .store (.get "c" "x"),
    .store (.deleteContainer "c"), .store (.createContainer "c"),
    .store (.put "c" "x" [2] none .epoch), .store (.put "d" "x" [] none .epoch)]

theorem tags_name_writes_recreated :
    ((new {} {}).issued recreated).length < 2 ^ 64 ∧
      (new {} {}).issued recreated = [⟨1⟩, ⟨2⟩] ∧
      ((new {} {}).issued recreated).Pairwise (fun a b => compare a b = .lt) ∧
      ((((new {} {}).run recreated).2.store.walk []).map Blob.tag).Nodup ∧
      ∃ a b, (new {} {}).Returns recreated 1 a ∧ (new {} {}).Returns recreated 3 b ∧
        a.SameWrite b ∧ a.metadata ≠ b.metadata ∧
        ∃ k, 1 < k ∧ k < 3 ∧ (new {} {}).Relabels recreated k "c" "x" := by
  have given : (new {} {}).issued recreated = [⟨1⟩, ⟨2⟩] := rfl
  have few : ((new {} {}).issued recreated).length < 2 ^ 64 := by
    rw [given]
    decide
  obtain ⟨ascending, _, _, distinct, _, one⟩ := tags_name_writes {} {} few
  obtain ⟨a, written, first⟩ : ∃ a, (new {} {}).Returns recreated 1 a ∧
      a = ⟨"c", "x", [1], ⟨1, ⟨1⟩, .epoch⟩, FoldedMap.empty⟩ :=
    ⟨_, ⟨_, rfl, List.mem_singleton_self _⟩, rfl⟩
  obtain ⟨b, read, second⟩ : ∃ b, (new {} {}).Returns recreated 3 b ∧
      b = ⟨"c", "x", [1], ⟨1, ⟨1⟩, .epoch⟩, FoldedMap.ofList [("k", "v")]⟩ :=
    ⟨_, ⟨_, rfl, List.mem_singleton_self _⟩, rfl⟩
  have apart : a.metadata ≠ b.metadata := by
    intro same
    rw [first, second] at same
    exact absurd (congrArg FoldedMap.size same) (by decide)
  have equal : a.tag = b.tag := by
    rw [first, second]
    rfl
  obtain ⟨same, labels⟩ := one 1 3 a b (by decide) written read equal
  have relabelled := labels.resolve_left apart
  rw [first] at relabelled
  exact ⟨few, given, ascending, distinct, a, b, written, read, same, apart, relabelled⟩

end BlobDispatch.Session
