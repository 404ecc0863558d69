import BlobDispatch.Proofs.Store.Answers
import BlobDispatch.Proofs.Store.Walk
import Mathlib.Algebra.Group.Nat.Defs

/-! Tags as the names of writes. A write takes the tag after the last one, and no other step moves
the last tag or changes more of a stored blob than its metadata. As long as the count does not wrap,
every stored tag is one that was given out, and no two stored blobs share one. -/

namespace BlobDispatch

def Tag.number (t : Tag) : Nat := t.sequence.toNat

theorem Tag.number_next {t : Tag} (room : t.number + 1 < 2 ^ 64) :
    t.next.number = t.number + 1 := by
  unfold number next at *
  rw [UInt64.toNat_add, UInt64.toNat_one, Nat.mod_eq_of_lt room]

theorem Tag.compare_eq_lt_iff {a b : Tag} : compare a b = .lt ↔ a.number < b.number :=
  compareOfLessAndEq_eq_lt.trans UInt64.lt_iff_toNat_lt

/-- Two versions of a blob that one write made: they differ in metadata at most. -/
structure Blob.SameWrite (a b : Blob) : Prop where
  container_eq : a.container = b.container
  name_eq : a.name = b.name
  content_eq : a.content = b.content
  properties_eq : a.properties = b.properties

namespace Blob.SameWrite

variable {a b c : Blob}

theorem refl (a : Blob) : a.SameWrite a := ⟨rfl, rfl, rfl, rfl⟩

theorem trans (first : a.SameWrite b) (second : b.SameWrite c) : a.SameWrite c where
  container_eq := first.container_eq.trans second.container_eq
  name_eq := first.name_eq.trans second.name_eq
  content_eq := first.content_eq.trans second.content_eq
  properties_eq := first.properties_eq.trans second.properties_eq

theorem tag_eq (same : a.SameWrite b) : a.tag = b.tag :=
  congrArg Properties.tag same.properties_eq

end Blob.SameWrite

namespace Store

def Operation.written? : Operation → Reply → Option Blob
  | .put _ _ _ _ _, .blob blob => some blob
  | _, _ => none

/-- What a step does to the tags. It writes at most one blob, under the tag after the last, and all
other blobs were there before, up to metadata where the step labels them. -/
structure Tracks (s next : Store) (written : Option Blob) (labels : String → String → Prop) :
    Prop where
  last : next.lastTag = (written.map Blob.tag).getD s.lastTag
  fresh : ∀ blob, written = some blob → blob.tag = s.lastTag.next
  kept : ∀ blob, next.Holds blob → written = some blob ∨ ∃ before, s.Holds before ∧
    before.SameWrite blob ∧ (before.metadata = blob.metadata ∨ labels blob.container blob.name)

section Tracks

variable {s next : Store} {labels : String → String → Prop}

theorem tracks_of_blobs (last : next.lastTag = s.lastTag)
    (blobs : ∀ container name, next.blob? container name = s.blob? container name) :
    Tracks s next none labels := by
  constructor
  · exact last
  · intro _ same
    cases same
  · intro blob stored
    rw [Holds, blobs] at stored
    exact .inr ⟨blob, stored, .refl blob, .inl rfl⟩

private theorem tracks_put {container name : String} {content : List UInt8}
    {metadata : Option Metadata} {now : Timestamp} {written : Blob}
    (done : s.put container name content metadata now = .ok (written, next)) :
    Tracks s next (some written) labels := by
  obtain ⟨_, _, _, rfl, rfl⟩ := put_eq_ok_iff.1 done
  constructor
  · rfl
  · intro _ same
    cases same
    rfl
  · intro blob stored
    rw [Holds, blob?_put done] at stored
    split at stored
    · exact .inl stored
    · exact .inr ⟨blob, stored, .refl blob, .inl rfl⟩

/-- A step that writes no blob leaves at every place the blob that was there, the label of the step
aside, or none. -/
private theorem tracks_unwritten {e : Event} (last : next.lastTag = s.lastTag)
    (moves : Moves s next e) (unwritten : ∀ container name, e.write? container name = none)
    (labelled : ∀ container name, e.labelled? container name ≠ none → labels container name) :
    Tracks s next none labels := by
  constructor
  · exact last
  · intro _ same
    cases same
  · intro blob stored
    have here := moves.blob blob.container blob.name
    rw [stored, Event.onBlob, unwritten] at here
    split at here
    · cases here
    · obtain ⟨before, there, same⟩ := Option.map_eq_some_iff.1 here.symm
      have one : before.SameWrite blob := by
        rw [← same]
        exact ⟨rfl, rfl, rfl, rfl⟩
      rw [← one.container_eq, ← one.name_eq] at there
      refine .inr ⟨before, there, one, ?_⟩
      cases given : e.labelled? blob.container blob.name with
      | none =>
        rw [given] at same
        exact .inl (congrArg Blob.metadata same)
      | some metadata => exact .inr (labelled _ _ (by simp [given]))

theorem lastTag_of_apply {operation : Operation} {reply : Reply}
    (done : s.apply operation = .ok (reply, next)) (unwritten : operation.written? reply = none) :
    next.lastTag = s.lastTag := by
  cases operation with
  | createContainer name =>
    cases done
    rw [createContainer_eq]
  | put container name content metadata now =>
    obtain ⟨_, _, same⟩ := map_eq_ok_iff.1 done
    cases same
    cases unwritten
  | setContainerMetadata name metadata =>
    obtain ⟨_, stored, same⟩ := map_eq_ok_iff.1 done
    cases same
    obtain ⟨_, _, rfl⟩ := setContainerMetadata_eq_ok_iff.1 stored
    rfl
  | delete container name =>
    obtain ⟨⟨_, _⟩, stored, same⟩ := map_eq_ok_iff.1 done
    cases same
    obtain ⟨_, _, _, rfl⟩ := delete_eq_ok_iff.1 stored
    rfl
  | setMetadata container name metadata =>
    obtain ⟨_, stored, same⟩ := map_eq_ok_iff.1 done
    cases same
    obtain ⟨_, _, _, _, rfl⟩ := setMetadata_eq_ok_iff.1 stored
    rfl
  | containerMetadata _ | get _ _ | list _ _ | pages _ | listAll _ =>
    obtain ⟨_, _, same⟩ := map_eq_ok_iff.1 done
    cases same
    rfl
  | deleteContainer _ | containerExists _ | containerNames | service | setService _
  | blobCount _ | size | inspect =>
    cases done
    rfl

theorem tracks_of_apply {operation : Operation} {reply : Reply}
    (done : s.apply operation = .ok (reply, next)) :
    Tracks s next (operation.written? reply) fun container name =>
      ∃ metadata, operation = .setMetadata container name metadata := by
  have moves := moves_of_step s operation
  simp only [step, done] at moves
  cases operation with
  | put container name content metadata now =>
    obtain ⟨_, stored, same⟩ := map_eq_ok_iff.1 done
    cases same
    exact tracks_put stored
  | setMetadata container name metadata =>
    refine tracks_unwritten (lastTag_of_apply done rfl) moves (fun _ _ => rfl) ?_
    intro c n given
    rw [Event.labelled?] at given
    split at given
    · rename_i here
      obtain ⟨rfl, rfl⟩ := here
      exact ⟨metadata, rfl⟩
    · exact absurd rfl given
  | _ =>
    exact tracks_unwritten (lastTag_of_apply done rfl) moves (fun _ _ => rfl)
      fun _ _ given => absurd rfl given

end Tracks

/-- A store whose tags are those that were given out, each for one blob. -/
structure Marked (s : Store) : Prop where
  wellFormed : s.WellFormed
  bounded : ∀ blob, s.Holds blob → blob.tag.number ≤ s.lastTag.number
  apart : ∀ a b, s.Holds a → s.Holds b → a.tag = b.tag → a = b

section Marked

variable {s next : Store} {written : Option Blob} {labels : String → String → Prop}

theorem Tracks.number_last (tracks : Tracks s next written labels)
    (room : s.lastTag.number + written.toList.length < 2 ^ 64) :
    next.lastTag.number = s.lastTag.number + written.toList.length := by
  cases written with
  | none => rw [tracks.last]; rfl
  | some blob =>
    rw [tracks.last, Option.map_some, Option.getD_some, tracks.fresh blob rfl]
    exact Tag.number_next room

theorem Tracks.number_written {blob : Blob} (tracks : Tracks s next (some blob) labels)
    (room : s.lastTag.number + 1 < 2 ^ 64) : blob.tag.number = s.lastTag.number + 1 := by
  rw [tracks.fresh blob rfl, Tag.number_next room]

/-- A blob with a tag that was given out before the step was stored before it. -/
theorem Tracks.before (tracks : Tracks s next written labels)
    (room : s.lastTag.number + written.toList.length < 2 ^ 64) {blob : Blob}
    (stored : next.Holds blob) (known : blob.tag.number ≤ s.lastTag.number) :
    ∃ before, s.Holds before ∧ before.SameWrite blob ∧
      (before.metadata = blob.metadata ∨ labels blob.container blob.name) := by
  rcases tracks.kept blob stored with rfl | before
  · have above := tracks.number_written room
    omega
  · exact before

theorem Marked.step (marked : s.Marked) (wellFormed : next.WellFormed)
    (tracks : Tracks s next written labels)
    (room : s.lastTag.number + written.toList.length < 2 ^ 64) : next.Marked := by
  have last := tracks.number_last room
  -- Any blob from before the step has a smaller tag than the one that the step writes.
  have fresh {blob other older : Blob} (new : written = some blob) (old : s.Holds older)
      (same : older.SameWrite other) : blob.tag ≠ other.tag := by
    subst new
    intro equal
    have above := tracks.number_written room
    have below := marked.bounded older old
    rw [same.tag_eq, ← equal] at below
    omega
  refine ⟨wellFormed, ?_, ?_⟩
  · intro blob stored
    rcases tracks.kept blob stored with rfl | ⟨before, there, same, _⟩
    · rw [tracks.last]
      exact Nat.le_refl _
    · have below := marked.bounded before there
      rw [same.tag_eq] at below
      omega
  · intro a b first second equal
    rcases tracks.kept a first with new | ⟨olderA, thereA, sameA, _⟩
    · rcases tracks.kept b second with again | ⟨olderB, thereB, sameB, _⟩
      · exact Option.some.inj (new.symm.trans again)
      · exact absurd equal (fresh new thereB sameB)
    · rcases tracks.kept b second with new | ⟨olderB, thereB, sameB, _⟩
      · exact absurd equal.symm (fresh new thereA sameA)
      · have one := marked.apart olderA olderB thereA thereB
          (sameA.tag_eq.trans (equal.trans sameB.tag_eq.symm))
        subst one
        -- Both are what the next state holds at the place of the one blob before.
        rw [Holds, ← sameA.container_eq, ← sameA.name_eq] at first
        rw [Holds, ← sameB.container_eq, ← sameB.name_eq] at second
        exact Option.some.inj (first.symm.trans second)

theorem marked_new (config : Config) : (new config).Marked where
  wellFormed _ _ found := by cases found
  bounded _ stored := by cases stored
  apart _ _ first _ _ := by cases first

theorem Marked.tags_nodup (marked : s.Marked) (skipped : List String) :
    ((s.walk skipped).map Blob.tag).Nodup := by
  rw [List.Nodup, List.pairwise_map]
  refine (walk_ascending marked.wellFormed).imp_of_mem ?_
  intro a b first second before equal
  have here := holds_iff.2 ((mem_walk_iff marked.wellFormed).1 first).2
  have there := holds_iff.2 ((mem_walk_iff marked.wellFormed).1 second).2
  cases marked.apart a b here there equal
  rcases before with below | ⟨_, below⟩
  · exact List.lt_irrefl _ below
  · exact List.lt_irrefl _ below

end Marked

end Store

end BlobDispatch
