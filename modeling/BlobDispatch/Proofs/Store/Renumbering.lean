import BlobDispatch.Proofs.Store.Tags

/-! The writes of a run and the ranks of their tags. The tags of a run ascend, so those of some of
its writes can be renumbered from one on without a change of their order. -/

namespace BlobDispatch

/-- The tag whose number counts the tags of a list up to a tag. -/
def Tag.rank (tags : List Tag) (t : Tag) : Tag :=
  ⟨UInt64.ofNat (tags.countP fun other => other.number ≤ t.number)⟩

namespace Store

/-- The relabelling turns the tags of a list into those that follow `last`, one after another. -/
inductive Renumbers (f : Tag → Tag) : Tag → List Tag → Prop
  | nil (last : Tag) : Renumbers f last []
  | cons {last tag : Tag} {rest : List Tag} (next : f tag = last.next)
      (later : Renumbers f last.next rest) : Renumbers f last (tag :: rest)

section Rank

variable {tags : List Tag}

theorem number_rank (few : tags.length < 2 ^ 64) (t : Tag) :
    (t.rank tags).number = tags.countP fun other => other.number ≤ t.number :=
  UInt64.toNat_ofNat_of_lt (Nat.lt_of_le_of_lt List.countP_le_length few)

private theorem countP_mono {a b : Tag} (below : a.number ≤ b.number) (tags : List Tag) :
    (tags.countP fun other => other.number ≤ a.number) ≤
      tags.countP fun other => other.number ≤ b.number := by
  apply List.countP_mono_left
  intro other _ counted
  exact decide_eq_true (Nat.le_trans (of_decide_eq_true counted) below)

/-- Among the tags that are counted, the ranks are in the order of the tags. -/
theorem rank_lt_iff (few : tags.length < 2 ^ 64) {a b : Tag} (member : b ∈ tags) :
    compare (a.rank tags) (b.rank tags) = .lt ↔ compare a b = .lt := by
  rw [Tag.compare_eq_lt_iff, Tag.compare_eq_lt_iff, number_rank few, number_rank few]
  constructor
  · intro smaller
    by_contra above
    exact Nat.not_lt.2 (countP_mono (Nat.not_lt.1 above) tags) smaller
  · intro smaller
    obtain ⟨before, after, rfl⟩ := List.append_of_mem member
    have front := countP_mono (Nat.le_of_lt smaller) before
    have back := countP_mono (Nat.le_of_lt smaller) after
    -- The later tag counts itself, and is not counted by the earlier one.
    have own : ¬ decide (b.number ≤ a.number) = true := by simpa using smaller
    have self : decide (b.number ≤ b.number) = true := by simp
    rw [List.countP_append, List.countP_append, List.countP_cons, List.countP_cons, if_neg own,
      if_pos self]
    omega

/-- The rank of a tag in an ascending list is its place there. -/
private theorem renumbers_rank_after (earlier : List Tag)
    (ascending : (earlier ++ tags).Pairwise fun a b => a.number < b.number)
    (few : (earlier ++ tags).length < 2 ^ 64) {last : Tag}
    (reached : last.number = earlier.length) :
    Renumbers (Tag.rank (earlier ++ tags)) last tags := by
  induction tags generalizing earlier last with
  | nil => exact .nil last
  | cons tag rest ih =>
    have regroup : earlier ++ tag :: rest = (earlier ++ [tag]) ++ rest := by simp
    obtain ⟨_, later, before⟩ := List.pairwise_append.1 ascending
    -- All the tags before are counted with this one, and none of those after it.
    have front : (earlier.countP fun other => other.number ≤ tag.number) = earlier.length := by
      apply List.countP_eq_length.2
      intro other member
      exact decide_eq_true (Nat.le_of_lt (before other member tag List.mem_cons_self))
    have back : (rest.countP fun other => other.number ≤ tag.number) = 0 := by
      apply List.countP_eq_zero.2
      intro other member counted
      have above := (List.pairwise_cons.1 later).1 other member
      exact Nat.not_le.2 above (of_decide_eq_true counted)
    have room : last.number + 1 < 2 ^ 64 := by
      rw [reached]
      simp at few
      omega
    have place : last.next.number = earlier.length + 1 := by rw [Tag.number_next room, reached]
    refine .cons ?_ ?_
    · have rank : (tag.rank (earlier ++ tag :: rest)).number = last.next.number := by
        rw [number_rank few, List.countP_append, List.countP_cons, front, back, place]
        simp
      exact congrArg Tag.mk (UInt64.toNat_inj.1 rank)
    · rw [regroup] at ascending few ⊢
      exact ih (earlier ++ [tag]) ascending few (by simpa using place)

theorem renumbers_rank (ascending : tags.Pairwise fun a b => a.number < b.number)
    (few : tags.length < 2 ^ 64) : Renumbers (Tag.rank tags) ⟨0⟩ tags :=
  renumbers_rank_after [] ascending few rfl

end Rank

def Event.written? (e : Event) : Option Blob :=
  match e.answer with
  | .ok reply => e.operation.written? reply
  | .error _ => none

def events (s : Store) (operations : List Operation) : List Event :=
  List.zipWith Event.mk operations (s.run operations).1

def writes (s : Store) (operations : List Operation) : List Blob :=
  (s.events operations).filterMap Event.written?

section Writes

variable {s : Store}

theorem events_cons (s : Store) (operation : Operation) (rest : List Operation) :
    s.events (operation :: rest) =
      ⟨operation, (s.step operation).1⟩ :: (s.step operation).2.events rest := rfl

theorem writes_cons (s : Store) (operation : Operation) (rest : List Operation) :
    s.writes (operation :: rest) =
      (Event.written? ⟨operation, (s.step operation).1⟩).toList ++
        (s.step operation).2.writes rest := by
  rw [writes, events_cons, List.filterMap_cons]
  cases Event.written? ⟨operation, (s.step operation).1⟩ <;> rfl

theorem tracks_of_step (s : Store) (operation : Operation) :
    Tracks s (s.step operation).2 (Event.written? ⟨operation, (s.step operation).1⟩)
      fun container name => ∃ metadata, operation = .setMetadata container name metadata := by
  unfold step
  split
  · rename_i done
    exact tracks_of_apply done
  · exact tracks_of_blobs rfl fun _ _ => rfl

/-- As long as the count does not wrap, every write takes a tag above all those before it. -/
theorem writes_ascending {operations : List Operation}
    (room : s.lastTag.number + (s.writes operations).length < 2 ^ 64) :
    (s.writes operations).Pairwise (fun a b => a.tag.number < b.tag.number) ∧
      ∀ blob ∈ s.writes operations, s.lastTag.number < blob.tag.number := by
  induction operations generalizing s with
  | nil => exact ⟨.nil, List.forall_mem_nil _⟩
  | cons operation rest ih =>
    -- There is room for the writes that are left, so the count does not wrap at this step.
    have tracks := tracks_of_step s operation
    rw [writes_cons] at room ⊢
    rw [List.length_append] at room
    have next := tracks.number_last (by omega)
    obtain ⟨ascending, above⟩ := ih (by omega : (s.step operation).2.lastTag.number + _ < _)
    cases new : Event.written? ⟨operation, (s.step operation).1⟩ with
    | none =>
      rw [new] at next
      rw [next] at above
      exact ⟨ascending, above⟩
    | some blob =>
      rw [new] at tracks next room
      have number := tracks.number_written (by simp at room; omega)
      have later : ∀ other ∈ (s.step operation).2.writes rest,
          blob.tag.number < other.tag.number := by
        intro other member
        have beyond := above other member
        rw [next] at beyond
        rw [number]
        exact beyond
      refine ⟨List.pairwise_cons.2 ⟨later, ascending⟩, ?_⟩
      intro other member
      rcases List.mem_cons.1 member with rfl | inside
      · omega
      · have beyond := later other inside
        omega

end Writes

end Store

end BlobDispatch
