import BlobDispatch.Proofs.Json.RoundTrip
import BlobDispatch.Proofs.Store.Drain
import Mathlib.Data.List.TakeWhile

/-! Cursors in later states. What a call checks of a cursor does not depend on what is stored, so a
cursor that a store gave out goes on being accepted for its query, and for no other, whatever is
written or deleted in the meantime. -/

namespace BlobDispatch.Store

open Listing

section Call

variable {s : Store} {query : Query} {cursor : Cursor}

/-- Once its arguments have passed the checks, a call is refused for want of the container only. -/
theorem list_of_accepted {size : UInt64} {target : Target} (sized : s.pageSize query = .ok size)
    (resolved : query.target = .ok target) (accepted : cursor.validate query = .ok ()) :
    if s.containerExists target.container then ∃ page, s.list query (some cursor) = .ok page
    else s.list query (some cursor) = .error (.containerNotFound target.container) := by
  -- Of the state only the settings and the one container are read, so nothing else can refuse.
  have called : s.list query (some cursor) =
      (s.container target.container).map fun held => page query target
        ((held.blobs.above cursor.lastKey).takeWhile fun blob =>
          Text.startsWith target.namePrefix blob.name) (some cursor.lastKey) size.toNat := by
    simp only [Store.list, sized, resolved, accepted, bind, Except.bind, pure, Except.pure]
    cases s.container target.container <;> rfl
  rw [called, Store.container, containerExists, NameTable.contains]
  cases s.containers.get? target.container with
  | none => rfl
  | some held => exact ⟨_, rfl⟩

/-- A cursor of another query is refused before the container is looked for, and only the checks of
the query itself come first. -/
theorem list_of_other {other : Query} (apart : cursor.query ≠ other) :
    (∃ error, s.list other (some cursor) = .error error) ∧
      ∀ size target, s.pageSize other = .ok size → other.target = .ok target →
        s.list other (some cursor) = .error (.invalidCursor .otherQuery) := by
  have refused := Cursor.validate_of_other apart
  constructor
  · unfold Store.list
    cases s.pageSize other with
    | error error => exact ⟨error, rfl⟩
    | ok size =>
      cases other.target with
      | error error => exact ⟨error, rfl⟩
      | ok target => exact ⟨_, by simp only [refused]; rfl⟩
  · intro size target sized resolved
    simp only [Store.list, sized, resolved, refused]
    rfl

/-- Every page is made of blobs whose names have the prefix, also in states that no run leads to. -/
theorem page_of_list {given : Option Cursor} {page : Page}
    (answered : s.list query given = .ok page) :
    ∃ size target blobs, s.pageSize query = .ok size ∧ query.target = .ok target ∧
      (∀ blob ∈ blobs, Text.startsWith target.namePrefix blob.name = true) ∧
      page = Listing.page query target blobs (given.map (·.lastKey)) size.toNat := by
  have under (namePrefix : String) (blobs : List Blob) :
      ∀ blob ∈ blobs.takeWhile fun blob => Text.startsWith namePrefix blob.name,
        Text.startsWith namePrefix blob.name = true :=
    fun _ => List.mem_takeWhile_imp
  unfold Store.list at answered
  obtain ⟨size, sized, answered⟩ := bind_eq_ok_iff.1 answered
  obtain ⟨target, resolved, answered⟩ := bind_eq_ok_iff.1 answered
  cases given with
  | none =>
    obtain ⟨held, _, same⟩ := bind_eq_ok_iff.1 answered
    cases same
    exact ⟨size, target, _, sized, resolved, under _ _, rfl⟩
  | some cursor =>
    obtain ⟨_, _, answered⟩ := bind_eq_ok_iff.1 answered
    obtain ⟨held, _, same⟩ := bind_eq_ok_iff.1 answered
    cases same
    exact ⟨size, target, _, sized, resolved, under _ _, rfl⟩

theorem accepted_of_list {given : Option Cursor} {page : Page}
    (answered : s.list query given = .ok page) {next : Cursor}
    (continued : page.next = some next) : ∃ size target, s.pageSize query = .ok size ∧
      query.target = .ok target ∧ next.query = query ∧ next.validate query = .ok () := by
  obtain ⟨size, target, blobs, sized, resolved, under, rfl⟩ := page_of_list answered
  obtain ⟨own, begins⟩ := next_of_page under continued
  exact ⟨size, target, sized, resolved, own,
    Cursor.validate_eq_ok_iff.2 ⟨own, target, resolved, begins⟩⟩

end Call

/-- A cursor that a store gave out continues its own query in every later state, as long as the
container exists, and is refused for every other query, for the cursor where the query itself is in
order. It is the same cursor after it was written as JSON and read again. Of cursors from elsewhere
just those are accepted that carry the query and a key under its prefix. -/
theorem cursor_continues_own_query :
    (∀ {s : Store} {query : Query} {cursor : Option Cursor} {page : Page} {next : Cursor}
      (operations : List Operation), s.list query cursor = .ok page → page.next = some next →
        (∃ target, query.target = .ok target ∧
          if (s.run operations).2.containerExists target.container then
            ∃ later, (s.run operations).2.list query (some next) = .ok later
          else (s.run operations).2.list query (some next) =
            .error (.containerNotFound target.container)) ∧
        (∀ other, other ≠ query →
          (∃ error, (s.run operations).2.list other (some next) = .error error) ∧
          ∀ size target, (s.run operations).2.pageSize other = .ok size →
            other.target = .ok target →
            (s.run operations).2.list other (some next) =
              .error (.invalidCursor .otherQuery)) ∧
        decode? (encode next) = some next) ∧
    ∀ (cursor : Cursor) (query : Query), cursor.validate query = .ok () ↔
      cursor.query = query ∧ ∃ target, query.target = .ok target ∧
        Text.startsWith target.namePrefix cursor.lastKey = true := by
  constructor
  · intro s query cursor page next operations answered continued
    obtain ⟨size, target, sized, resolved, own, accepted⟩ := accepted_of_list answered continued
    have later : (s.run operations).2.pageSize query = .ok size :=
      (pageSize_of_config (config_run s operations) query).trans sized
    refine ⟨⟨target, resolved, list_of_accepted later resolved accepted⟩, ?_,
      LawfulJsonForm.decode_encode next⟩
    intro other apart
    apply list_of_other
    rw [own]
    exact apart.symm
  · exact fun cursor query => Cursor.validate_eq_ok_iff

/-- The cursor after the first page of a directory listing, before and after its container is
deleted, and asked to continue a listing of a container that never was. -/
theorem cursor_continues_own_query_deleted :
    ∃ page next,
      sample.list ((Query.ofContainer "c").hierarchical.withMaxResults 1) none = .ok page ∧
        page.next = some next ∧
        (∃ later, (sample.run [.delete "c" "a"]).2.list
          ((Query.ofContainer "c").hierarchical.withMaxResults 1) (some next) = .ok later) ∧
        (sample.run [.deleteContainer "c"]).2.list
          ((Query.ofContainer "c").hierarchical.withMaxResults 1) (some next) =
            .error (.containerNotFound "c") ∧
        (sample.run []).2.list (Query.ofContainer "d") (some next) =
          .error (.invalidCursor .otherQuery) := by
  obtain ⟨page, answered, next, continued⟩ : ∃ page,
      sample.list ((Query.ofContainer "c").hierarchical.withMaxResults 1) none = .ok page ∧
        ∃ next, page.next = some next := ⟨_, rfl, _, rfl⟩
  have target : ((Query.ofContainer "c").hierarchical.withMaxResults 1).target = .ok ⟨"c", ""⟩ :=
    rfl
  obtain ⟨_, resolved, kept⟩ :=
    (cursor_continues_own_query.1 [.delete "c" "a"] answered continued).1
  cases target.symm.trans resolved
  rw [if_pos (by decide)] at kept
  obtain ⟨_, resolved, gone⟩ :=
    (cursor_continues_own_query.1 [.deleteContainer "c"] answered continued).1
  cases target.symm.trans resolved
  rw [if_neg (by decide)] at gone
  have refused := ((cursor_continues_own_query.1 [] answered continued).2.1
    (Query.ofContainer "d") (by decide)).2 5000 ⟨"d", ""⟩ rfl rfl
  exact ⟨page, next, answered, continued, kept, gone, refused⟩

end BlobDispatch.Store
