import BlobDispatch.Proofs.Store.Cursors
import BlobDispatch.Proofs.Text.Segments

/-! The two scopes of a listing. A query of the account packs a container and a prefix into one
text. Once that is cut, nothing but the query inside its cursors tells it from the query of the
container: the last keys are names of blobs in both, so every call that continues either at one key
shows the same page, and the drains go side by side. -/

namespace BlobDispatch

namespace Listing

/-- What a page shows, which is all of it but the query in its cursor: the items, and the last key
if there is a next page. -/
def Page.shown (page : Page) : List Item × Option String :=
  (page.items, page.next.map (·.lastKey))

namespace Query

/-- Queries that look for the same, by pages of the same length. -/
structure Alike (first second : Query) : Prop where
  target_eq : first.target = second.target
  flat_eq : first.flat = second.flat
  maxResults_eq : first.maxResults = second.maxResults

theorem Alike.symm {first second : Query} (alike : first.Alike second) : second.Alike first :=
  ⟨alike.target_eq.symm, alike.flat_eq.symm, alike.maxResults_eq.symm⟩

section Account

variable (namePrefix : String) (flat : Bool) (limit : Option UInt64)

theorem target_account {name : String} (some : name ≠ "") (clean : '/' ∉ name.toList) :
    (⟨.account, name ++ "/" ++ namePrefix, flat, limit⟩ : Query).target =
      .ok ⟨name, namePrefix⟩ := by
  have cut : Text.cut? '/' (name ++ "/" ++ namePrefix).toList =
      .some (name.toList, namePrefix.toList) :=
    Text.cut?_eq_some_iff.2 ⟨by simp, clean⟩
  simp only [target, cut, String.ofList_toList, if_neg some]

theorem target_account_alone {name : String} (some : name ≠ "") (clean : '/' ∉ name.toList) :
    (⟨.account, name, flat, limit⟩ : Query).target = .ok ⟨name, ""⟩ := by
  simp only [target, Text.cut?_eq_none_iff.2 clean, if_neg some]

theorem target_account_unnamed (unnamed : namePrefix = "" ∨ Text.startsWith "/" namePrefix = true) :
    (⟨.account, namePrefix, flat, limit⟩ : Query).target =
      .error (.invalidArgument .noContainerInPrefix) := by
  rcases unnamed with rfl | begins
  · rfl
  · obtain ⟨rest, split⟩ := Text.startsWith_iff.1 begins
    have cut : Text.cut? '/' namePrefix.toList = some ([], rest) :=
      Text.cut?_eq_some_iff.2 ⟨split.symm, List.not_mem_nil⟩
    simp only [target, cut, String.ofList_nil, if_pos]

end Account

end Query

end Listing

namespace Store

open Listing

section Own

variable {s : Store} {query : Query}

theorem next_of_list {cursor : Option Cursor} {page : Page}
    (answered : s.list query cursor = .ok page) :
    page.next = page.shown.2.map (Cursor.mk query) := by
  rw [Page.shown, Option.map_map]
  cases continued : page.next with
  | none => rfl
  | some next =>
    obtain ⟨_, _, _, _, own, _⟩ := accepted_of_list answered continued
    rw [Option.map_some, Function.comp, ← own]

private theorem pagesFrom_succ (s : Store) (query : Query) (limit : Nat)
    (cursor : Option Cursor) : s.pagesFrom query (limit + 1) cursor =
      (s.list query cursor).bind fun page => match page.next with
        | none => .ok [page]
        | some next => (s.pagesFrom query limit (some next)).map (page :: ·) := by
  rw [pagesFrom]
  cases s.list query cursor with
  | error error => rfl
  | ok page =>
    simp only [bind, Except.bind]
    cases page.next with
    | none => rfl
    | some next => cases s.pagesFrom query limit (some next) <;> rfl

theorem listAll_eq_shown (s : Store) (query : Query) : s.listAll query =
    ((s.pages query).map (List.map Page.shown)).map
      (List.flatMap fun view => view.1.filterMap Item.blob?) := by
  rw [map_comp]
  apply congrArg fun read => (s.pages query).map read
  funext pages
  rw [Function.comp, List.flatMap_map]
  rfl

end Own

section Alike

variable {first second : Query} (alike : first.Alike second) (s : Store)

include alike

private theorem shown_page (target : Target) (blobs : List Blob) (after : Option String)
    (size : Nat) :
    (page first target blobs after size).shown = (page second target blobs after size).shown := by
  simp only [page, Page.shown, alike.flat_eq]
  congr 1
  split <;> rfl

/-- A call is the same for both, as long as each comes with a cursor of its own at one key. -/
theorem shown_list (key : Option String) :
    (s.list first (key.map (Cursor.mk first))).map Page.shown =
      (s.list second (key.map (Cursor.mk second))).map Page.shown := by
  have sized : s.pageSize first = s.pageSize second := by
    rw [pageSize, pageSize, alike.maxResults_eq]
  have passed (last : String) :
      (Cursor.mk first last).validate first = (Cursor.mk second last).validate second := by
    rw [Cursor.validate, Cursor.validate, alike.target_eq]
    simp
  simp only [Store.list, sized, alike.target_eq]
  cases s.pageSize second with
  | error error => rfl
  | ok size =>
    cases second.target with
    | error error => rfl
    | ok target =>
      cases key with
      | none =>
        simp only [Option.map_none, bind, Except.bind, pure, Except.pure]
        cases s.container target.container with
        | error error => rfl
        | ok held => exact congrArg Except.ok (shown_page alike _ _ _ _)
      | some last =>
        simp only [Option.map_some, passed, bind, Except.bind, pure, Except.pure]
        cases (Cursor.mk second last).validate second with
        | error error => rfl
        | ok =>
          simp only
          cases s.container target.container with
          | error error => rfl
          | ok held => exact congrArg Except.ok (shown_page alike _ _ _ _)

variable {s}

private theorem exists_list {key : Option String} {page : Page}
    (answered : s.list first (key.map (Cursor.mk first)) = .ok page) :
    ∃ other, s.list second (key.map (Cursor.mk second)) = .ok other ∧ other.shown = page.shown ∧
      page.next = page.shown.2.map (Cursor.mk first) ∧
      other.next = page.shown.2.map (Cursor.mk second) := by
  have called := shown_list alike s key
  rw [answered] at called
  obtain ⟨other, again, same⟩ := map_eq_ok_iff.1 called.symm
  refine ⟨other, again, same, next_of_list answered, ?_⟩
  rw [next_of_list again, same]

theorem Drains.of_alike (key : Option String) {pages : List Page}
    (drained : s.Drains first (key.map (Cursor.mk first)) pages) :
    ∃ others, s.Drains second (key.map (Cursor.mk second)) others ∧
      others.map Page.shown = pages.map Page.shown := by
  generalize own : key.map (Cursor.mk first) = cursor at drained
  -- Both drains are at one key at a time, the last one of the page before.
  induction drained generalizing key with
  | @last cursor page listed final =>
    subst own
    obtain ⟨other, again, same, next, following⟩ := exists_list alike listed
    rw [final] at next
    rw [Option.map_eq_none_iff.1 next.symm] at following
    exact ⟨[other], .last again following, by simp [same]⟩
  | @more cursor page next rest listed continued drained ih =>
    subst own
    obtain ⟨other, again, same, here, following⟩ := exists_list alike listed
    rw [continued] at here
    obtain ⟨last, shown, rfl⟩ := Option.map_eq_some_iff.1 here.symm
    rw [shown] at following
    obtain ⟨others, redrained, shows⟩ := ih (some last) rfl
    exact ⟨other :: others, .more again following redrained, by simp [same, shows]⟩

theorem shown_pagesFrom (limit : Nat) (key : Option String) :
    (s.pagesFrom first limit (key.map (Cursor.mk first))).map (List.map Page.shown) =
      (s.pagesFrom second limit (key.map (Cursor.mk second))).map (List.map Page.shown) := by
  induction limit generalizing key with
  | zero => rfl
  | succ limit ih =>
    rw [pagesFrom_succ, pagesFrom_succ]
    cases answered : s.list first (key.map (Cursor.mk first)) with
    | error error =>
      have called := shown_list alike s key
      rw [answered] at called
      rw [map_eq_error_iff.1 called.symm]
      rfl
    | ok page =>
      obtain ⟨other, again, same, here, following⟩ := exists_list alike answered
      rw [again, Except.bind, Except.bind, here, following]
      cases page.shown.2 with
      | none => simp [Except.map, same]
      | some last =>
        have later := congrArg (Except.map (page.shown :: ·)) (ih (some last))
        rw [map_comp, map_comp] at later
        simpa only [Option.map_some, map_comp, Function.comp_def, List.map_cons, same] using later

end Alike

/-- In a state, one query shows what the other does: call by call at whatever key, drained to the
end page by page, and for its blobs alone. -/
structure DrainsAs (s : Store) (first second : Query) : Prop where
  call : ∀ key : Option String, (s.list first (key.map (Cursor.mk first))).map Page.shown =
    (s.list second (key.map (Cursor.mk second))).map Page.shown
  drained : ∀ views, (∃ pages, s.Drains first none pages ∧ pages.map Page.shown = views) ↔
    ∃ pages, s.Drains second none pages ∧ pages.map Page.shown = views
  pages_eq : (s.pages first).map (List.map Page.shown) = (s.pages second).map (List.map Page.shown)
  listAll_eq : s.listAll first = s.listAll second

theorem drainsAs_of_alike {first second : Query} (alike : first.Alike second) (s : Store) :
    s.DrainsAs first second where
  call := shown_list alike s
  drained := by
    intro views
    constructor
    · rintro ⟨pages, drained, rfl⟩
      exact Drains.of_alike alike none drained
    · rintro ⟨pages, drained, rfl⟩
      exact Drains.of_alike alike.symm none drained
  pages_eq := shown_pagesFrom alike (s.size + 1) none
  listAll_eq := by
    rw [listAll_eq_shown, listAll_eq_shown, pages, pages]
    exact congrArg _ (shown_pagesFrom alike (s.size + 1) none)

section Refusal

variable {s : Store} {query : Query}

theorem pageSize_eq_error {error : Error} (refused : s.pageSize query = .error error) :
    ∃ fault, error = .invalidArgument fault := by
  unfold pageSize at refused
  split at refused
  · cases refused
  · split at refused
    · cases refused
      exact ⟨_, rfl⟩
    · split at refused
      · cases refused
        exact ⟨_, rfl⟩
      · cases refused

/-- The page length is checked first, and its faults are ones of the arguments too. -/
theorem list_of_unnamed
    (unnamed : query.target = .error (.invalidArgument .noContainerInPrefix)) :
    ∃ fault, (∀ cursor, s.list query cursor = .error (.invalidArgument fault)) ∧
      ∀ size, s.pageSize query = .ok size → fault = .noContainerInPrefix := by
  cases sized : s.pageSize query with
  | ok size =>
    refine ⟨.noContainerInPrefix, ?_, fun _ _ => rfl⟩
    intro cursor
    simp only [list, sized, unnamed]
    rfl
  | error error =>
    obtain ⟨fault, rfl⟩ := pageSize_eq_error sized
    refine ⟨fault, ?_, ?_⟩
    · intro cursor
      simp only [list, sized]
      rfl
    · intro size other
      cases other

end Refusal

/-- The listing of an account prefix that names a container is the listing of this container, in
every state, mode and page length; the name alone stands for all of it. A prefix that names none is
refused for its arguments in every state and with every cursor. Cursors carry the query of their
page, and none of another scope is accepted. -/
theorem account_drains_as_container (s : Store) (flat : Bool) (limit : Option UInt64) :
    (∀ name namePrefix account : String, name ≠ "" → '/' ∉ name.toList →
      (account = name ++ "/" ++ namePrefix ∨ account = name ∧ namePrefix = "") →
        s.DrainsAs ⟨.account, account, flat, limit⟩ ⟨.container name, namePrefix, flat, limit⟩) ∧
      (∀ account : String, account = "" ∨ Text.startsWith "/" account = true →
        ∃ fault, (∀ cursor, s.list ⟨.account, account, flat, limit⟩ cursor =
            .error (.invalidArgument fault)) ∧
          ∀ size, s.pageSize ⟨.account, account, flat, limit⟩ = .ok size →
            fault = .noContainerInPrefix) ∧
      (∀ (query : Query) (given : Option Cursor) (page : Page) (next : Cursor),
        s.list query given = .ok page → page.next = some next → next.query = query) ∧
      ∀ (query : Query) (cursor : Cursor), cursor.query.scope ≠ query.scope →
        cursor.validate query = .error (.invalidCursor .otherQuery) ∧
          ∃ error, s.list query (some cursor) = .error error := by
  refine ⟨?_, ?_, ?_, ?_⟩
  · rintro name namePrefix account some clean (rfl | ⟨rfl, rfl⟩)
    · apply drainsAs_of_alike
      exact ⟨Query.target_account namePrefix flat limit some clean, rfl, rfl⟩
    · apply drainsAs_of_alike
      exact ⟨Query.target_account_alone flat limit some clean, rfl, rfl⟩
  · intro account unnamed
    exact list_of_unnamed (Query.target_account_unnamed account flat limit unnamed)
  · intro query given page next answered continued
    obtain ⟨_, _, _, _, own, _⟩ := accepted_of_list answered continued
    exact own
  · intro query cursor apart
    have other : cursor.query ≠ query := fun same => apart (congrArg Query.scope same)
    exact ⟨Cursor.validate_of_other other, (list_of_other other).1⟩

/-- A directory read from the account by pages of one blob. -/
theorem account_drains_as_container_sample :
    ∃ pages, sample.Drains ⟨.container "c", "d/", true, some 1⟩ none pages ∧
      pages.map (fun page => (page.items.map Item.key, page.shown.2)) =
        [(["d/x"], some "d/x"), (["d/y"], none)] ∧
      ∃ others, sample.Drains ⟨.account, "c/d/", true, some 1⟩ none others ∧
        others.map Page.shown = pages.map Page.shown := by
  obtain ⟨pages, drained, keys⟩ : ∃ pages,
      sample.Drains ⟨.container "c", "d/", true, some 1⟩ none pages ∧
        pages.map (fun page => (page.items.map Item.key, page.shown.2)) =
          [(["d/x"], some "d/x"), (["d/y"], none)] :=
    ⟨_, .more rfl rfl (.last rfl rfl), rfl⟩
  have same := (account_drains_as_container sample true (some 1)).1 "c" "d/" "c/d/" (by decide)
    (by decide) (.inl rfl)
  exact ⟨pages, drained, keys, (same.drained _).2 ⟨pages, drained, rfl⟩⟩

end Store

end BlobDispatch
