import BlobDispatch.Proofs.Session.InPlace
import BlobDispatch.Proofs.Session.Tags

/-! Refused requests leave no trace. A request is carried out in place, and one that is refused has
changed nothing by then, whichever check it fails. A run is therefore the same without them: its
other answers, the tags that it gives out, the cursors that are accepted and where it ends. -/

namespace BlobDispatch.Session

/-- A run of requests carried out in place, each on the session as the one before has left it. -/
def serve (s : Session) : List Request → List (Except Error Response) × Session
  | [] => ([], s)
  | request :: rest =>
    let (answer, next) := request.perform.exec s
    let (answers, last) := next.serve rest
    (answer :: answers, last)

/-- The requests of a run that are answered without an error. -/
def accepted (s : Session) (requests : List Request) : List Request :=
  ((requests.zip (s.serve requests).1).filter fun asked => asked.2.isOk).map Prod.fst

section Run

variable {s : Session} {request : Request} {requests rest : List Request}

theorem exec_perform (s : Session) (request : Request) :
    request.perform.exec s = s.step request := by
  rw [commits_perform request s, step]
  dsimp only
  rcases s.apply request with _ | ⟨_, _⟩ <;> rfl

theorem serve_eq_run (s : Session) (requests : List Request) :
    s.serve requests = s.run requests := by
  induction requests generalizing s with
  | nil => rfl
  | cons request rest ih =>
    rw [serve, exec_perform, run]
    dsimp only
    rw [ih]

theorem step_of_error {error : Error} (refused : (s.step request).1 = .error error) :
    (s.step request).2 = s := by
  rw [← exec_perform] at refused ⊢
  exact (commits_perform request).unchanged refused

theorem accepted_of_ok {response : Response} (answered : (s.step request).1 = .ok response) :
    s.accepted (request :: rest) = request :: (s.step request).2.accepted rest := by
  rw [accepted, serve, exec_perform, List.zip_cons_cons, List.filter_cons_of_pos (by
    rw [answered]
    rfl)]
  rfl

theorem accepted_of_error {error : Error} (refused : (s.step request).1 = .error error) :
    s.accepted (request :: rest) = s.accepted rest := by
  rw [accepted, serve, exec_perform, List.zip_cons_cons, List.filter_cons_of_neg (by
    rw [refused]
    exact Bool.false_ne_true), step_of_error refused]
  rfl

theorem run_accepted (s : Session) (requests : List Request) :
    s.run (s.accepted requests) =
      ((s.run requests).1.filter fun answer => answer.isOk, (s.run requests).2) := by
  induction requests generalizing s with
  | nil => rfl
  | cons request rest ih =>
    cases answered : (s.step request).1 with
    | ok response =>
      rw [accepted_of_ok answered, run, run]
      dsimp only
      rw [ih, answered]
      rfl
    | error error =>
      rw [accepted_of_error answered, ih, run]
      dsimp only
      rw [answered, step_of_error answered]
      rfl

theorem issued_accepted (s : Session) (requests : List Request) :
    s.issued (s.accepted requests) = s.issued requests := by
  induction requests generalizing s with
  | nil => rfl
  | cons request rest ih =>
    cases answered : (s.step request).1 with
    | ok response => rw [accepted_of_ok answered, issued_cons, issued_cons, ih]
    | error error =>
      rw [accepted_of_error answered, ih, issued_cons, answered, written?_error,
        step_of_error answered]
      rfl

end Run

/-- Refused requests leave no trace. Carried out in place, whatever they have done by the time that
they fail a check, requests do what the run says; a refused one has left the whole session as it
was, its store, its registry and its saved cursors; and a run without those that it refuses gives
the same other answers, the same tags and the same session at the end. -/
theorem refusals_leave_no_trace (s : Session) (requests : List Request) :
    s.serve requests = s.run requests ∧
      (∀ (request : Request) (error : Error), (request.perform.exec s).1 = .error error →
        (request.perform.exec s).2 = s) ∧
      s.serve (s.accepted requests) =
        ((s.serve requests).1.filter fun answer => answer.isOk, (s.serve requests).2) ∧
      s.issued (s.accepted requests) = s.issued requests := by
  refine ⟨serve_eq_run s requests, ?_, ?_, issued_accepted s requests⟩
  · intro request error refused
    exact (commits_perform request).unchanged refused
  · rw [serve_eq_run, serve_eq_run]
    exact run_accepted s requests

/-- A run in which a check of every kind fails once. -/
def troubled : List Request :=
  [.store (.createContainer "c"), .store (.put "c" "" [] none .epoch),
    .store (.put "d" "x" [] none .epoch), .store (.put "c" "x" [1] none .epoch),
    .store (.setMetadata "c" "y" FoldedMap.empty), .store (.put "c" "y" [2] none .epoch),
    .register "t" "c/\x7bn" [], .register "t" "c/{n}" [("i", "d/{m}")], .register "t" "c/{n}" [],
    .register "T" "c/{n}" [],
    .list ((Listing.Query.ofContainer "c").withMaxResults 1) none none (some "k"),
    .list ((Listing.Query.ofContainer "c").withMaxResults 0) none none (some "k"),
    .list (Listing.Query.ofContainer "c") none (some "k") (some "k"),
    .list ((Listing.Query.ofContainer "c").withMaxResults 1) none (some "k") none]

/-- What is left of the run takes the same tags, and its last request still finds the cursor that
the first listing has put aside. -/
theorem refusals_leave_no_trace_troubled :
    (new {} {}).accepted troubled =
        [.store (.createContainer "c"), .store (.put "c" "x" [1] none .epoch),
          .store (.put "c" "y" [2] none .epoch), .register "t" "c/{n}" [],
          .list ((Listing.Query.ofContainer "c").withMaxResults 1) none none (some "k"),
          .list ((Listing.Query.ofContainer "c").withMaxResults 1) none (some "k") none] ∧
      (((new {} {}).serve troubled).1.filter fun answer => answer.isOk).length = 6 ∧
      ((new {} {}).serve ((new {} {}).accepted troubled)).2 = ((new {} {}).serve troubled).2 ∧
      (new {} {}).issued ((new {} {}).accepted troubled) = [⟨1⟩, ⟨2⟩] := by
  obtain ⟨_, _, same, tags⟩ := refusals_leave_no_trace (new {} {}) troubled
  refine ⟨rfl, rfl, ?_, tags.trans rfl⟩
  rw [same]

end BlobDispatch.Session
