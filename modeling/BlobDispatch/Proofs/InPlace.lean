import BlobDispatch.Proofs.Success

/-! Programs that change a state as they go. Nothing is undone when one throws, so what it has
written until then stays written. A program that checks before it writes cannot be told from a
function that gives a new state together with its value, and no state with an error. -/

namespace BlobDispatch

abbrev InPlace (σ ε : Type) := ExceptT ε (StateM σ)

namespace InPlace

variable {σ ε α β : Type}

/-- The answer of a program, and the state that it leaves whether it throws or not. -/
def exec (program : InPlace σ ε α) (s : σ) : Except ε α × σ := program.run.run s

/-- The answer and the state of a function that gives both or refuses. -/
def settle (s : σ) : Except ε (α × σ) → Except ε α × σ
  | .ok (value, next) => (.ok value, next)
  | .error error => (.error error, s)

def current : InPlace σ ε σ := get

def update (change : σ → σ) : InPlace σ ε Unit := modify change

/-- Asks something of the state that it may refuse to answer. -/
def ask (question : σ → Except ε α) : InPlace σ ε α := do
  match question (← current) with
  | .ok value => return value
  | .error error => throw error

/-- A program on a part of a state, as a program on all of it. The part is put back whether the
program throws or not. -/
def onPart {τ δ : Type} (part : τ → σ) (put : τ → σ → τ) (wrap : ε → δ)
    (program : InPlace σ ε α) : InPlace τ δ α :=
  ExceptT.mk fun t =>
    let (result, s) := program.exec (part t)
    (result.mapError wrap, put t s)

/-- The program leaves the state, whatever it answers. -/
def Asks (program : InPlace σ ε α) (question : σ → Except ε α) : Prop :=
  ∀ s, program.exec s = (question s, s)

/-- The program does what the function does, and has written nothing where it throws. -/
def Commits (program : InPlace σ ε α) (outcome : σ → Except ε (α × σ)) : Prop :=
  ∀ s, program.exec s = settle s (outcome s)

theorem exec_bind (program : InPlace σ ε α) (next : α → InPlace σ ε β) (s : σ) :
    (program >>= next).exec s = match program.exec s with
      | (.ok value, t) => (next value).exec t
      | (.error error, t) => (.error error, t) := by
  change (ExceptT.bindCont next (program.exec s).1).run (program.exec s).2 = _
  rcases program.exec s with ⟨_ | _, t⟩ <;> rfl

@[simp] theorem exec_update (change : σ → σ) (s : σ) :
    (update change : InPlace σ ε Unit).exec s = (.ok (), change s) := rfl

theorem asks_ask (question : σ → Except ε α) : Asks (ask question) question := by
  intro s
  rw [ask, exec_bind]
  change exec (match question s with
    | .ok value => pure value
    | .error error => throw error) s = _
  cases question s <;> rfl

theorem Asks.bind {program : InPlace σ ε α} {next : α → InPlace σ ε β} {question : σ → Except ε α}
    {further : α → σ → Except ε β} (first : Asks program question)
    (second : ∀ value, Asks (next value) (further value)) :
    Asks (program >>= next) fun s => question s >>= fun value => further value s := by
  intro s
  rw [exec_bind, first s]
  dsimp only
  cases question s with
  | error error => rfl
  | ok value => exact second value s

theorem Asks.map {program : InPlace σ ε α} {question : σ → Except ε α}
    (asks : Asks program question) (f : α → β) :
    Asks (program >>= fun value => pure (f value)) fun s => (question s).map f := by
  intro s
  rw [exec_bind, asks s]
  dsimp only
  cases question s <;> rfl

theorem Asks.commits_bind {program : InPlace σ ε α} {next : α → InPlace σ ε β}
    {question : σ → Except ε α} {outcome : α → σ → Except ε (β × σ)}
    (checked : Asks program question) (writes : ∀ value, Commits (next value) (outcome value)) :
    Commits (program >>= next) fun s => question s >>= fun value => outcome value s := by
  intro s
  rw [exec_bind, checked s]
  dsimp only
  cases question s with
  | error error => rfl
  | ok value => exact writes value s

theorem Asks.replies {program : InPlace σ ε α} {question : σ → Except ε α}
    (asks : Asks program question) (f : α → β) :
    Commits (program >>= fun value => pure (f value)) fun s =>
      (question s).map fun value => (f value, s) := by
  intro s
  rw [exec_bind, asks s]
  dsimp only
  cases question s <;> rfl

/-- What comes after the writes may only make something of the answer. -/
theorem Commits.replies {program : InPlace σ ε α} {outcome : σ → Except ε (α × σ)}
    (commits : Commits program outcome) (f : α → β) :
    Commits (program >>= fun value => pure (f value)) fun s =>
      (outcome s).map fun (value, next) => (f value, next) := by
  intro s
  rw [exec_bind, commits s]
  dsimp only
  rcases outcome s with _ | ⟨_, _⟩ <;> rfl

theorem Commits.acknowledges {program : InPlace σ ε Unit} {change : σ → Except ε σ}
    (commits : Commits program fun s => (change s).map ((), ·)) (reply : β) :
    Commits (program >>= fun _ => pure reply) fun s => (change s).map (reply, ·) := by
  intro s
  rw [exec_bind, commits s]
  dsimp only
  cases change s <;> rfl

theorem Commits.congr {program : InPlace σ ε α} {outcome other : σ → Except ε (α × σ)}
    (commits : Commits program outcome) (same : ∀ s, outcome s = other s) :
    Commits program other :=
  fun s => (commits s).trans (congrArg (settle s) (same s))

theorem Commits.unchanged {program : InPlace σ ε α} {outcome : σ → Except ε (α × σ)}
    (commits : Commits program outcome) {s : σ} {error : ε}
    (thrown : (program.exec s).1 = .error error) : (program.exec s).2 = s := by
  rw [commits s] at thrown ⊢
  generalize outcome s = result at thrown ⊢
  rcases result with _ | ⟨_, _⟩
  · rfl
  · cases thrown

section Part

variable {τ δ : Type} {part : τ → σ} {put : τ → σ → τ} {program : InPlace σ ε α}

theorem exec_onPart (wrap : ε → δ) (program : InPlace σ ε α) (t : τ) :
    (program.onPart part put wrap).exec t =
      ((program.exec (part t)).1.mapError wrap, put t (program.exec (part t)).2) := rfl

theorem Asks.onPart {question : σ → Except ε α} (asks : Asks program question)
    (put_part : ∀ t, put t (part t) = t) (wrap : ε → δ) :
    Asks (program.onPart part put wrap) fun t => (question (part t)).mapError wrap := by
  intro t
  rw [exec_onPart, asks, put_part]

theorem Commits.onPart {outcome : σ → Except ε (α × σ)} (commits : Commits program outcome)
    (put_part : ∀ t, put t (part t) = t) (wrap : ε → δ) :
    Commits (program.onPart part put wrap) fun t =>
      ((outcome (part t)).mapError wrap).map fun (value, s) => (value, put t s) := by
  intro t
  rw [exec_onPart, commits]
  dsimp only
  cases outcome (part t) with
  | ok written => rfl
  | error error => exact congrArg _ (put_part t)

end Part

end InPlace

end BlobDispatch
