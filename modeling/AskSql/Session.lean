import AskSql.Failure

/-!
Sessions: computations that consult collaborators.

A session runs on the state of the collaborators it talks to and ends in a value or a failure. The
state it reaches is kept in either case: a call that fails has still been made.

* `Session`: the computations, a monad in which a failure skips what follows.
* `Session.each`: one session for each item of a list, up to the first failure.
* `CallMode`: whether a collaborator's blocking or asynchronous entry point is used. What consults
  collaborators is written twice, once for each of them, under names that end in `Blocking` and
  `Async`; the name without an ending is the one of the two that a mode picks.
-/

namespace AskSql

/-- A computation on the state of collaborators, ending in a value or a failure. -/
def Session (σ α : Type) : Type := σ → Except Failure α × σ

/-- Which entry point of a collaborator a path uses. -/
inductive CallMode where
  | blocking
  | async
deriving DecidableEq, Repr

namespace Session

variable {σ α β : Type}

/-- Ends in a value without consulting anyone. -/
def done (x : α) : Session σ α := fun state => (.ok x, state)

/-- Ends in a failure without consulting anyone. -/
def fail (failure : Failure) : Session σ α := fun state => (.error failure, state)

/-- Goes on with the value of a session, unless it fails. -/
def andThen (session : Session σ α) (next : α → Session σ β) : Session σ β := fun state =>
  match session state with
  | (.ok x, state) => next x state
  | (.error failure, state) => (.error failure, state)

instance : Monad (Session σ) where
  pure := done
  bind := andThen

/-- Ends in what has been found without consulting anyone. -/
def ofExcept : Except Failure α → Session σ α
  | .ok x => done x
  | .error failure => fail failure

/-- The session with its failure told in another way. -/
def mapFailure (f : Failure → Failure) (session : Session σ α) : Session σ α := fun state =>
  match session state with
  | (.ok x, state) => (.ok x, state)
  | (.error failure, state) => (.error (f failure), state)

/-- Runs a session for each item, in order, up to the first failure. -/
def each (f : α → Session σ β) : List α → Session σ (List β)
  | [] => done []
  | x :: xs => (f x).andThen fun y => (each f xs).andThen fun ys => done (y :: ys)

/-! ### How the parts compose -/

@[simp] theorem pure_apply (x : α) (state : σ) :
    (pure x : Session σ α) state = (.ok x, state) := rfl

@[simp] theorem done_apply (x : α) (state : σ) :
    (done x : Session σ α) state = (.ok x, state) := rfl

@[simp] theorem fail_apply (failure : Failure) (state : σ) :
    (fail failure : Session σ α) state = (.error failure, state) := rfl

theorem bind_eq_andThen (session : Session σ α) (next : α → Session σ β) :
    session >>= next = session.andThen next := rfl

/-- After a value, the next session runs from the state that was reached. -/
theorem andThen_of_ok {session : Session σ α} {next : α → Session σ β} {state state' : σ} {x : α}
    (h : session state = (.ok x, state')) : session.andThen next state = next x state' := by
  simp [andThen, h]

/-- After a failure nothing else runs. -/
theorem andThen_of_error {session : Session σ α} {next : α → Session σ β} {state state' : σ}
    {failure : Failure} (h : session state = (.error failure, state')) :
    session.andThen next state = (.error failure, state') := by
  simp [andThen, h]

end Session

end AskSql
