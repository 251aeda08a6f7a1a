import AskSql.Session
import Mathlib.Tactic.Lemma

/-!
The laws of sessions.

A session that goes on after another one may be cut anywhere: what a path does is a matter of its
calls alone, not of how its steps are put in brackets.

* `LawfulMonad (Session σ)`: the laws of a monad.
* `Session.bind_apply_congr`: first parts that end alike are followed alike.
* `Session.of_bind_ok`: a session that ends in a value has gone through all of its parts.
* `Session.bind_pure_apply`: what is made of the value of a session changes nothing else.
* `Session.each_cons_of_error`, `Session.each_cons_of_ok`: the first item of a list, and the others.
* `Session.each_error_iff`: a session for each item of a list fails at the first item that fails.
* `Session.length_of_each`, `Session.exists_of_mem_each`: a session for each item of a list ends in
  as many values, and has come to an end for each of them.
* `Session.map_of_each`: the values tell the list if each tells its item.
* `Session.each_fst`: if no state matters to the value of any item, none matters to the whole.
* `Session.each_done`: if nobody is consulted for any item, nobody is consulted for the whole.
-/

namespace AskSql.Session

variable {σ α β : Type}

instance : LawfulMonad (Session σ) := by
  refine LawfulMonad.mk' _ (fun session => funext fun state => ?_) (fun _ _ => rfl)
    (fun session first second => funext fun state => ?_)
  · show session.andThen done state = session state
    rcases h : session state with ⟨_ | _, _⟩
    · exact andThen_of_error h
    · exact andThen_of_ok h
  · show (session.andThen first).andThen second state
      = session.andThen (fun x => (first x).andThen second) state
    rcases h : session state with ⟨_ | _, _⟩
    · rw [andThen_of_error (andThen_of_error h), andThen_of_error h]
    · rw [andThen_of_ok h]
      simp only [andThen, h]

/-- First parts that end alike are followed alike. -/
lemma bind_apply_congr {first second : Session σ α} {state state' : σ}
    (h : first state = second state') (next : α → Session σ β) :
    (first >>= next) state = (second >>= next) state' := by
  simp only [bind_eq_andThen, andThen, h]

/-- A session that ends in a value has gone through all of its parts. -/
lemma of_bind_ok {session : Session σ α} {next : α → Session σ β} {state last : σ} {y : β}
    (h : (session >>= next) state = (.ok y, last)) :
    ∃ x reached, session state = (.ok x, reached) ∧ next x reached = (.ok y, last) := by
  rw [bind_eq_andThen] at h
  rcases hfirst : session state with ⟨failure | x, reached⟩
  · rw [andThen_of_error hfirst] at h
    cases h
  · rw [andThen_of_ok hfirst] at h
    exact ⟨x, reached, rfl, h⟩

/-- A session that ends in a value reaches some state. -/
lemma exists_reached {session : Session σ α} {state : σ} {x : α}
    (h : (session state).1 = .ok x) : ∃ reached, session state = (.ok x, reached) :=
  ⟨(session state).2, Prod.ext h rfl⟩

/-- What is made of the value of a session neither makes it fail nor changes what it reaches. -/
lemma bind_pure_apply (session : Session σ α) (f : α → β) (state : σ) :
    (session >>= fun x => pure (f x)) state
      = ((session state).1.map f, (session state).2) := by
  rcases h : session state with ⟨failure | x, reached⟩
  · exact andThen_of_error h
  · exact andThen_of_ok h

lemma map_eq_error_iff {outcome : Except Failure α} {f : α → β} {failure : Failure} :
    outcome.map f = .error failure ↔ outcome = .error failure := by
  cases outcome <;> simp [Except.map]

/-- If the first item of a list fails, no other one is reached. -/
lemma each_cons_of_error {f : α → Session σ β} {x : α} {xs : List α} {state reached : σ}
    {failure : Failure} (h : f x state = (.error failure, reached)) :
    each f (x :: xs) state = (.error failure, reached) :=
  andThen_of_error h

/-- After the first item of a list, the others go on from the state that was reached. -/
lemma each_cons_of_ok {f : α → Session σ β} {x : α} {xs : List α} {state reached : σ} {y : β}
    (h : f x state = (.ok y, reached)) :
    each f (x :: xs) state
      = ((each f xs reached).1.map (y :: ·), (each f xs reached).2) := by
  rw [each, andThen_of_ok h]
  exact bind_pure_apply (each f xs) (y :: ·) reached

/-- A failure is the one of the first item that fails, in the state in which the items before it
have left the collaborators. -/
lemma each_error_iff {f : α → Session σ β} {xs : List α} {state : σ} {failure : Failure} :
    (each f xs state).1 = .error failure
      ↔ ∃ before x after ys reached, xs = before ++ x :: after
          ∧ each f before state = (.ok ys, reached) ∧ (f x reached).1 = .error failure := by
  constructor
  · intro h
    induction xs generalizing state with
    | nil => cases h
    | cons x xs ih =>
        rcases hx : f x state with ⟨cause | y, reached⟩
        · rw [each_cons_of_error hx] at h
          obtain rfl := Except.error.inj h
          exact ⟨[], x, xs, [], state, rfl, rfl, congrArg Prod.fst hx⟩
        · rw [each_cons_of_ok hx, map_eq_error_iff] at h
          obtain ⟨before, x', after, ys, last, rfl, hbefore, hx'⟩ := ih h
          refine ⟨x :: before, x', after, y :: ys, last, rfl, ?_, hx'⟩
          rw [each_cons_of_ok hx, hbefore]
          rfl
  · rintro ⟨before, x, after, ys, reached, rfl, hbefore, hx⟩
    induction before generalizing state ys with
    | nil =>
        obtain ⟨-, rfl⟩ := Prod.mk.inj hbefore
        rw [List.nil_append, each_cons_of_error (Prod.ext hx rfl)]
    | cons first before ih =>
        obtain ⟨y, middle, hfirst, -⟩ := of_bind_ok hbefore
        rw [each_cons_of_ok hfirst] at hbefore
        rcases hrest : each f before middle with ⟨cause | ys', last⟩
        · rw [hrest] at hbefore
          cases hbefore
        · rw [hrest] at hbefore
          obtain ⟨-, rfl⟩ := Prod.mk.inj hbefore
          rw [List.cons_append, each_cons_of_ok hfirst, map_eq_error_iff]
          exact ih ys' hrest

/-- There is one value for each item of a list. -/
lemma length_of_each {f : α → Session σ β} {xs : List α} {ys : List β}
    {state reached : σ} (h : each f xs state = (.ok ys, reached)) :
    ys.length = xs.length := by
  induction xs generalizing ys state reached with
  | nil =>
      obtain rfl := Except.ok.inj (congrArg Prod.fst h)
      rfl
  | cons x xs ih =>
      obtain ⟨y, _, -, hrest⟩ := of_bind_ok h
      obtain ⟨ys', _, hys, hdone⟩ := of_bind_ok hrest
      obtain rfl := Except.ok.inj (congrArg Prod.fst hdone)
      rw [List.length_cons, List.length_cons, ih hys]

/-- Each item of the list has come to a value, in the state that was reached by then. -/
lemma exists_of_mem_each {f : α → Session σ β} {xs : List α} {ys : List β} {state reached : σ}
    (h : each f xs state = (.ok ys, reached)) {x : α} (hx : x ∈ xs) :
    ∃ y before after, f x before = (.ok y, after) := by
  induction xs generalizing ys state reached with
  | nil => cases hx
  | cons first xs ih =>
      obtain ⟨y, after, hfirst, hrest⟩ := of_bind_ok h
      obtain ⟨ys', _, hys, -⟩ := of_bind_ok hrest
      rcases List.mem_cons.mp hx with rfl | hx
      · exact ⟨y, state, after, hfirst⟩
      · exact ih hys hx

/-- If each value tells which item it was made from, the values tell the list. -/
lemma map_of_each {f : α → Session σ β} {g : β → α}
    (hf : ∀ x y before after, f x before = (.ok y, after) → g y = x) {xs : List α} {ys : List β}
    {state reached : σ} (h : each f xs state = (.ok ys, reached)) : ys.map g = xs := by
  induction xs generalizing ys state reached with
  | nil =>
      obtain rfl := Except.ok.inj (congrArg Prod.fst h)
      rfl
  | cons x xs ih =>
      obtain ⟨y, _, hy, hrest⟩ := of_bind_ok h
      obtain ⟨ys', _, hys, hdone⟩ := of_bind_ok hrest
      obtain rfl := Except.ok.inj (congrArg Prod.fst hdone)
      rw [List.map_cons, hf _ _ _ _ hy, ih hys]

/-- Items may be prepared beforehand or when their turn comes. -/
lemma each_map {γ : Type} (f : α → Session σ β) (g : γ → α) (xs : List γ) :
    each f (xs.map g) = each (fun x => f (g x)) xs := by
  induction xs with
  | nil => rfl
  | cons x xs ih => rw [List.map_cons, each, each, ih]

/-- If every item comes to the same value in all states, so does the list. -/
lemma each_fst {f : α → Session σ β} {g : α → β} {xs : List α}
    (h : ∀ x ∈ xs, ∀ state, (f x state).1 = .ok (g x)) (state : σ) :
    (each f xs state).1 = .ok (xs.map g) := by
  induction xs generalizing state with
  | nil => rfl
  | cons x xs ih =>
      obtain ⟨reached, hrun⟩ := exists_reached (h x List.mem_cons_self state)
      obtain ⟨last, hrest⟩ :=
        exists_reached (ih (fun y hy => h y (List.mem_cons_of_mem x hy)) reached)
      rw [each, andThen_of_ok hrun, andThen_of_ok hrest]
      rfl

/-- If nobody is consulted for any item, nobody is consulted for the list. -/
lemma each_done {f : α → Session σ β} {g : α → β} {xs : List α} (h : ∀ x ∈ xs, f x = done (g x)) :
    each f xs = done (xs.map g) := by
  induction xs with
  | nil => rfl
  | cons x xs ih =>
      rw [each, h x List.mem_cons_self, ih fun y hy => h y (List.mem_cons_of_mem x hy)]
      rfl

end AskSql.Session
