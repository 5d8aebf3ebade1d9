import FilterSql.Error

/-!
# FilterSql.Database.Run

Computations on a state that may fail. What happened to the state before a failure stays: a
statement that was sent is not taken back when a later one fails.
-/

namespace FilterSql

def Run (s α : Type) : Type := s → Except Error α × s

namespace Run

instance {s : Type} : Monad (Run s) where
  pure a := fun state => (.ok a, state)
  bind run next := fun state =>
    match run state with
    | (.ok a, state) => next a state
    | (.error e, state) => (.error e, state)

theorem pure_apply {s α : Type} (a : α) (state : s) :
    (pure a : Run s α) state = (.ok a, state) := rfl

theorem bind_of_ok {s α β : Type} {run : Run s α} {next : α → Run s β} {state after : s} {a : α}
    (h : run state = (.ok a, after)) : (run >>= next) state = next a after := by
  simp only [bind, h]

theorem bind_of_error {s α β : Type} {run : Run s α} {next : α → Run s β} {state after : s}
    {e : Error} (h : run state = (.error e, after)) : (run >>= next) state = (.error e, after) := by
  simp only [bind, h]

theorem bind_apply {s α β : Type} (run : Run s α) (next : α → Run s β) (state : s) :
    (run >>= next) state =
      match run state with
      | (.ok a, state) => next a state
      | (.error e, state) => (.error e, state) := rfl

theorem bind_eq_ok {s α β : Type} {run : Run s α} {next : α → Run s β} {state after : s}
    {b : β} (h : (run >>= next) state = (.ok b, after)) :
    ∃ a between, run state = (.ok a, between) ∧ next a between = (.ok b, after) := by
  rcases hrun : run state with ⟨e | a, between⟩
  · rw [bind_of_error hrun] at h
    cases h
  · rw [bind_of_ok hrun] at h
    exact ⟨a, between, rfl, h⟩

@[simp] theorem pure_bind {s α β : Type} (a : α) (next : α → Run s β) :
    (pure a >>= next : Run s β) = next a := rfl

theorem bind_assoc {s α β γ : Type} (run : Run s α) (next : α → Run s β) (last : β → Run s γ) :
    (run >>= next) >>= last = run >>= fun a => next a >>= last := by
  funext state
  rcases hrun : run state with ⟨e | a, after⟩
  · rw [bind_of_error hrun, bind_of_error (bind_of_error hrun)]
  · rw [bind_of_ok hrun, bind_apply, bind_of_ok hrun]
    rfl

def fail {s α : Type} (e : Error) : Run s α := fun state => (.error e, state)

@[simp] theorem fail_apply {s α : Type} (e : Error) (state : s) :
    (fail e : Run s α) state = (.error e, state) := rfl

@[simp] theorem fail_bind {s α β : Type} (e : Error) (next : α → Run s β) :
    (fail e >>= next : Run s β) = fail e := rfl

def reject {s α : Type} (fault : Fault) : Run s α := fail (.invalidArgument fault)

def ofExcept {s α : Type} : Except Error α → Run s α
  | .ok a => pure a
  | .error e => fail e

@[simp] theorem ofExcept_ok {s α : Type} (a : α) : (ofExcept (.ok a) : Run s α) = pure a := rfl

@[simp] theorem ofExcept_error {s α : Type} (e : Error) :
    (ofExcept (.error e) : Run s α) = fail e := rfl

theorem ofExcept_apply {s α : Type} (x : Except Error α) (state : s) :
    (ofExcept x : Run s α) state = (x, state) := by
  cases x <;> rfl

def mapError {s α : Type} (f : Error → Error) (run : Run s α) : Run s α := fun state =>
  match run state with
  | (.ok a, state) => (.ok a, state)
  | (.error e, state) => (.error (f e), state)

theorem mapError_of_ok {s α : Type} {f : Error → Error} {run : Run s α} {state after : s} {a : α}
    (h : run state = (.ok a, after)) : mapError f run state = (.ok a, after) := by
  simp only [mapError, h]

theorem mapError_of_error {s α : Type} {f : Error → Error} {run : Run s α} {state after : s}
    {e : Error} (h : run state = (.error e, after)) :
    mapError f run state = (.error (f e), after) := by
  simp only [mapError, h]

/-! ## States with a part of their own -/

/-- The own part of the state. -/
def own {a s : Type} : Run (a × s) a := fun state => (.ok state.1, state)

@[simp] theorem own_bind {a s α : Type} (next : a → Run (a × s) α) (state : a × s) :
    (own >>= next) state = next state.1 state := rfl

def setOwn {a s : Type} (value : a) : Run (a × s) Unit := fun state => (.ok (), value, state.2)

@[simp] theorem setOwn_bind {a s α : Type} (value : a) (next : Unit → Run (a × s) α)
    (state : a × s) : (setOwn value >>= next) state = next () (value, state.2) := rfl

/-- A computation on the rest of the state. -/
def inner {a s α : Type} (run : Run s α) : Run (a × s) α := fun state =>
  let (result, rest) := run state.2
  (result, state.1, rest)

theorem inner_apply {a s α : Type} (run : Run s α) (state : a × s) :
    inner run state = ((run state.2).1, state.1, (run state.2).2) := rfl

theorem inner_bind {a s α β : Type} (run : Run s α) (next : α → Run (a × s) β) (state : a × s) :
    (inner run >>= next) state =
      match run state.2 with
      | (.ok result, rest) => next result (state.1, rest)
      | (.error e, rest) => (.error e, state.1, rest) := by
  rw [bind_apply, inner_apply]
  rcases run state.2 with ⟨_ | result, rest⟩ <;> rfl

/-- A computation with an own part that starts as `value` and is part of the result. -/
def withOwn {a s α : Type} (value : a) (run : Run (a × s) α) : Run s (α × a) := fun state =>
  match run (value, state) with
  | (.ok result, value, state) => (.ok (result, value), state)
  | (.error e, _, state) => (.error e, state)

end Run
end FilterSql
