import TelemetrySpool.Event

/-!
# Tasks

A task works on a state, reports events, and ends with a value or with a cause of failure. What it
has done to the state before it fails stays done, and so do the events it has reported.
-/

namespace TelemetrySpool

/-- Work on a state of type `σ` that gives an `α` or fails with an `ε`. -/
def Task (σ ε α : Type) : Type := σ → Logged (Except ε α × σ)

namespace Task

variable {σ ε α β : Type}

instance : Monad (Task σ ε) where
  pure value := fun s => ⟨(.ok value, s), []⟩
  bind task next := fun s =>
    match (task s).value with
    | (.ok value, s') =>
      ⟨(next value s').value, (task s).events ++ (next value s').events⟩
    | (.error error, s') => ⟨(.error error, s'), (task s).events⟩

/-- Fails without doing anything. -/
def fail (error : ε) : Task σ ε α := fun s => ⟨(.error error, s), []⟩

/-- The value that a result holds, or failure with its cause. -/
def ofExcept (result : Except ε α) : Task σ ε α := fun s => ⟨(result, s), []⟩

/-- Reads the state. -/
def look (read : σ → α) : Task σ ε α := fun s => ⟨(.ok (read s), s), []⟩

/-- Changes the state. -/
def change (step : σ → σ) : Task σ ε Unit := fun s => ⟨(.ok (), step s), []⟩

/-- Reports an event. -/
def report (level : Level) (message : String) (details : List (String × Detail) := []) :
    Task σ ε Unit := fun s => ⟨(.ok (), s), [⟨level, message, details⟩]⟩

/-- The value, the state and the events of a task that ends with a value. -/
@[simp]
theorem pure_run (value : α) (s : σ) : (pure value : Task σ ε α) s = ⟨(.ok value, s), []⟩ := rfl

/-- A task that succeeds hands its value and its state to the next one. -/
theorem bind_of_ok {task : Task σ ε α} {s s' : σ} {value : α} {events : List Event}
    (h : task s = ⟨(.ok value, s'), events⟩) (next : α → Task σ ε β) :
    (task >>= next) s =
      ⟨(next value s').value, events ++ (next value s').events⟩ := by
  simp only [bind, h]

/-- A task that fails leaves nothing to the next one. -/
theorem bind_of_error {task : Task σ ε α} {s s' : σ} {error : ε} {events : List Event}
    (h : task s = ⟨(.error error, s'), events⟩) (next : α → Task σ ε β) :
    (task >>= next) s = ⟨(.error error, s'), events⟩ := by
  simp only [bind, h]

end Task

end TelemetrySpool
