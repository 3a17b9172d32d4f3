/-!
# Events

Operations report what they do as events for a log. A logged value comes with the events reported
while it was made; when one logged step follows another, so do their events.
-/

namespace TelemetrySpool

/-- How much an event matters. -/
inductive Level where
  | trace
  | debug
  | info
  | warn
  | error
  deriving DecidableEq, Repr

namespace Level

/-- The name of a level in a log. -/
def name : Level → String
  | trace => "TRACE"
  | debug => "DEBUG"
  | info => "INFO"
  | warn => "WARN"
  | error => "ERROR"

end Level

/-- A value that an event carries. -/
inductive Detail where
  | text (value : String)
  | number (value : Nat)
  | flag (value : Bool)
  deriving DecidableEq, Repr

/-- Something that an operation reports. -/
structure Event where
  level : Level
  message : String
  /-- What the event carries, by name. -/
  details : List (String × Detail) := []
  deriving DecidableEq, Repr

/-- A value with the events that were reported while it was made. -/
structure Logged (α : Type) where
  value : α
  events : List Event
  deriving DecidableEq, Repr

namespace Logged

instance : Monad Logged where
  pure value := ⟨value, []⟩
  bind logged next := ⟨(next logged.value).value, logged.events ++ (next logged.value).events⟩

/-- A plain value comes without events. -/
@[simp]
theorem pure_eq {α : Type} (value : α) : (pure value : Logged α) = ⟨value, []⟩ := rfl

/-- The events of a step precede those of the step that follows it. -/
@[simp]
theorem bind_eq {α β : Type} (logged : Logged α) (next : α → Logged β) :
    logged >>= next = ⟨(next logged.value).value, logged.events ++ (next logged.value).events⟩ :=
  rfl

instance : LawfulMonad Logged :=
  LawfulMonad.mk' Logged
    (fun x => by cases x; simp [Functor.map])
    (fun _ _ => by simp)
    (fun x f g => by simp [List.append_assoc])

/-- Reports one event. -/
def report (event : Event) : Logged Unit := ⟨(), [event]⟩

end Logged

end TelemetrySpool
