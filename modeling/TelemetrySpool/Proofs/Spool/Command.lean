import TelemetrySpool.Proofs.Sink.Write

/-!
# Commands to a store

What can be asked of a store from outside, with the answers as data, so that different commands can
be compared and put in sequences. On a store that has been closed a command has one answer, which
is told here: a slot is asked for before anything else is done, and there is none to give, so only a
listing finds what it looks for.
-/

namespace TelemetrySpool

/-- What can be asked of a store. -/
inductive Command where
  /-- Writing a record, whose request may have been cancelled. -/
  | write (sink : FileSink) (record : Record) (cancelled : Bool)
  /-- Asking for the active base path of a key. -/
  | path (key : SlotKey)
  /-- Replacing the active base path of a key. -/
  | rotate (key : SlotKey)
  /-- Listing the files of a signal. -/
  | list (directory : Path) (signal : Signal)
  /-- Removing the files of a signal, or of all. -/
  | clear (directory : Path) (signal : Option Signal)

/-- What a command that succeeds tells. -/
inductive Answer where
  | written
  | path (path : Path)
  | paths (paths : List Path)
  | count (count : Nat)
  deriving DecidableEq

namespace Command

open Store

/-- Does a command. -/
def task : Command → StoreTask Answer
  | write sink record cancelled => do
    sink.write record cancelled
    pure .written
  | path key => do
    pure (.path (← requestPath key))
  | rotate key => do
    pure (.path (← requestRotation key))
  | list directory signal => do
    Task.ofExcept ((Store.list (← Task.look Store.files) directory signal).map .paths)
  | clear directory signal => do
    pure (.count (← Store.clear directory signal))

/-- Why a closed store has no slot of a signal. -/
def noSlot (signal : Signal) : SinkError :=
  if signal = .unspecified then .unspecifiedSignal else .shutDown

/-- What a command comes to on a closed store with some files. -/
def whenClosed (files : FileTree) : Command → Except SinkError Answer
  | write _ _ _ => .error .shutDown
  | path key => .error (noSlot key.signal)
  | rotate key => .error (noSlot key.signal)
  | list directory signal => (Store.list files directory signal).map .paths
  | clear _ signal => .error (signal.elim .shutDown noSlot)

variable {s : Store}

/-- A closed rotation has no slot to ask for. -/
theorem open?_of_closed {r : Rotation} (hc : r.closed = true) (key : SlotKey) :
    r.open? key = .error (noSlot key.signal) := by
  rw [Rotation.open?, if_pos hc, noSlot]
  split <;> rfl

/-- A closed store is not entered; that the request was cancelled too does not matter. -/
theorem ends_enter_of_closed (hc : s.rotation.closed = true) (key : SlotKey) (cancelled : Bool) :
    (enter key cancelled).Ends s (.error (noSlot key.signal)) s := by
  rw [enter]
  refine Task.ends_bind_iff.2 (.inr ⟨_, ?_, rfl⟩)
  simp only [Task.Ends, request, open?_of_closed hc key]

/-- What has to enter a closed store first does nothing. -/
theorem ends_enter_bind_of_closed (hc : s.rotation.closed = true) (key : SlotKey)
    (cancelled : Bool) {α : Type} (next : Unit → StoreTask α) :
    (enter key cancelled >>= next).Ends s (.error (noSlot key.signal)) s :=
  Task.ends_bind_iff.2 (.inr ⟨_, ends_enter_of_closed hc key cancelled, rfl⟩)

theorem ends_write_of_closed (hc : s.rotation.closed = true) (sink : FileSink) (record : Record)
    (cancelled : Bool) : (sink.write record cancelled).Ends s (.error .shutDown) s := by
  have hs : noSlot record.signal = .shutDown := if_neg record.signal_ne
  rw [← hs]
  exact ends_enter_bind_of_closed hc ⟨sink.directory, record.signal⟩ cancelled _

/-- A clear stops at its first signal. -/
theorem ends_clear_of_closed (hc : s.rotation.closed = true) (directory : Path)
    (signal : Option Signal) :
    (Store.clear directory signal).Ends s (.error (signal.elim .shutDown noSlot)) s := by
  have hfirst : ∀ first rest, (clearSignals directory (first :: rest)).Ends s
      (.error (noSlot first)) s := by
    intro first rest
    rw [clearSignals]
    refine Task.ends_bind_iff.2 (.inr ⟨_, ?_, rfl⟩)
    exact ends_enter_bind_of_closed hc ⟨directory, first⟩ false _
  rw [Store.clear]
  refine Task.ends_bind_iff.2 (.inr ⟨_, ?_, rfl⟩)
  cases signal with
  | none => exact hfirst .traces [.logs, .metrics]
  | some signal => exact hfirst signal []

/-- No command changes a closed store. -/
theorem ends_of_closed (hc : s.rotation.closed = true) (command : Command) :
    command.task.Ends s (command.whenClosed s.files) s := by
  cases command with
  | write sink record cancelled =>
    exact Task.ends_bind_iff.2 (.inr ⟨_, ends_write_of_closed hc sink record cancelled, rfl⟩)
  | path key =>
    exact Task.ends_bind_iff.2 (.inr ⟨_, ends_enter_bind_of_closed hc key false _, rfl⟩)
  | rotate key =>
    exact Task.ends_bind_iff.2 (.inr ⟨_, ends_enter_bind_of_closed hc key false _, rfl⟩)
  | list directory signal => rfl
  | clear directory signal =>
    exact Task.ends_bind_iff.2 (.inr ⟨_, ends_clear_of_closed hc directory signal, rfl⟩)

end Command

end TelemetrySpool
