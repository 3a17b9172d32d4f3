import TelemetrySpool.Spool.FileName
import TelemetrySpool.Spool.Rotation
import TelemetrySpool.Task
import TelemetrySpool.Text.Quoted

/-!
# Stores

A store is what the sinks that write files share: the file tree, the rotation, and the clock that
names new files. The clock is a sequence of readings of which each use takes the next one, so that
any clock can be meant, also one that stands still or goes back.
-/

namespace TelemetrySpool

/-- A sequence of readings. -/
structure Clock where
  reading : Nat → Instant
  /-- The number of the reading that is taken next. -/
  next : Nat := 0

namespace Clock

/-- The clock that stands still. -/
def still (time : Instant) : Clock := ⟨fun _ => time, 0⟩

/-- The reading that is taken next. -/
def now (c : Clock) : Instant := c.reading c.next

/-- The clock after a reading. -/
def tick (c : Clock) : Clock := { c with next := c.next + 1 }

end Clock

/-- What file sinks share. -/
structure Store where
  files : FileTree := {}
  rotation : Rotation := {}
  clock : Clock

/-- Work on a store. -/
abbrev StoreTask (α : Type) : Type := Task Store SinkError α

namespace Store

/-- Takes a reading of the clock. -/
def takeReading : StoreTask Instant := fun s =>
  ⟨(.ok s.clock.now, { s with clock := s.clock.tick }), []⟩

/-- Changes the file tree; a failure is one on `path`. -/
def changeFiles (path : Path) (step : FileTree → Except FileError FileTree) : StoreTask Unit :=
  fun s =>
    match step s.files with
    | .ok files => ⟨(.ok (), { s with files }), []⟩
    | .error error => ⟨(.error (.file path error), s), []⟩

/-- Creates a directory with all directories above it. -/
def createDirectories (path : Path) : StoreTask Unit := fun s =>
  let (files, done) := s.files.createDirectories path
  ⟨(done.mapError (.file path), { s with files }), []⟩

/-- Changes the rotation. -/
def changeRotation (step : Rotation → Rotation) : StoreTask Unit :=
  Task.change fun s => { s with rotation := step s.rotation }

/-- Asks for the slot of a key. -/
def request (key : SlotKey) : StoreTask Unit := fun s =>
  match s.rotation.open? key with
  | .error error => ⟨(.error error, s), []⟩
  | .ok rotation => ⟨(.ok (), { s with rotation }), []⟩

/-- Gives up if the request was cancelled. -/
def unlessCancelled (cancelled : Bool) : StoreTask Unit :=
  if cancelled then Task.fail .cancelled else pure ()

/--
Tries to lease a slot that has been asked for; false if somebody else holds it. A request that was
cancelled gets no lease, even if nobody holds one.
-/
def acquire (key : SlotKey) (cancelled : Bool) : StoreTask Bool := do
  unlessCancelled cancelled
  if ← Task.look fun s => (s.rotation.slot key).leased then pure false
  else do
    changeRotation fun r => r.mark key true
    pure true

/-- Asks for the slot of a key and tries to lease it. -/
def lease (key : SlotKey) (cancelled : Bool) : StoreTask Bool := do
  request key
  acquire key cancelled

/-- Asks for the slot of a key for one step that nobody interrupts, unless that was cancelled. -/
def enter (key : SlotKey) (cancelled : Bool) : StoreTask Unit := do
  request key
  unlessCancelled cancelled

/-- Gives a lease back. -/
def release (key : SlotKey) : StoreTask Unit := changeRotation fun r => r.mark key false

/-- The active base path of a key, or a new one named by the clock in a directory that exists. -/
def activePath (key : SlotKey) : StoreTask Path := do
  match ← Task.look fun s => s.rotation.active? key with
  | some path => pure path
  | none => do
    createDirectories key.directory
    let path := FileName.basePath key.directory key.signal (← takeReading)
    Task.report .info "Opened new telemetry file"
      [("signal", .text key.signal.name), ("file", .text path)]
    changeRotation fun r => r.activate key (some path)
    pure path

/--
The base path for an instant, or for the first millisecond after it whose path is not the active
one, in whichever way that is written. Two names one millisecond apart differ, so no more than one
step is ever needed.
-/
def freshPath (key : SlotKey) (active : Option Path) : (fuel : Nat) → Instant → Path
  | 0, time => FileName.basePath key.directory key.signal time
  | fuel + 1, time =>
    let path := FileName.basePath key.directory key.signal time
    if active.map Path.route = some path.route then freshPath key active fuel (time.addMillis 1)
    else path

/-- How many milliseconds `freshPath` may move on; it moves on by one at most. -/
def freshPathSteps : Nat := 8

/-- How a report writes a path that may be absent. -/
def optionalPathText : Option Path → String
  | none => "None"
  | some path => "Some(" ++ String.ofList (Text.quoted path.toList) ++ ")"

/-- Replaces the active base path of a key by a new one named by the clock. -/
def rotate (key : SlotKey) : StoreTask Path := do
  let active ← Task.look fun s => s.rotation.active? key
  let path := freshPath key active freshPathSteps (← takeReading)
  Task.report .info "Rotated telemetry file"
    [("signal", .text key.signal.name), ("previous", .text (optionalPathText active)),
      ("file", .text path)]
  changeRotation fun r => r.activate key (some path)
  pure path

/-- The active base path of a key, for a caller without a lease. -/
def requestPath (key : SlotKey) : StoreTask Path := do
  enter key false
  activePath key

/-- Replaces the active base path of a key, for a caller without a lease. -/
def requestRotation (key : SlotKey) : StoreTask Path := do
  enter key false
  rotate key

/-- Octets in one unit of the size limit of files. -/
def bytesPerMb : Nat := 1048576

/-- The size limit in octets, which is a number of sixty-four bits. -/
def sizeLimit (maxMb : UInt64) : Nat := min (maxMb.toNat * bytesPerMb) (UInt64.size - 1)

/-- Whether there is a file at a path that is larger than the limit. -/
def exceeds (files : FileTree) (path : Path) (maxMb : UInt64) : Bool :=
  (files.size? path).any fun size => sizeLimit maxMb < size

/-- The paths of the files of a signal in a directory, oldest first. -/
def list (files : FileTree) (directory : Path) (signal : Signal) : Except SinkError (List Path) :=
  match files.list directory with
  | .ok names =>
    let own := names.filter fun name => FileName.belongsTo signal name
    .ok ((own.mergeSort fun a b => a ≤ b).map (Path.join directory))
  | .error .notFound => .ok []
  | .error error => .error (.file directory error)

/-- How many times it is tried to remove a file. -/
def removeAttempts : Nat := 3

/-- Tries to remove a file; the answer is why it still stands there. -/
def tryRemove (path : Path) : StoreTask (Option FileError) := fun s =>
  match s.files.remove path with
  | .ok files => ⟨(.ok none, { s with files }), []⟩
  | .error .notFound => ⟨(.ok none, s), []⟩
  | .error error => ⟨(.ok (some error), s), []⟩

/-- Removes a file, if there is one; after a failure it is tried `left` times again. -/
def removeFrom (path : Path) : (left : Nat) → StoreTask Unit
  | 0 => do
    match ← tryRemove path with
    | none => pure ()
    | some error => Task.fail (.file path error)
  | left + 1 => do
    match ← tryRemove path with
    | none => pure ()
    | some error => do
      Task.report .warn "Failed to delete telemetry file, retrying"
        [("file", .text path), ("attempt", .number (removeAttempts - (left + 1))),
          ("error", .text error.message)]
      removeFrom path left

/-- Removes a file, if there is one. -/
def remove (path : Path) : StoreTask Unit := removeFrom path (removeAttempts - 1)

/-- Removes files one after the other and counts them. -/
def removeAll : List Path → StoreTask Nat
  | [] => pure 0
  | path :: rest => do
    remove path
    let count ← removeAll rest
    pure (count + 1)

/-- Removes the files of one signal, which then has no active path. -/
def clearSignal (directory : Path) (signal : Signal) : StoreTask Nat := do
  let key : SlotKey := ⟨directory, signal⟩
  enter key false
  changeRotation fun r => r.activate key none
  let paths ← Task.look fun s => list s.files directory signal
  removeAll (← Task.ofExcept paths)

/-- Removes the files of several signals one after the other and counts them. -/
def clearSignals (directory : Path) : List Signal → StoreTask Nat
  | [] => pure 0
  | signal :: rest => do
    let count ← clearSignal directory signal
    let others ← clearSignals directory rest
    pure (count + others)

/-- Removes the files of one signal, or of all, and counts them. -/
def clear (directory : Path) (signal : Option Signal) : StoreTask Nat := do
  let count ← clearSignals directory (signal.elim Signal.concrete fun signal => [signal])
  Task.report .info "Cleared telemetry files"
    [("output_dir", .text directory), ("deleted", .number count)]
  pure count

/-- Closes the rotation. -/
def shutDown : StoreTask Unit := do
  let count ← Task.look fun s => s.rotation.count
  Task.report .debug "Disposing rotation state" [("slots", .number count)]
  changeRotation Rotation.close

end Store

end TelemetrySpool
