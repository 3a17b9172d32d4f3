import TelemetrySpool.Files.Volume
import TelemetrySpool.Sink.Basic
import TelemetrySpool.Spool.Store

/-!
# File sinks

A file sink appends the line of a record to the file of its stream that belongs to the active base
path of the signal. A file that has grown over the limit is left behind for a new one first, and
nothing is written unless enough space stays free. The whole write is one step on the store.
-/

namespace TelemetrySpool

/-- A sink that appends records to files. -/
structure FileSink where
  stream : Stream
  directory : Path
  /-- The size in units of 1048576 octets above which a file is left behind. -/
  maxMb : UInt64
  volume : Volume

namespace FileSink

/-- The octets that have to stay free after a write. -/
def safetyBuffer : Nat := 104857600

/-- What has to be free for a line of that many octets; a number of sixty-four bits. -/
def required (length : Nat) : Nat := min (length + safetyBuffer) (UInt64.size - 1)

/-- The file that a record of a signal goes to, after leaving behind one that is too large. -/
def target (sink : FileSink) (signal : Signal) : StoreTask Path := do
  let key : SlotKey := ⟨sink.directory, signal⟩
  let path := FileName.ofStream (← Store.activePath key) sink.stream
  if ← Task.look fun s => Store.exceeds s.files path sink.maxMb then
    pure (FileName.ofStream (← Store.rotate key) sink.stream)
  else pure path

/-- The directory of a file. -/
def directoryOf (sink : FileSink) (target : Path) : Path :=
  (Path.parent? target).getD sink.directory

/-- Makes sure that enough space is free for a line of `length` octets. -/
def ensureSpace (sink : FileSink) (target : Path) (length : Nat) : StoreTask Unit := do
  let directory := sink.directoryOf target
  match ← Task.look fun s => sink.volume.space s.files directory with
  | .aborted reason => Task.fail (.spaceAborted reason)
  | .unreachable error => Task.fail (.file directory error)
  | .refused reason => Task.fail (.device directory reason)
  | .available bytes =>
    if bytes < required length then do
      Task.report .warn "Refusing write, disk space below safety buffer"
        [("file", .text target), ("available_bytes", .number bytes),
          ("required_bytes", .number (required length))]
      Task.fail (.insufficientSpace target bytes (required length))
    else pure ()

/-- Appends octets to a file, which is created if nothing stands there. If the volume breaks off,
those that it has taken stay in the file. -/
def appendOnce (sink : FileSink) (path : Path) (bytes : Bytes) : StoreTask Unit := do
  let broken ← Task.look fun s => sink.volume.breakOff? s.files path bytes
  Store.changeFiles path fun files => files.append path (sink.volume.taken files path bytes)
  match broken with
  | some (_, reason) => Task.fail (.device path reason)
  | none => pure ()

/-- Appends octets to a file; if its directory is missing, that is created first. -/
def append (sink : FileSink) (path : Path) (bytes : Bytes) : StoreTask Unit := do
  match ← Task.look fun s => s.files.append path bytes with
  | .error .notFound => do
    match Path.parent? path with
    | some parent => Store.createDirectories parent
    | none => pure ()
    sink.appendOnce path bytes
  | _ => sink.appendOnce path bytes

/-- Appends the line of a record to its file. -/
def write (sink : FileSink) (record : Record) (cancelled : Bool) : StoreTask Unit := do
  Store.enter ⟨sink.directory, record.signal⟩ cancelled
  let target ← sink.target record.signal
  let line := Bytes.ofText record.line
  sink.ensureSpace target line.length
  sink.append target line
  Task.report .trace "Appended record"
    [("signal", .text record.signal.name), ("file", .text target), ("bytes", .number line.length)]

end FileSink

end TelemetrySpool
