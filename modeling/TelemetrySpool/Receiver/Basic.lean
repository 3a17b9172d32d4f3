import TelemetrySpool.Config.Basic
import TelemetrySpool.Pipeline
import TelemetrySpool.Sink.Outlets

/-!
# Receivers

A receiver has a pipeline with its outlets, the health of the pipeline, and a token that cancels all
requests. One that is set up from a configuration writes the files of all records and of errors, and
prints records if that is wanted; it accepts requests from several transports and from its owner.
-/

namespace TelemetrySpool

/-- A token that cancels requests, as those see it who look at it one after the other. It may be
cancelled at any time, also between two looks. -/
structure Token where
  /-- What each look comes to. -/
  cancelled : Nat → Bool
  /-- A token that is cancelled stays so. -/
  stays : ∀ n, cancelled n → cancelled (n + 1)
  /-- The number of the look that is taken next. -/
  next : Nat := 0

namespace Token

/-- The token that nobody cancels. -/
def fresh : Token := ⟨fun _ => false, fun _ h => h, 0⟩

/-- The looks that are taken next. -/
def upcoming (t : Token) : Nat → Bool := fun n => t.cancelled (t.next + n)

/-- Whether the next look finds the token cancelled. -/
def isCancelled (t : Token) : Bool := t.cancelled t.next

/-- The token after some looks. -/
def skip (t : Token) (count : Nat) : Token := { t with next := t.next + count }

/-- The token that every look from now on finds cancelled. -/
def cancel (t : Token) : Token where
  cancelled n := decide (t.next ≤ n) || t.cancelled n
  stays n h := by
    rw [Bool.or_eq_true, decide_eq_true_iff] at h ⊢
    exact h.imp (fun hn => Nat.le_succ_of_le hn) (t.stays n)
  next := t.next

end Token

/-- A receiver and everything it acts on. -/
structure Receiver where
  pipeline : Pipeline Outlets := {}
  health : Health := {}
  /-- The token that cancels all requests. -/
  token : Token := .fresh
  /-- The clock that tells when a record is made. -/
  clock : Clock
  outlets : Outlets

/-- Work on a receiver. -/
abbrev Work (α : Type) : Type := StateT Receiver Logged α

/-- Why a receiver cannot be set up, or an operation on it fails. -/
inductive ReceiverError where
  | config (error : ConfigError)
  | pipeline (error : PipelineError)
  | sink (error : SinkError)
  /-- The output directory cannot be created. -/
  | outputDir (path : Path) (error : FileError)
  deriving DecidableEq, Repr

namespace ReceiverError

/-- What is said of an output directory that cannot be created. -/
def outputDirText (path : Path) (error : FileError) : String :=
  "Failed to create output directory " ++ path ++ ": " ++ error.message

/-- The text of an error. -/
def message : ReceiverError → String
  | config error => "Configuration error: " ++ error.message
  | pipeline error => "Pipeline error: " ++ error.message
  | sink error => "Sink error: " ++ error.message
  | outputDir path error => "I/O error: " ++ outputDirText path error

/-- The text of what caused an error, as it is shown below the error. -/
def causeText : ReceiverError → String
  | config error => error.message
  | pipeline error => error.message
  | sink error => error.message
  | outputDir path error => outputDirText path error

end ReceiverError

/-- What a receiver depends on where it runs. -/
structure Host where
  /-- The volume, as the file sink of each stream finds it. -/
  volume : Stream → Volume
  /-- How many seconds local time is ahead of UTC at an instant. -/
  offset : Instant → Int

/-- A host with so many octets free on its volume, where local time is that of UTC. -/
def Host.roomy (bytes : Nat) : Host := ⟨fun _ => .ofFree bytes, fun _ => 0⟩

namespace Config

/-- The file sink of a stream. -/
def fileSink (config : Config) (host : Host) (stream : Stream) : FileSink where
  stream
  directory := config.outputDir
  maxMb := config.maxFileSizeMb
  volume := host.volume stream

/-- The pipeline of a configuration. -/
def pipeline (config : Config) (host : Host) : Logged (Pipeline Outlets) := do
  let p : Pipeline Outlets := { pretty := config.prettyJson }
  let p ← p.register (.file (config.fileSink host .all)) []
  let p ← p.register (.file (config.fileSink host .errors)) [.errorsOnly]
  if config.console.enabled then
    p.register (.console config.console.colored host.offset) []
  else pure p

end Config

namespace Receiver

/-- Creates the output directory of a valid configuration, and sets up its pipeline. -/
def setUp (config : Config) (host : Host) : Task Store ReceiverError (Pipeline Outlets) :=
  fun s =>
  match config.validate with
  | .error error => ⟨(.error (.config error), s), []⟩
  | .ok () =>
    match s.files.createDirectories config.outputDir with
    | (files, .error error) => ⟨(.error (.outputDir config.outputDir error), { s with files }), []⟩
    | (files, .ok ()) =>
      let p := config.pipeline host
      ⟨(.ok p.value, { s with files }),
        p.events ++ [⟨.info, "Initialized OTLP NDJSON pipeline",
          [("output_dir", .text config.outputDir),
            ("max_file_size_mb", .number config.maxFileSizeMb.toNat),
            ("sinks", .number p.value.sinks.length)]⟩]⟩

/-- Reports an event. -/
def announce (level : Level) (message : String) (details : List (String × Detail) := []) :
    Work Unit := fun r => ⟨((), r), [⟨level, message, details⟩]⟩

/-- Takes a reading of the clock. -/
def takeReading : Work Instant := fun r => ⟨(r.clock.now, { r with clock := r.clock.tick }), []⟩

/-- Works on the store. -/
def onStore {α : Type} (task : StoreTask α) : Work (Except SinkError α) := fun r =>
  let done := task r.outlets.store
  ⟨(done.value.1, { r with outlets.store := done.value.2 }), done.events⟩

/-- Registers a further sink. -/
def register (sink : Sink Outlets) (filters : List Filter) : Work Unit := fun r =>
  let p := r.pipeline.register sink filters
  ⟨((), { r with pipeline := p.value }), p.events⟩

/-- Offers a record to every sink, each of which looks at the token. -/
def dispatch (record : Record) : Work Report := fun r =>
  let p := r.pipeline.dispatch record r.token.upcoming r.health r.outlets
  let token := r.token.skip r.pipeline.sinks.length
  ⟨(p.value.report, { r with token, health := p.value.health, outlets := p.value.state }),
    p.events⟩

/-- Dispatches records side by side. -/
def dispatchTogether (records : List Record) : Work (List Report) := fun r =>
  let p := r.pipeline.dispatchTogether records r.token.upcoming r.health r.outlets
  let token := r.token.skip (r.pipeline.sinks.length * records.length)
  ⟨(p.value.1, { r with token, health := p.value.2.1, outlets := p.value.2.2 }), p.events⟩

/-- Writes a request that is declared to be of a signal. -/
def write (request : Request) (signal : Signal) : Work (Except PipelineError Report) := do
  let r ← get
  match r.pipeline.record request signal r.clock.now with
  | .error error => pure (.error error)
  | .ok record => do
    let _ ← takeReading
    let report ← dispatch record
    pure (.ok report)

/-- Writes a request as what it is. -/
def submit (request : Request) : Work (Except PipelineError Report) :=
  write request request.signal

/-- Cancels all requests from now on. -/
def cancel : Work Unit := modify fun r => { r with token := r.token.cancel }

/-- Cancels all requests and closes the files for good. -/
def shutDown : Work Unit := do
  announce .info "Shutting down OTLP NDJSON pipeline"
  cancel
  let _ ← onStore Store.shutDown

end Receiver

end TelemetrySpool
