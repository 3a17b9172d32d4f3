import TelemetrySpool.Health
import TelemetrySpool.Sink.Basic
import TelemetrySpool.Telemetry.Request

/-!
# Pipelines

A pipeline makes one record of each request and offers it to every registered sink whose filters it
passes. A sink that fails is reported and counted, and never keeps the record from the sinks after
it. Failures degrade the health of the pipeline; it recovers when a record is stored by a durable
sink and no sink fails.

A request may be cancelled while its record is on the way, so every sink finds out for itself: the
sequences of truth values say what each look comes to, the next one first.
-/

namespace TelemetrySpool

/-- What became of a record. -/
structure Report where
  /-- Sinks that took it. -/
  delivered : Nat := 0
  /-- Durable sinks among these. -/
  persisted : Nat := 0
  /-- Sinks that failed. -/
  failed : Nat := 0
  /-- Sinks that it did not reach because of a filter. -/
  skipped : Nat := 0
  /-- Sinks that gave up because the request was cancelled. -/
  cancelled : Nat := 0
  /-- Whether the record reports an error. -/
  isError : Bool := false
  deriving DecidableEq, Repr

namespace Report

/-- Whether a sink failed and none stored the record for good. -/
def allFailed (r : Report) : Bool := 0 < r.failed && r.persisted = 0

/-- Whether the record was cancelled before a sink stored it for good. -/
def interrupted (r : Report) : Bool := 0 < r.cancelled && r.persisted = 0

/-- Whether the record was stored for good and no sink failed. -/
def succeeded (r : Report) : Bool := r.failed = 0 && 0 < r.persisted

end Report

/-- Why a request becomes no record. -/
inductive PipelineError where
  | unspecifiedSignal
  | signalMismatch (expected actual : Signal)
  deriving DecidableEq, Repr

namespace PipelineError

/-- The text of an error. -/
def message : PipelineError → String
  | unspecifiedSignal => "Signal must be specified"
  | signalMismatch expected actual =>
    "Message of type " ++ actual.name ++ " cannot be written as " ++ expected.name

end PipelineError

/-- How far a record has come on its way through the sinks. -/
structure Progress (σ : Type) where
  report : Report
  health : Health
  /-- The state that the sinks act on. -/
  state : σ

namespace Registered

variable {σ : Type}

/-- Accounts for how a write of a record ended. -/
def account (r : Registered σ) (record : Record) (p : Progress σ) :
    Except SinkError Unit → Logged (Progress σ)
  | .ok () =>
    let report := { p.report with
      delivered := p.report.delivered + 1
      persisted := p.report.persisted + if r.sink.durable then 1 else 0 }
    pure { p with report }
  | .error .cancelled =>
    ⟨{ p with report := { p.report with cancelled := p.report.cancelled + 1 } },
      [⟨.debug, "Sink write cancelled",
        [("sink", .text r.sink.name), ("signal", .text record.signal.name)]⟩]⟩
  | .error error =>
    ⟨{ p with
        report := { p.report with failed := p.report.failed + 1 }
        health := p.health.fail (r.sink.name ++ ": " ++ error.message) },
      [⟨.warn, "Sink write failed, continuing with remaining sinks",
        [("sink", .text r.sink.name), ("signal", .text record.signal.name),
          ("error", .text error.message)]⟩]⟩

/-- Offers a record to a sink. -/
def offer (r : Registered σ) (record : Record) (cancelled : Bool) (p : Progress σ) :
    Logged (Progress σ) :=
  if r.admits record then do
    let (outcome, state) ← r.sink.write record cancelled p.state
    r.account record { p with state } outcome
  else pure { p with report := { p.report with skipped := p.report.skipped + 1 } }

end Registered

/-- The registered sinks, and how requests are written. -/
structure Pipeline (σ : Type) where
  /-- Whether the documents of requests take several lines. -/
  pretty : Bool := false
  /-- The sinks in the order in which records are offered to them. -/
  sinks : List (Registered σ) := []

namespace Pipeline

variable {σ : Type}

/-- Registers a further sink; without filters it gets every record. -/
def register (p : Pipeline σ) (sink : Sink σ) (filters : List Filter) : Logged (Pipeline σ) :=
  let registered := Registered.ofFilters sink filters
  ⟨{ p with sinks := p.sinks ++ [registered] },
    [⟨.debug, "Registering sink",
      [("sink", .text sink.name), ("filters", .number registered.filters.length)]⟩]⟩

/-- Offers a record to sinks one after the other. -/
def offers (record : Record) :
    (cancelled : Nat → Bool) → List (Registered σ) → Progress σ → Logged (Progress σ)
  | _, [], progress => pure progress
  | cancelled, r :: sinks, progress => do
    let progress ← r.offer record (cancelled 0) progress
    offers record (fun n => cancelled (n + 1)) sinks progress

/-- Offers a record to every sink. -/
def dispatch (p : Pipeline σ) (record : Record) (cancelled : Nat → Bool) (health : Health)
    (state : σ) : Logged (Progress σ) := do
  let start : Progress σ := ⟨{ isError := record.isError }, health, state⟩
  let progress ← offers record cancelled p.sinks start
  if progress.report.succeeded then pure { progress with health := progress.health.succeed }
  else pure progress

/-- Offers records to a sink one after the other; each has a report of its own. -/
def offerEach (r : Registered σ) :
    (cancelled : Nat → Bool) → List (Record × Report) → Health → σ →
      Logged (List (Record × Report) × Health × σ)
  | _, [], health, state => pure ([], health, state)
  | cancelled, (record, report) :: waiting, health, state => do
    let p ← r.offer record (cancelled 0) ⟨report, health, state⟩
    let (reports, health, state) ←
      offerEach r (fun n => cancelled (n + 1)) waiting p.health p.state
    pure ((record, p.report) :: reports, health, state)

/-- Offers records to sinks; a record that has been taken queues up for the next sink behind all
that still wait for this one. -/
def offerInTurn :
    (cancelled : Nat → Bool) → List (Registered σ) → List (Record × Report) → Health → σ →
      Logged (List (Record × Report) × Health × σ)
  | _, [], reports, health, state => pure (reports, health, state)
  | cancelled, r :: sinks, reports, health, state => do
    let count := reports.length
    let (reports, health, state) ← offerEach r cancelled reports health state
    offerInTurn (fun n => cancelled (n + count)) sinks reports health state

/-- Dispatches records side by side. They come to the sinks at once and are served in the order in
which they ask. -/
def dispatchTogether (p : Pipeline σ) (records : List Record) (cancelled : Nat → Bool)
    (health : Health) (state : σ) : Logged (List Report × Health × σ) := do
  let start := records.map fun record => (record, { isError := record.isError })
  let (reports, health, state) ← offerInTurn cancelled p.sinks start health state
  let reports := reports.map (·.2)
  pure (reports, if reports.any (·.succeeded) then health.succeed else health, state)

/-- The record of a request that is declared to be of a signal. -/
def record (p : Pipeline σ) (request : Request) (signal : Signal) (time : Instant) :
    Except PipelineError Record :=
  if h : signal = .unspecified then .error .unspecifiedSignal
  else if request.signal ≠ signal then .error (.signalMismatch signal request.signal)
  else .ok ⟨signal, request.line p.pretty, request.isError, time, h⟩

end Pipeline

end TelemetrySpool
