/-!
# Signals

A signal is the kind of telemetry a request carries. Three signals are concrete and can be
stored; the fourth stands for a kind that is not known yet, and nothing may be written for it.
-/

namespace TelemetrySpool

/-- The kind of telemetry a request or a file belongs to. -/
inductive Signal where
  /-- Not known yet, so nothing can be stored for it. -/
  | unspecified
  /-- Spans of distributed traces. -/
  | traces
  /-- Log records. -/
  | logs
  /-- Measured values. -/
  | metrics
  deriving DecidableEq, Repr

namespace Signal

/-- The signals that can be stored, in the order in which all of them are cleared. -/
def concrete : List Signal := [.traces, .logs, .metrics]

/-- The lowercase word that stands for a signal in file names and on the console. -/
def name : Signal → String
  | unspecified => "unspecified"
  | traces => "traces"
  | logs => "logs"
  | metrics => "metrics"

/-- Reads a signal from its word. -/
def ofName? (text : String) : Option Signal :=
  [unspecified, traces, logs, metrics].find? fun s => s.name = text

/-- Every signal is read back from its own word. -/
theorem ofName?_name (s : Signal) : ofName? s.name = some s := by
  cases s <;> decide

/-- The concrete signals are all but the unspecified one. -/
theorem mem_concrete_iff (s : Signal) : s ∈ concrete ↔ s ≠ unspecified := by
  cases s <;> decide

end Signal

end TelemetrySpool
