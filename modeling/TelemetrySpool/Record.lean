import TelemetrySpool.Signal
import TelemetrySpool.Text.Split
import TelemetrySpool.Time.Instant

/-!
# Records

A record is a request on its way to the sinks: its signal, the line to store, whether it reports an
error, and when it was made. Filters decide which sinks see it.
-/

namespace TelemetrySpool

/-- A request as sinks see it; its signal is always a concrete one. -/
structure Record where
  signal : Signal
  /-- The text to store, with the line feed at its end. -/
  line : String
  isError : Bool
  /-- When the record was made. -/
  time : Instant
  signal_ne : signal ≠ .unspecified
  deriving DecidableEq, Repr

/-- The colors of the console. -/
inductive Color where
  | red
  | cyan
  | green
  | yellow
  | white
  deriving DecidableEq, Repr

namespace Record

/-- The record of a signal, unless that is unspecified. -/
def of? (signal : Signal) (line : String) (isError : Bool) (time : Instant) : Option Record :=
  if h : signal ≠ .unspecified then some ⟨signal, line, isError, time, h⟩ else none

/-- Whether a character ends a line. -/
def isLineEnd (c : Char) : Bool := c = '\r' || c = '\n'

/-- A record on the console: its local time, its signal, and its line without the line ends. How
many seconds local time is ahead of UTC depends on the instant. -/
def consoleLine (record : Record) (offset : Instant → Int) : String :=
  "[" ++ record.time.readable (offset record.time) ++ "] [" ++ record.signal.name ++ "] " ++
    String.ofList (Text.trimEnd isLineEnd record.line.toList)

/-- The color of a record on the console: red for errors, otherwise that of its signal. -/
def color (record : Record) : Color :=
  if record.isError then .red
  else
    match record.signal with
    | .traces => .cyan
    | .logs => .green
    | .metrics => .yellow
    | .unspecified => .white

end Record

/-- A test that a record has to pass to reach a sink. -/
structure Filter where
  /-- Whether a record passes. -/
  accepts : Record → Bool

namespace Filter

/-- Every record passes. -/
def all : Filter := ⟨fun _ => true⟩

/-- Errors pass. -/
def errorsOnly : Filter := ⟨fun record => record.isError⟩

/-- Records of one signal pass. -/
def ofSignal (signal : Signal) : Filter := ⟨fun record => record.signal = signal⟩

/-- Every record passes, or none does. -/
def constant (accepts : Bool) : Filter := ⟨fun _ => accepts⟩

end Filter

end TelemetrySpool
