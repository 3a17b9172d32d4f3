import TelemetrySpool.Json.Reader
import TelemetrySpool.Json.Writer
import TelemetrySpool.Signal
import TelemetrySpool.Telemetry.Logs
import TelemetrySpool.Telemetry.Metrics
import TelemetrySpool.Telemetry.Traces

/-!
# Requests

A request asks to store telemetry of one signal. It arrives in JSON or in the binary form, is stored
as one JSON document per line, and counts as an error if it reports one: a span that failed or has
an exception event, or a log record that is severe or has an attribute of an exception.
-/

namespace TelemetrySpool

/-- A request to store telemetry. -/
inductive Request where
  | traces (request : TraceRequest)
  | logs (request : LogsRequest)
  | metrics (request : MetricsRequest)

/-- The forms in which a request arrives. -/
inductive Encoding where
  | json
  | binary
  deriving DecidableEq, Repr

/-- Why a body is no request. -/
inductive DecodeError where
  /-- The JSON document is not that of a request. -/
  | json
  /-- The octets are not the binary form of a request. -/
  | binary
  deriving DecidableEq, Repr

namespace Request

/-- The signal of a request. -/
def signal : Request → Signal
  | traces _ => .traces
  | logs _ => .logs
  | metrics _ => .metrics

/-- Every request is of a signal that can be stored. -/
theorem signal_ne (request : Request) : request.signal ≠ .unspecified := by
  cases request <;> exact Signal.noConfusion

/-- The JSON value of a request. -/
def toJson : Request → Json
  | traces request => TraceRequest.schema.toJson request
  | logs request => LogsRequest.schema.toJson request
  | metrics request => MetricsRequest.schema.toJson request

/-- The request of a signal with a JSON value. -/
def ofJson? : Signal → Json → Option Request
  | .unspecified, _ => none
  | .traces, json => (TraceRequest.schema.ofJson? json).map traces
  | .logs, json => (LogsRequest.schema.ofJson? json).map logs
  | .metrics, json => (MetricsRequest.schema.ofJson? json).map metrics

/-- How deeply messages may nest below a request in the binary form. -/
def maxNesting : Nat := 100

/-- The binary form of a request. -/
def toBinary : Request → Bytes
  | traces request => TraceRequest.schema.toWire request
  | logs request => LogsRequest.schema.toWire request
  | metrics request => MetricsRequest.schema.toWire request

/-- The request of a signal with a binary form. -/
def ofBinary? : Signal → Bytes → Option Request
  | .unspecified, _ => none
  | .traces, bytes => (TraceRequest.schema.merge? maxNesting {} bytes).map traces
  | .logs, bytes => (LogsRequest.schema.merge? maxNesting {} bytes).map logs
  | .metrics, bytes => (MetricsRequest.schema.merge? maxNesting {} bytes).map metrics

/-- Reads the body of a request of a signal. -/
def decode (signal : Signal) (encoding : Encoding) (body : Bytes) : Except DecodeError Request :=
  match encoding with
  | .json =>
    match (Json.parse? body).bind (ofJson? signal) with
    | some request => .ok request
    | none => .error .json
  | .binary =>
    match ofBinary? signal body with
    | some request => .ok request
    | none => .error .binary

/-- The JSON document of a request, in the pretty form or in the compact one. -/
def document (isPretty : Bool) (request : Request) : String := request.toJson.render isPretty

/-- The line that is stored for a request: its document and a line feed. -/
def line (isPretty : Bool) (request : Request) : String := request.document isPretty ++ "\n"

/-- The status code of a span that failed. -/
def errorStatus : Int32 := 2

/-- The name of the event that reports an exception. -/
def exceptionEvent : String := "exception"

/-- The least severity of an error. -/
def errorSeverity : Int32 := 17

/-- The attributes that describe an exception. -/
def exceptionKeys : List String :=
  ["exception.type", "exception.message", "exception.stacktrace"]

/-- Whether a span failed or has an exception event. -/
def spanIsError (span : Span) : Bool :=
  span.status.any (fun status => status.code = errorStatus) ||
    span.events.any fun event => event.name = exceptionEvent

/-- Whether a log record is severe or describes an exception. -/
def logRecordIsError (record : LogRecord) : Bool :=
  errorSeverity ≤ record.severityNumber ||
    record.attributes.any fun pair => exceptionKeys.contains pair.key

/-- Whether a request reports an error; metrics never do. -/
def isError : Request → Bool
  | traces request => request.spans.any spanIsError
  | logs request => request.logRecords.any logRecordIsError
  | metrics _ => false

end Request

end TelemetrySpool
