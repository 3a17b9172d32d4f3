import TelemetrySpool.Telemetry.Resource

/-!
# Logs

A log request holds resources, these hold scopes, and these hold log records.
-/

namespace TelemetrySpool

/-- One entry of a log. -/
structure LogRecord where
  timeUnixNano : UInt64 := 0
  observedTimeUnixNano : UInt64 := 0
  severityNumber : Int32 := 0
  severityText : String := ""
  body : Option AnyValue := none
  attributes : List KeyValue := []
  droppedAttributesCount : UInt32 := 0
  flags : UInt32 := 0
  traceId : Bytes := []
  spanId : Bytes := []
  eventName : String := ""

/-- The schema of log records. -/
def LogRecord.schema : Schema LogRecord where
  initial := {}
  strict := false
  fields := [
    ⟨"timeUnixNano", 1, .scalar .fixed64Text, (·.timeUnixNano),
      fun v m => { m with timeUnixNano := v }⟩,
    ⟨"observedTimeUnixNano", 11, .scalar .fixed64Text, (·.observedTimeUnixNano),
      fun v m => { m with observedTimeUnixNano := v }⟩,
    ⟨"severityNumber", 2, .scalar .int32, (·.severityNumber),
      fun v m => { m with severityNumber := v }⟩,
    ⟨"severityText", 3, .scalar .text, (·.severityText), fun v m => { m with severityText := v }⟩,
    ⟨"body", 5, AnyValue.format.option, (·.body), fun v m => { m with body := v }⟩,
    ⟨"attributes", 6, KeyValue.listFormat, (·.attributes), fun v m => { m with attributes := v }⟩,
    ⟨"droppedAttributesCount", 7, .scalar .uint32, (·.droppedAttributesCount),
      fun v m => { m with droppedAttributesCount := v }⟩,
    ⟨"flags", 8, .scalar .fixed32, (·.flags), fun v m => { m with flags := v }⟩,
    ⟨"traceId", 9, .scalar .hex, (·.traceId), fun v m => { m with traceId := v }⟩,
    ⟨"spanId", 10, .scalar .hex, (·.spanId), fun v m => { m with spanId := v }⟩,
    ⟨"eventName", 12, .scalar .text, (·.eventName), fun v m => { m with eventName := v }⟩]

/-- The log records of one scope. -/
structure ScopeLogs where
  scope : Option Scope := none
  logRecords : List LogRecord := []
  schemaUrl : String := ""

/-- The schema of the log records of a scope. -/
def ScopeLogs.schema : Schema ScopeLogs where
  initial := {}
  strict := false
  fields := [
    ⟨"scope", 1, Scope.schema.format.option, (·.scope), fun v m => { m with scope := v }⟩,
    ⟨"logRecords", 2, LogRecord.schema.format.list, (·.logRecords),
      fun v m => { m with logRecords := v }⟩,
    ⟨"schemaUrl", 3, .scalar .text, (·.schemaUrl), fun v m => { m with schemaUrl := v }⟩]

/-- The log records of one resource. -/
structure ResourceLogs where
  resource : Option Resource := none
  scopeLogs : List ScopeLogs := []
  schemaUrl : String := ""

/-- The schema of the log records of a resource. -/
def ResourceLogs.schema : Schema ResourceLogs where
  initial := {}
  strict := false
  fields := [
    ⟨"resource", 1, Resource.schema.format.option, (·.resource),
      fun v m => { m with resource := v }⟩,
    ⟨"scopeLogs", 2, ScopeLogs.schema.format.list, (·.scopeLogs),
      fun v m => { m with scopeLogs := v }⟩,
    ⟨"schemaUrl", 3, .scalar .text, (·.schemaUrl), fun v m => { m with schemaUrl := v }⟩]

/-- A request to store log records. -/
structure LogsRequest where
  resourceLogs : List ResourceLogs := []

/-- The schema of log requests. -/
def LogsRequest.schema : Schema LogsRequest where
  initial := {}
  strict := true
  fields := [
    ⟨"resourceLogs", 1, ResourceLogs.schema.format.list, (·.resourceLogs),
      fun v m => { m with resourceLogs := v }⟩]

/-- All log records of a request. -/
def LogsRequest.logRecords (request : LogsRequest) : List LogRecord :=
  request.resourceLogs.flatMap fun resource => resource.scopeLogs.flatMap (·.logRecords)

end TelemetrySpool
