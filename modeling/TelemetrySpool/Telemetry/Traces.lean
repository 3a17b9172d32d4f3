import TelemetrySpool.Telemetry.Resource

/-!
# Traces

A trace request holds resources, these hold scopes, and these hold spans. A span has events, links
to other spans and a status, which may be missing.
-/

namespace TelemetrySpool

/-- Something that happened during a span. -/
structure SpanEvent where
  timeUnixNano : UInt64 := 0
  name : String := ""
  attributes : List KeyValue := []
  droppedAttributesCount : UInt32 := 0

/-- The schema of events. -/
def SpanEvent.schema : Schema SpanEvent where
  initial := {}
  strict := false
  fields := [
    ⟨"timeUnixNano", 1, .scalar .fixed64Text, (·.timeUnixNano),
      fun v m => { m with timeUnixNano := v }⟩,
    ⟨"name", 2, .scalar .text, (·.name), fun v m => { m with name := v }⟩,
    ⟨"attributes", 3, KeyValue.listFormat, (·.attributes), fun v m => { m with attributes := v }⟩,
    ⟨"droppedAttributesCount", 4, .scalar .uint32, (·.droppedAttributesCount),
      fun v m => { m with droppedAttributesCount := v }⟩]

/-- A reference to another span. -/
structure SpanLink where
  traceId : Bytes := []
  spanId : Bytes := []
  traceState : String := ""
  attributes : List KeyValue := []
  droppedAttributesCount : UInt32 := 0
  flags : UInt32 := 0

/-- The schema of links. -/
def SpanLink.schema : Schema SpanLink where
  initial := {}
  strict := false
  fields := [
    ⟨"traceId", 1, .scalar .hex, (·.traceId), fun v m => { m with traceId := v }⟩,
    ⟨"spanId", 2, .scalar .hex, (·.spanId), fun v m => { m with spanId := v }⟩,
    ⟨"traceState", 3, .scalar .text, (·.traceState), fun v m => { m with traceState := v }⟩,
    ⟨"attributes", 4, KeyValue.listFormat, (·.attributes), fun v m => { m with attributes := v }⟩,
    ⟨"droppedAttributesCount", 5, .scalar .uint32, (·.droppedAttributesCount),
      fun v m => { m with droppedAttributesCount := v }⟩,
    ⟨"flags", 6, .scalar .fixed32, (·.flags), fun v m => { m with flags := v }⟩]

/-- How a span ended. -/
structure SpanStatus where
  message : String := ""
  code : Int32 := 0

/-- The schema of statuses. -/
def SpanStatus.schema : Schema SpanStatus where
  initial := {}
  strict := false
  fields := [
    ⟨"message", 2, .scalar .text, (·.message), fun v m => { m with message := v }⟩,
    ⟨"code", 3, .scalar .int32, (·.code), fun v m => { m with code := v }⟩]

/-- One operation of a trace. -/
structure Span where
  traceId : Bytes := []
  spanId : Bytes := []
  traceState : String := ""
  parentSpanId : Bytes := []
  flags : UInt32 := 0
  name : String := ""
  kind : Int32 := 0
  startTimeUnixNano : UInt64 := 0
  endTimeUnixNano : UInt64 := 0
  attributes : List KeyValue := []
  droppedAttributesCount : UInt32 := 0
  events : List SpanEvent := []
  droppedEventsCount : UInt32 := 0
  links : List SpanLink := []
  droppedLinksCount : UInt32 := 0
  status : Option SpanStatus := none

/-- The schema of spans. -/
def Span.schema : Schema Span where
  initial := {}
  strict := false
  fields := [
    ⟨"traceId", 1, .scalar .hex, (·.traceId), fun v m => { m with traceId := v }⟩,
    ⟨"spanId", 2, .scalar .hex, (·.spanId), fun v m => { m with spanId := v }⟩,
    ⟨"traceState", 3, .scalar .text, (·.traceState), fun v m => { m with traceState := v }⟩,
    ⟨"parentSpanId", 4, .scalar .hex, (·.parentSpanId), fun v m => { m with parentSpanId := v }⟩,
    ⟨"flags", 16, .scalar .fixed32, (·.flags), fun v m => { m with flags := v }⟩,
    ⟨"name", 5, .scalar .text, (·.name), fun v m => { m with name := v }⟩,
    ⟨"kind", 6, .scalar .int32, (·.kind), fun v m => { m with kind := v }⟩,
    ⟨"startTimeUnixNano", 7, .scalar .fixed64Text, (·.startTimeUnixNano),
      fun v m => { m with startTimeUnixNano := v }⟩,
    ⟨"endTimeUnixNano", 8, .scalar .fixed64Text, (·.endTimeUnixNano),
      fun v m => { m with endTimeUnixNano := v }⟩,
    ⟨"attributes", 9, KeyValue.listFormat, (·.attributes), fun v m => { m with attributes := v }⟩,
    ⟨"droppedAttributesCount", 10, .scalar .uint32, (·.droppedAttributesCount),
      fun v m => { m with droppedAttributesCount := v }⟩,
    ⟨"events", 11, SpanEvent.schema.format.list, (·.events), fun v m => { m with events := v }⟩,
    ⟨"droppedEventsCount", 12, .scalar .uint32, (·.droppedEventsCount),
      fun v m => { m with droppedEventsCount := v }⟩,
    ⟨"links", 13, SpanLink.schema.format.list, (·.links), fun v m => { m with links := v }⟩,
    ⟨"droppedLinksCount", 14, .scalar .uint32, (·.droppedLinksCount),
      fun v m => { m with droppedLinksCount := v }⟩,
    ⟨"status", 15, SpanStatus.schema.format.option, (·.status), fun v m => { m with status := v }⟩]

/-- The spans of one scope. -/
structure ScopeSpans where
  scope : Option Scope := none
  spans : List Span := []
  schemaUrl : String := ""

/-- The schema of the spans of a scope. -/
def ScopeSpans.schema : Schema ScopeSpans where
  initial := {}
  strict := false
  fields := [
    ⟨"scope", 1, Scope.schema.format.option, (·.scope), fun v m => { m with scope := v }⟩,
    ⟨"spans", 2, Span.schema.format.list, (·.spans), fun v m => { m with spans := v }⟩,
    ⟨"schemaUrl", 3, .scalar .text, (·.schemaUrl), fun v m => { m with schemaUrl := v }⟩]

/-- The spans of one resource. -/
structure ResourceSpans where
  resource : Option Resource := none
  scopeSpans : List ScopeSpans := []
  schemaUrl : String := ""

/-- The schema of the spans of a resource. -/
def ResourceSpans.schema : Schema ResourceSpans where
  initial := {}
  strict := false
  fields := [
    ⟨"resource", 1, Resource.schema.format.option, (·.resource),
      fun v m => { m with resource := v }⟩,
    ⟨"scopeSpans", 2, ScopeSpans.schema.format.list, (·.scopeSpans),
      fun v m => { m with scopeSpans := v }⟩,
    ⟨"schemaUrl", 3, .scalar .text, (·.schemaUrl), fun v m => { m with schemaUrl := v }⟩]

/-- A request to store spans. -/
structure TraceRequest where
  resourceSpans : List ResourceSpans := []

/-- The schema of trace requests. -/
def TraceRequest.schema : Schema TraceRequest where
  initial := {}
  strict := true
  fields := [
    ⟨"resourceSpans", 1, ResourceSpans.schema.format.list, (·.resourceSpans),
      fun v m => { m with resourceSpans := v }⟩]

/-- All spans of a request. -/
def TraceRequest.spans (request : TraceRequest) : List Span :=
  request.resourceSpans.flatMap fun resource => resource.scopeSpans.flatMap (·.spans)

end TelemetrySpool
