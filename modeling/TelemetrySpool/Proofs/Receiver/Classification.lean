import Mathlib.Logic.Basic
import TelemetrySpool.Proofs.Receiver.Isolation

/-!
# Which requests report an error

Of a request not much is looked at: the status code of a span and the names of its events, or the
severity of a log record and the keys of its attributes. One span or record that reports an error
makes the whole request one, wherever it stands; so neither the order nor the grouping matters, and
a request made of two is one exactly if one of the two is. A sink behind the filter for errors is
called for these requests, and for no others.
-/

namespace TelemetrySpool

theorem exists_mem_flatMap_iff {α β : Type} {l : List α} {f : α → List β} {p : β → Prop} :
    (∃ b ∈ l.flatMap f, p b) ↔ ∃ a ∈ l, ∃ b ∈ f a, p b := by
  constructor
  · rintro ⟨b, hb, hp⟩
    obtain ⟨a, ha, hb⟩ := List.mem_flatMap.1 hb
    exact ⟨a, ha, b, hb, hp⟩
  · rintro ⟨a, ha, b, hb, hp⟩
    exact ⟨b, List.mem_flatMap.2 ⟨a, ha, hb⟩, hp⟩

/-- What is looked at of a span or a log record. -/
inductive Evidence where
  /-- The status code, if there is a status, and the names of the events. -/
  | span (code : Option Int32) (events : List String)
  /-- The severity, and the keys of the attributes. -/
  | record (severity : Int32) (keys : List String)

namespace Evidence

def ofSpan (span : Span) : Evidence :=
  .span (span.status.map (·.code)) (span.events.map (·.name))

def ofRecord (record : LogRecord) : Evidence :=
  .record record.severityNumber (record.attributes.map (·.key))

/-- Whether an error is reported. -/
def Reports : Evidence → Prop
  | span code events => code = some 2 ∨ "exception" ∈ events
  | record severity keys =>
    17 ≤ severity.toInt ∨
      ∃ key ∈ keys, key ∈ ["exception.type", "exception.message", "exception.stacktrace"]

/-- A span reports an error by its status or by an exception event. -/
theorem reports_ofSpan_iff (span : Span) : (ofSpan span).Reports ↔
    (∃ status, span.status = some status ∧ status.code = 2) ∨
      ∃ event ∈ span.events, event.name = "exception" := by
  simp only [ofSpan, Reports, Option.map_eq_some_iff, List.mem_map]

/-- A log record reports one by its severity or by an exception attribute. -/
theorem reports_ofRecord_iff (record : LogRecord) : (ofRecord record).Reports ↔
    17 ≤ record.severityNumber.toInt ∨ ∃ pair ∈ record.attributes,
      pair.key ∈ ["exception.type", "exception.message", "exception.stacktrace"] := by
  simp only [ofRecord, Reports, List.mem_map, exists_exists_and_eq_and]

end Evidence

namespace Request

open Evidence

/-- The classifier looks at a span for what it reports. -/
theorem spanIsError_iff (span : Span) : spanIsError span = true ↔ (ofSpan span).Reports := by
  rw [reports_ofSpan_iff, spanIsError, Bool.or_eq_true, List.any_eq_true, Option.any_eq_true]
  refine or_congr (exists_congr fun status => and_congr_right fun _ => decide_eq_true_iff) ?_
  exact exists_congr fun event => and_congr_right fun _ => decide_eq_true_iff

/-- And at a log record. -/
theorem logRecordIsError_iff (record : LogRecord) :
    logRecordIsError record = true ↔ (ofRecord record).Reports := by
  rw [reports_ofRecord_iff, logRecordIsError, Bool.or_eq_true, List.any_eq_true,
    decide_eq_true_iff, Int32.le_iff_toInt_le]
  simp only [List.contains_iff_mem, exceptionKeys]
  rfl

/-- What is looked at of a request, by resources and by scopes. -/
def layout : Request → List (List (List Evidence))
  | traces request =>
    request.resourceSpans.map fun resource =>
      resource.scopeSpans.map fun scope => scope.spans.map ofSpan
  | logs request =>
    request.resourceLogs.map fun resource =>
      resource.scopeLogs.map fun scope => scope.logRecords.map ofRecord
  | metrics _ => []

/-- What is looked at of a request. -/
def evidence (request : Request) : List Evidence := request.layout.flatten.flatten

/-- The evidence of traces are their spans. -/
theorem evidence_traces (request : TraceRequest) :
    (traces request).evidence = request.spans.map ofSpan := by
  simp only [evidence, layout, TraceRequest.spans, List.flatMap_def, List.flatten_flatten,
    List.map_flatten, List.map_map, Function.comp_def]

/-- The evidence of logs are their records. -/
theorem evidence_logs (request : LogsRequest) :
    (logs request).evidence = request.logRecords.map ofRecord := by
  simp only [evidence, layout, LogsRequest.logRecords, List.flatMap_def, List.flatten_flatten,
    List.map_flatten, List.map_map, Function.comp_def]

/-- A request is an error if something in it reports one. -/
theorem isError_iff (request : Request) :
    request.isError = true ↔ ∃ item ∈ request.evidence, item.Reports := by
  cases request with
  | traces request =>
    rw [isError, evidence_traces, List.any_eq_true]
    simp only [spanIsError_iff, List.mem_map, exists_exists_and_eq_and]
  | logs request =>
    rw [isError, evidence_logs, List.any_eq_true]
    simp only [logRecordIsError_iff, List.mem_map, exists_exists_and_eq_and]
  | metrics _ =>
    rw [isError, evidence, layout]
    simp

/-- Nothing but the evidence counts, and neither its order nor its grouping. -/
theorem isError_eq_of_mem_iff {request request' : Request}
    (h : ∀ item, item ∈ request.evidence ↔ item ∈ request'.evidence) :
    request.isError = request'.isError := by
  rw [Bool.eq_iff_iff, isError_iff, isError_iff]
  simp only [h]

/-- The evidence of two requests makes an error if that of one of them does. -/
theorem isError_eq_or {request first second : Request}
    (h : request.evidence = first.evidence ++ second.evidence) :
    request.isError = (first.isError || second.isError) := by
  rw [Bool.eq_iff_iff, Bool.or_eq_true, isError_iff, isError_iff, isError_iff, h]
  simp only [List.mem_append, or_and_right, exists_or]

/-- Traces are errors if a span among them reports one. -/
theorem isError_traces_iff (request : TraceRequest) : (traces request).isError = true ↔
    ∃ resource ∈ request.resourceSpans, ∃ scope ∈ resource.scopeSpans, ∃ span ∈ scope.spans,
      (∃ status, span.status = some status ∧ status.code = 2) ∨
        ∃ event ∈ span.events, event.name = "exception" := by
  rw [isError, List.any_eq_true, TraceRequest.spans]
  simp only [exists_mem_flatMap_iff, spanIsError_iff, reports_ofSpan_iff]

/-- Logs are errors if a record among them reports one. -/
theorem isError_logs_iff (request : LogsRequest) : (logs request).isError = true ↔
    ∃ resource ∈ request.resourceLogs, ∃ scope ∈ resource.scopeLogs,
      ∃ record ∈ scope.logRecords, 17 ≤ record.severityNumber.toInt ∨
        ∃ pair ∈ record.attributes,
          pair.key ∈ ["exception.type", "exception.message", "exception.stacktrace"] := by
  rw [isError, List.any_eq_true, LogsRequest.logRecords]
  simp only [exists_mem_flatMap_iff, logRecordIsError_iff, reports_ofRecord_iff]

end Request

namespace Pipeline

variable {σ : Type}

/-- The calls that writing a request comes to: those of its record, and none if it becomes none. -/
def callsFor (p : Pipeline σ) (request : Request) (signal : Signal) (time : Instant)
    (cancelled : Nat → Bool) (health : Health) (state : σ) : List (Call σ) :=
  (p.record request signal time).toOption.elim [] fun record =>
    p.calls record cancelled health state

/-- A sink is called if the record passes its filters. -/
theorem exists_call_iff (pretty : Bool) {sinks : List (Sink σ × List Filter)} {position : Nat}
    {sink : Sink σ} {filters : List Filter} (h : sinks[position]? = some (sink, filters))
    (record : Record) (cancelled : Nat → Bool) (health : Health) (state : σ) :
    (∃ call ∈ (ofSinks pretty sinks).calls record cancelled health state,
        call.position = position) ↔
      filters.all (·.accepts record) = true := by
  have hcalled := (fannedOut pretty sinks record cancelled health state).called
  have hposition : (∃ call ∈ (ofSinks pretty sinks).calls record cancelled health state,
      call.position = position) ↔
      ∃ entry ∈ ((ofSinks pretty sinks).calls record cancelled health state).map
        (fun call => (call.position, call.sink, call.record)), entry.1 = position := by
    simp only [List.mem_map, exists_exists_and_eq_and]
  rw [hposition, hcalled]
  constructor
  · rintro ⟨_, hm, rfl⟩
    obtain ⟨entry, hentry, rfl⟩ := List.mem_map.1 hm
    obtain ⟨hmem, haccepts⟩ := List.mem_filter.1 hentry
    rw [List.mem_zipIdx_iff_getElem?, h] at hmem
    rwa [← Option.some.inj hmem] at haccepts
  · intro haccepts
    refine ⟨(position, sink, record), List.mem_map.2 ⟨((sink, filters), position), ?_, rfl⟩, rfl⟩
    exact List.mem_filter.2 ⟨List.mem_zipIdx_iff_getElem?.2 h, haccepts⟩

/-- A sink behind the filter for errors alone is called for the requests that report one. -/
theorem exists_callFor_iff (pretty : Bool) {sinks : List (Sink σ × List Filter)} {position : Nat}
    {sink : Sink σ} (h : sinks[position]? = some (sink, [.errorsOnly])) (request : Request)
    (signal : Signal) (time : Instant) (cancelled : Nat → Bool) (health : Health) (state : σ) :
    (∃ call ∈ (ofSinks pretty sinks).callsFor request signal time cancelled health state,
        call.position = position) ↔
      request.signal = signal ∧ request.isError = true := by
  by_cases hsignal : request.signal = signal
  · subst hsignal
    rw [callsFor, record, dif_neg request.signal_ne, if_neg (fun hne => hne rfl)]
    refine (exists_call_iff pretty h _ cancelled health state).trans ?_
    simp [Filter.errorsOnly]
  · have hrecord : ∃ error,
        (ofSinks pretty sinks).record request signal time = .error error := by
      by_cases hnone : signal = .unspecified
      · exact ⟨_, by rw [record, dif_pos hnone]⟩
      · exact ⟨_, by rw [record, dif_neg hnone, if_pos hsignal]⟩
    obtain ⟨error, hrecord⟩ := hrecord
    simp [callsFor, hrecord, hsignal, Except.toOption]

end Pipeline

/-- Which requests report an error, and what follows from it. -/
structure Classified (σ : Type) : Prop where
  traces : ∀ request : TraceRequest, (Request.traces request).isError = true ↔
    ∃ resource ∈ request.resourceSpans, ∃ scope ∈ resource.scopeSpans, ∃ span ∈ scope.spans,
      (∃ status, span.status = some status ∧ status.code = 2) ∨
        ∃ event ∈ span.events, event.name = "exception"
  logs : ∀ request : LogsRequest, (Request.logs request).isError = true ↔
    ∃ resource ∈ request.resourceLogs, ∃ scope ∈ resource.scopeLogs,
      ∃ record ∈ scope.logRecords, 17 ≤ record.severityNumber.toInt ∨
        ∃ pair ∈ record.attributes,
          pair.key ∈ ["exception.type", "exception.message", "exception.stacktrace"]
  metrics : ∀ request : MetricsRequest, (Request.metrics request).isError = false
  /-- A request that is made of two is an error if one of them is. -/
  tracesAppend : ∀ first second, (Request.traces ⟨first ++ second⟩).isError =
    ((Request.traces ⟨first⟩).isError || (Request.traces ⟨second⟩).isError)
  logsAppend : ∀ first second, (Request.logs ⟨first ++ second⟩).isError =
    ((Request.logs ⟨first⟩).isError || (Request.logs ⟨second⟩).isError)
  metricsAppend : ∀ first second, (Request.metrics ⟨first ++ second⟩).isError =
    ((Request.metrics ⟨first⟩).isError || (Request.metrics ⟨second⟩).isError)
  /-- What is looked at may stand in any order and in any groups, and nothing else counts. -/
  rearranged : ∀ request request' : Request,
    request.layout.flatten.flatten.Perm request'.layout.flatten.flatten →
      request.isError = request'.isError
  /-- A receiver that writes a request dispatches its record. -/
  written : ∀ (r : Receiver) (request : Request) (signal : Signal) (record : Record),
    r.pipeline.record request signal r.clock.now = .ok record →
      let p := (r.pipeline.dispatch record r.token.upcoming r.health r.outlets).value
      (Receiver.write request signal r).value =
        (.ok p.report, { r with
          token := r.token.skip r.pipeline.sinks.length
          clock := r.clock.tick
          health := p.health
          outlets := p.state })
  /-- Whatever else is registered, a sink behind the filter for errors is called for them alone. -/
  offered : ∀ (pretty : Bool) (sinks : List (Sink σ × List Filter)) (position : Nat)
    (sink : Sink σ), sinks[position]? = some (sink, [.errorsOnly]) →
    ∀ (request : Request) (signal : Signal) (time : Instant) (cancelled : Nat → Bool)
      (health : Health) (state : σ),
      (∃ call ∈ (Pipeline.ofSinks pretty sinks).callsFor request signal time cancelled health
          state, call.position = position) ↔
        request.signal = signal ∧ request.isError = true

/-- The verdict on a request is exact, it is made of the verdicts on the parts, and it decides who
is called behind the filter for errors. -/
theorem classified (σ : Type) : Classified σ where
  traces := Request.isError_traces_iff
  logs := Request.isError_logs_iff
  metrics _ := rfl
  tracesAppend first second := Request.isError_eq_or (by simp [Request.evidence, Request.layout])
  logsAppend first second := Request.isError_eq_or (by simp [Request.evidence, Request.layout])
  metricsAppend _ _ := rfl
  rearranged _ _ h := Request.isError_eq_of_mem_iff fun _ => h.mem_iff
  written r _ _ _ h := congrArg Logged.value (r.write_of_ok h)
  offered pretty _ _ _ h request signal time cancelled health state :=
    Pipeline.exists_callFor_iff pretty h request signal time cancelled health state

/-- A status code that is not known and a name that only looks like that of an exception. -/
example : (Request.traces ⟨[{ scopeSpans := [{ spans := [
    { status := some { code := 3 }, events := [{ name := "Exception" }] }] }] }]⟩).isError =
    false := by decide

end TelemetrySpool
