import TelemetrySpool.Proofs.Telemetry.Messages

/-!
# The attribute values of a message

An attribute value is complete if neither it nor a value inside it is without a kind. The attribute
values of a message are complete exactly if it writes no empty object, since every other object that
a message writes has members.
-/

namespace TelemetrySpool

open Json (Every HasKind)

namespace AnyValue

mutual

/-- Whether a value and all values inside it have a kind. -/
def complete : AnyValue → Bool
  | empty => false
  | list values => completeList values
  | keyed pairs => completePairs pairs
  | _ => true

/-- Whether all values of a list are complete. -/
def completeList : List AnyValue → Bool
  | [] => true
  | value :: rest => complete value && completeList rest

/-- Whether the values of all pairs are complete. -/
def completePairs : List KeyValue → Bool
  | [] => true
  | pair :: rest => completePair pair && completePairs rest

/-- Whether the value of a pair is complete, if it is there. -/
def completePair : KeyValue → Bool
  | .mk _ none => true
  | .mk _ (some value) => complete value

end

mutual

/-- A value is complete if it writes no empty object. -/
theorem every_hasKind_toJson : ∀ v : AnyValue, Every HasKind v.toJson ↔ v.complete
  | empty => by simp [toJson, complete, HasKind]
  | text _ => by simp [toJson, complete, HasKind, Scalar.text]
  | bool _ => by simp [toJson, complete, HasKind, Scalar.bool]
  | int _ => by simp [toJson, complete, HasKind, Scalar.int64Text]
  | double _ => by simp [toJson, complete, HasKind, Scalar.double]
  | list values => by
    have h := every_hasKind_listToJson values
    simp [toJson, complete, HasKind, ← h]
  | keyed pairs => by
    have h := every_hasKind_keyedToJson pairs
    simp [toJson, complete, HasKind, ← h]
  | octets _ => by simp [toJson, complete, HasKind, Scalar.base64]

theorem every_hasKind_listToJson : ∀ values : List AnyValue,
    (∀ x ∈ listToJson values, Every HasKind x) ↔ completeList values
  | [] => by simp [listToJson, completeList]
  | v :: rest => by
    have hv := every_hasKind_toJson v
    have hrest := every_hasKind_listToJson rest
    simp [listToJson, completeList, ← hv, ← hrest]

theorem every_hasKind_keyedToJson : ∀ pairs : List KeyValue,
    (∀ x ∈ keyedToJson pairs, Every HasKind x) ↔ completePairs pairs
  | [] => by simp [keyedToJson, completePairs]
  | pair :: rest => by
    have hpair := every_hasKind_keyValueToJson pair
    have hrest := every_hasKind_keyedToJson rest
    simp [keyedToJson, completePairs, ← hpair, ← hrest]

theorem every_hasKind_keyValueToJson : ∀ pair : KeyValue,
    Every HasKind (keyValueToJson pair) ↔ completePair pair
  | .mk _ none => by simp [keyValueToJson, optionToJson, completePair, HasKind]
  | .mk _ (some v) => by
    have hv := every_hasKind_toJson v
    simp [keyValueToJson, optionToJson, completePair, HasKind, ← hv]

end

/-- Whether all of some values are complete. -/
def AllComplete (values : List AnyValue) : Prop := ∀ v ∈ values, v.complete

instance (values : List AnyValue) : Decidable (AllComplete values) :=
  inferInstanceAs (Decidable (∀ v ∈ values, v.complete))

@[simp] theorem allComplete_append (values others : List AnyValue) :
    AllComplete (values ++ others) ↔ AllComplete values ∧ AllComplete others :=
  List.forall_mem_append

@[simp] theorem allComplete_flatMap {α : Type} (l : List α) (values : α → List AnyValue) :
    AllComplete (l.flatMap values) ↔ ∀ x ∈ l, AllComplete (values x) := List.forall_mem_flatMap

@[simp] theorem allComplete_toList (value : Option AnyValue) :
    AllComplete value.toList ↔ ∀ v ∈ value, v.complete := by
  simp [AllComplete]

end AnyValue

open AnyValue (AllComplete)

/-- The values of attributes. -/
def KeyValue.values (attributes : List KeyValue) : List AnyValue := attributes.filterMap (·.value)

/-- The attribute values of a resource. -/
def Resource.values (m : Resource) : List AnyValue := KeyValue.values m.attributes

/-- The attribute values of a scope. -/
def Scope.values (m : Scope) : List AnyValue := KeyValue.values m.attributes

/-- The attribute values of a log record, with its body. -/
def LogRecord.values (m : LogRecord) : List AnyValue :=
  m.body.toList ++ KeyValue.values m.attributes

/-- The attribute values of the log records of a scope. -/
def ScopeLogs.values (m : ScopeLogs) : List AnyValue :=
  m.scope.toList.flatMap (·.values) ++ m.logRecords.flatMap (·.values)

/-- The attribute values of the log records of a resource. -/
def ResourceLogs.values (m : ResourceLogs) : List AnyValue :=
  m.resource.toList.flatMap (·.values) ++ m.scopeLogs.flatMap (·.values)

/-- The attribute values of a span, with those of its events and links. -/
def Span.values (m : Span) : List AnyValue :=
  KeyValue.values m.attributes ++
    (m.events.flatMap fun event => KeyValue.values event.attributes) ++
      m.links.flatMap fun link => KeyValue.values link.attributes

/-- The attribute values of the spans of a scope. -/
def ScopeSpans.values (m : ScopeSpans) : List AnyValue :=
  m.scope.toList.flatMap (·.values) ++ m.spans.flatMap (·.values)

/-- The attribute values of the spans of a resource. -/
def ResourceSpans.values (m : ResourceSpans) : List AnyValue :=
  m.resource.toList.flatMap (·.values) ++ m.scopeSpans.flatMap (·.values)

/-- The attribute values of an exemplar. -/
def Exemplar.values (m : Exemplar) : List AnyValue := KeyValue.values m.filteredAttributes

/-- The attribute values of a number data point, with those of its exemplars. -/
def NumberDataPoint.values (m : NumberDataPoint) : List AnyValue :=
  KeyValue.values m.attributes ++ m.exemplars.flatMap (·.values)

/-- The attribute values of a histogram data point, with those of its exemplars. -/
def HistogramDataPoint.values (m : HistogramDataPoint) : List AnyValue :=
  KeyValue.values m.attributes ++ m.exemplars.flatMap (·.values)

/-- The attribute values of an exponential data point, with those of its exemplars. -/
def ExponentialHistogramDataPoint.values (m : ExponentialHistogramDataPoint) : List AnyValue :=
  KeyValue.values m.attributes ++ m.exemplars.flatMap (·.values)

/-- The attribute values of a summary data point. -/
def SummaryDataPoint.values (m : SummaryDataPoint) : List AnyValue := KeyValue.values m.attributes

/-- The attribute values of the data points of a metric. -/
def MetricData.values : MetricData → List AnyValue
  | gauge data => data.dataPoints.flatMap (·.values)
  | sum data => data.dataPoints.flatMap (·.values)
  | histogram data => data.dataPoints.flatMap (·.values)
  | exponentialHistogram data => data.dataPoints.flatMap (·.values)
  | summary data => data.dataPoints.flatMap (·.values)

/-- The attribute values of a metric, with those of its data. -/
def Metric.values (m : Metric) : List AnyValue :=
  KeyValue.values m.metadata ++ m.data.toList.flatMap (·.values)

/-- The attribute values of the metrics of a scope. -/
def ScopeMetrics.values (m : ScopeMetrics) : List AnyValue :=
  m.scope.toList.flatMap (·.values) ++ m.metrics.flatMap (·.values)

/-- The attribute values of the metrics of a resource. -/
def ResourceMetrics.values (m : ResourceMetrics) : List AnyValue :=
  m.resource.toList.flatMap (·.values) ++ m.scopeMetrics.flatMap (·.values)

/-- The attribute values of a request. -/
def Request.values : Request → List AnyValue
  | traces request => request.resourceSpans.flatMap (·.values)
  | logs request => request.resourceLogs.flatMap (·.values)
  | metrics request => request.resourceMetrics.flatMap (·.values)

/-- A message with fields writes no empty object if its values do not. -/
theorem Schema.every_hasKind {μ : Type} {s : Schema μ} (hne : s.fields ≠ []) (message : μ) :
    Every HasKind (s.toJson message) ↔
      (∀ f ∈ s.fields, Every HasKind (f.format.toJson (f.get message))) ∧
        ∀ x ∈ s.choiceMembers message, Every HasKind x.2 := by
  have hmembers : s.fields.map (·.member message) ++ s.choiceMembers message ≠ [] := by
    intro hnil
    exact hne (List.map_eq_nil_iff.1 (List.append_eq_nil_iff.1 hnil).1)
  rw [Schema.toJson, Json.every_object, List.forall_mem_append, List.forall_mem_map]
  exact and_iff_right hmembers

/-- The choice writes no empty object if its alternatives do not. -/
theorem Schema.every_hasKind_choice {μ : Type} (s : Schema μ) (message : μ)
    (h : ∀ a ∈ s.alternatives, ∀ value, Every HasKind (a.format.toJson value)) :
    ∀ x ∈ s.choiceMembers message, Every HasKind x.2 := by
  intro x hx
  rw [choiceMembers] at hx
  rcases s.shows_choice message with ⟨hn, -⟩ | ⟨a, ha, value, hs, -⟩
  · rw [hn] at hx
    split at hx
    · cases hx
    · cases hx
    · rw [List.mem_singleton] at hx
      subst hx
      exact Json.every_null.2 trivial
  · rw [hs] at hx
    split at hx
    · cases hx
    · rw [Option.toList_some, List.mem_singleton] at hx
      subst hx
      exact h a ha value
    · rw [List.mem_singleton] at hx
      subst hx
      refine Json.every_object.2 ⟨List.cons_ne_nil _ _, ?_⟩
      exact List.forall_mem_singleton.2 (h a ha value)

section Formats

variable {τ : Type}

@[simp] theorem every_hasKind_list (f : Format τ) (values : List τ) :
    Every HasKind (f.list.toJson values) ↔ ∀ v ∈ values, Every HasKind (f.toJson v) := by
  show Every HasKind (.array (values.map f.toJson)) ↔ _
  rw [Json.every_array, List.forall_mem_map]
  exact and_iff_right trivial

@[simp] theorem every_hasKind_option (f : Format τ) (value : Option τ) :
    Every HasKind (f.option.toJson value) ↔ ∀ v ∈ value, Every HasKind (f.toJson v) := by
  cases value with
  | none => exact iff_of_true (Json.every_null.2 trivial) nofun
  | some v => simp [Format.option]

@[simp] theorem every_hasKind_scalar {x : Scalar τ} (h : x.Lawful) (value : τ) :
    Every HasKind ((Format.scalar x).toJson value) := by
  have hd : Json.depth ((Format.scalar x).toJson value) = 0 := h.depth_eq value
  generalize (Format.scalar x).toJson value = j at hd
  cases j with
  | array items => cases hd
  | object members => cases hd
  | null => exact Json.every_null.2 trivial
  | bool => exact Json.every_bool.2 trivial
  | integer => exact Json.every_integer.2 trivial
  | double => exact Json.every_double.2 trivial
  | string => exact Json.every_string.2 trivial
  | unreadable => exact Json.every_unreadable.2 trivial

@[simp] theorem every_hasKind_packed {x : Scalar τ} (h : x.Lawful) (values : List τ) :
    Every HasKind ((Format.packed x).toJson values) :=
  (every_hasKind_list (.scalar x) values).2 fun v _ => every_hasKind_scalar h v

/-- A message without a choice writes no empty object if its fields do not. -/
theorem every_hasKind_fields {s : Schema τ} (hne : s.fields ≠ []) (hp : s.placement = .nowhere)
    (message : τ) : Every HasKind (s.format.toJson message) ↔
      ∀ f ∈ s.fields, Every HasKind (f.format.toJson (f.get message)) := by
  show Every HasKind (s.toJson message) ↔ _
  rw [Schema.every_hasKind hne, Schema.choiceMembers, hp]
  simp

end Formats

@[simp] theorem AnyValue.every_hasKind (v : AnyValue) :
    Every HasKind (AnyValue.format.toJson v) ↔ v.complete := by
  have hj : AnyValue.format.toJson = AnyValue.toJson := AnyValue.formatWithin_toJson _
  rw [hj, AnyValue.every_hasKind_toJson]

/-- Attributes write no empty object if their values are complete. -/
@[simp] theorem every_hasKind_attributes (attributes : List KeyValue) :
    Every HasKind (KeyValue.listFormat.toJson attributes) ↔
      AllComplete (KeyValue.values attributes) := by
  have hpair : ∀ pair : KeyValue, Every HasKind (KeyValue.schema.format.toJson pair) ↔
      ∀ v ∈ pair.value, v.complete := by
    intro pair
    rw [every_hasKind_fields (List.cons_ne_nil _ _) rfl]
    simp [KeyValue.schema, AnyValue.keyValueSchema]
  rw [KeyValue.listFormat, every_hasKind_list]
  simp only [AllComplete, KeyValue.values, List.mem_filterMap]
  constructor
  · rintro h v ⟨pair, hp, hv⟩
    exact (hpair pair).1 (h pair hp) v hv
  · intro h pair hp
    exact (hpair pair).2 fun v hv => h v ⟨pair, hp, hv⟩

@[simp] theorem EntityRef.every_hasKind (m : EntityRef) :
    Every HasKind (EntityRef.schema.format.toJson m) := by
  rw [every_hasKind_fields (List.cons_ne_nil _ _) rfl]
  simp [EntityRef.schema]

@[simp] theorem Resource.every_hasKind (m : Resource) :
    Every HasKind (Resource.schema.format.toJson m) ↔ AllComplete m.values := by
  rw [every_hasKind_fields (List.cons_ne_nil _ _) rfl]
  simp [Resource.schema, Resource.values]

@[simp] theorem Scope.every_hasKind (m : Scope) :
    Every HasKind (Scope.schema.format.toJson m) ↔ AllComplete m.values := by
  rw [every_hasKind_fields (List.cons_ne_nil _ _) rfl]
  simp [Scope.schema, Scope.values]

@[simp] theorem LogRecord.every_hasKind (m : LogRecord) :
    Every HasKind (LogRecord.schema.format.toJson m) ↔ AllComplete m.values := by
  rw [every_hasKind_fields (List.cons_ne_nil _ _) rfl]
  simp [LogRecord.schema, LogRecord.values]

@[simp] theorem ScopeLogs.every_hasKind (m : ScopeLogs) :
    Every HasKind (ScopeLogs.schema.format.toJson m) ↔ AllComplete m.values := by
  rw [every_hasKind_fields (List.cons_ne_nil _ _) rfl]
  simp [ScopeLogs.schema, ScopeLogs.values]

@[simp] theorem ResourceLogs.every_hasKind (m : ResourceLogs) :
    Every HasKind (ResourceLogs.schema.format.toJson m) ↔ AllComplete m.values := by
  rw [every_hasKind_fields (List.cons_ne_nil _ _) rfl]
  simp [ResourceLogs.schema, ResourceLogs.values]

@[simp] theorem SpanEvent.every_hasKind (m : SpanEvent) :
    Every HasKind (SpanEvent.schema.format.toJson m) ↔
      AllComplete (KeyValue.values m.attributes) := by
  rw [every_hasKind_fields (List.cons_ne_nil _ _) rfl]
  simp [SpanEvent.schema]

@[simp] theorem SpanLink.every_hasKind (m : SpanLink) :
    Every HasKind (SpanLink.schema.format.toJson m) ↔
      AllComplete (KeyValue.values m.attributes) := by
  rw [every_hasKind_fields (List.cons_ne_nil _ _) rfl]
  simp [SpanLink.schema]

@[simp] theorem SpanStatus.every_hasKind (m : SpanStatus) :
    Every HasKind (SpanStatus.schema.format.toJson m) := by
  rw [every_hasKind_fields (List.cons_ne_nil _ _) rfl]
  simp [SpanStatus.schema]

@[simp] theorem Span.every_hasKind (m : Span) :
    Every HasKind (Span.schema.format.toJson m) ↔ AllComplete m.values := by
  rw [every_hasKind_fields (List.cons_ne_nil _ _) rfl]
  simp [Span.schema, Span.values]

@[simp] theorem ScopeSpans.every_hasKind (m : ScopeSpans) :
    Every HasKind (ScopeSpans.schema.format.toJson m) ↔ AllComplete m.values := by
  rw [every_hasKind_fields (List.cons_ne_nil _ _) rfl]
  simp [ScopeSpans.schema, ScopeSpans.values]

@[simp] theorem ResourceSpans.every_hasKind (m : ResourceSpans) :
    Every HasKind (ResourceSpans.schema.format.toJson m) ↔ AllComplete m.values := by
  rw [every_hasKind_fields (List.cons_ne_nil _ _) rfl]
  simp [ResourceSpans.schema, ResourceSpans.values]

@[simp] theorem Exemplar.every_hasKind (m : Exemplar) :
    Every HasKind (Exemplar.schema.format.toJson m) ↔ AllComplete m.values := by
  have hchoice := Exemplar.schema.every_hasKind_choice m
    (List.forall_iff_forall_mem.1 ⟨by simp, by simp⟩)
  show Every HasKind (Exemplar.schema.toJson m) ↔ _
  rw [Schema.every_hasKind (List.cons_ne_nil _ _), and_iff_left hchoice]
  simp [Exemplar.schema, Exemplar.values]

@[simp] theorem NumberDataPoint.every_hasKind (m : NumberDataPoint) :
    Every HasKind (NumberDataPoint.schema.format.toJson m) ↔ AllComplete m.values := by
  have hchoice := NumberDataPoint.schema.every_hasKind_choice m
    (List.forall_iff_forall_mem.1 ⟨by simp, by simp⟩)
  show Every HasKind (NumberDataPoint.schema.toJson m) ↔ _
  rw [Schema.every_hasKind (List.cons_ne_nil _ _), and_iff_left hchoice]
  simp [NumberDataPoint.schema, NumberDataPoint.values]

@[simp] theorem HistogramDataPoint.every_hasKind (m : HistogramDataPoint) :
    Every HasKind (HistogramDataPoint.schema.format.toJson m) ↔ AllComplete m.values := by
  rw [every_hasKind_fields (List.cons_ne_nil _ _) rfl]
  simp [HistogramDataPoint.schema, HistogramDataPoint.values]

@[simp] theorem Buckets.every_hasKind (m : Buckets) :
    Every HasKind (Buckets.schema.format.toJson m) := by
  rw [every_hasKind_fields (List.cons_ne_nil _ _) rfl]
  simp [Buckets.schema]

@[simp] theorem ExponentialHistogramDataPoint.every_hasKind (m : ExponentialHistogramDataPoint) :
    Every HasKind (ExponentialHistogramDataPoint.schema.format.toJson m) ↔
      AllComplete m.values := by
  rw [every_hasKind_fields (List.cons_ne_nil _ _) rfl]
  simp [ExponentialHistogramDataPoint.schema, ExponentialHistogramDataPoint.values]

@[simp] theorem ValueAtQuantile.every_hasKind (m : ValueAtQuantile) :
    Every HasKind (ValueAtQuantile.schema.format.toJson m) := by
  rw [every_hasKind_fields (List.cons_ne_nil _ _) rfl]
  simp [ValueAtQuantile.schema]

@[simp] theorem SummaryDataPoint.every_hasKind (m : SummaryDataPoint) :
    Every HasKind (SummaryDataPoint.schema.format.toJson m) ↔ AllComplete m.values := by
  rw [every_hasKind_fields (List.cons_ne_nil _ _) rfl]
  simp [SummaryDataPoint.schema, SummaryDataPoint.values]

@[simp] theorem Gauge.every_hasKind (m : Gauge) :
    Every HasKind (Gauge.schema.format.toJson m) ↔
      ∀ point ∈ m.dataPoints, AllComplete point.values := by
  rw [every_hasKind_fields (List.cons_ne_nil _ _) rfl]
  simp [Gauge.schema]

@[simp] theorem Sum.every_hasKind (m : Sum) :
    Every HasKind (Sum.schema.format.toJson m) ↔
      ∀ point ∈ m.dataPoints, AllComplete point.values := by
  rw [every_hasKind_fields (List.cons_ne_nil _ _) rfl]
  simp [Sum.schema]

@[simp] theorem Histogram.every_hasKind (m : Histogram) :
    Every HasKind (Histogram.schema.format.toJson m) ↔
      ∀ point ∈ m.dataPoints, AllComplete point.values := by
  rw [every_hasKind_fields (List.cons_ne_nil _ _) rfl]
  simp [Histogram.schema]

@[simp] theorem ExponentialHistogram.every_hasKind (m : ExponentialHistogram) :
    Every HasKind (ExponentialHistogram.schema.format.toJson m) ↔
      ∀ point ∈ m.dataPoints, AllComplete point.values := by
  rw [every_hasKind_fields (List.cons_ne_nil _ _) rfl]
  simp [ExponentialHistogram.schema]

@[simp] theorem Summary.every_hasKind (m : Summary) :
    Every HasKind (Summary.schema.format.toJson m) ↔
      ∀ point ∈ m.dataPoints, AllComplete point.values := by
  rw [every_hasKind_fields (List.cons_ne_nil _ _) rfl]
  simp [Summary.schema]

@[simp] theorem Metric.every_hasKind (m : Metric) :
    Every HasKind (Metric.schema.format.toJson m) ↔ AllComplete m.values := by
  show Every HasKind (Metric.schema.toJson m) ↔ _
  have hchoice : (∀ x ∈ Metric.schema.choiceMembers m, Every HasKind x.2) ↔
      ∀ data ∈ m.data, AllComplete data.values := by
    obtain ⟨name, description, unit, metadata, data⟩ := m
    rcases data with _ | (data | data | data | data | data)
    · exact iff_of_true nofun nofun
    · show (∀ x ∈ [("gauge", Gauge.schema.format.toJson data)], Every HasKind x.2) ↔ _
      simp [MetricData.values]
    · show (∀ x ∈ [("sum", Sum.schema.format.toJson data)], Every HasKind x.2) ↔ _
      simp [MetricData.values]
    · show (∀ x ∈ [("histogram", Histogram.schema.format.toJson data)], Every HasKind x.2) ↔ _
      simp [MetricData.values]
    · show (∀ x ∈ [("exponentialHistogram", ExponentialHistogram.schema.format.toJson data)],
        Every HasKind x.2) ↔ _
      simp [MetricData.values]
    · show (∀ x ∈ [("summary", Summary.schema.format.toJson data)], Every HasKind x.2) ↔ _
      simp [MetricData.values]
  rw [Schema.every_hasKind (List.cons_ne_nil _ _), hchoice]
  simp [Metric.schema, Metric.values]

@[simp] theorem ScopeMetrics.every_hasKind (m : ScopeMetrics) :
    Every HasKind (ScopeMetrics.schema.format.toJson m) ↔ AllComplete m.values := by
  rw [every_hasKind_fields (List.cons_ne_nil _ _) rfl]
  simp [ScopeMetrics.schema, ScopeMetrics.values]

@[simp] theorem ResourceMetrics.every_hasKind (m : ResourceMetrics) :
    Every HasKind (ResourceMetrics.schema.format.toJson m) ↔ AllComplete m.values := by
  rw [every_hasKind_fields (List.cons_ne_nil _ _) rfl]
  simp [ResourceMetrics.schema, ResourceMetrics.values]

/-- The attribute values of a request are complete if it writes no empty object. -/
theorem Request.every_hasKind (m : Request) : Every HasKind m.toJson ↔ AllComplete m.values := by
  cases m with
  | traces request =>
    show Every HasKind (TraceRequest.schema.format.toJson request) ↔ _
    rw [every_hasKind_fields (List.cons_ne_nil _ _) rfl]
    simp [TraceRequest.schema, Request.values]
  | logs request =>
    show Every HasKind (LogsRequest.schema.format.toJson request) ↔ _
    rw [every_hasKind_fields (List.cons_ne_nil _ _) rfl]
    simp [LogsRequest.schema, Request.values]
  | metrics request =>
    show Every HasKind (MetricsRequest.schema.format.toJson request) ↔ _
    rw [every_hasKind_fields (List.cons_ne_nil _ _) rfl]
    simp [MetricsRequest.schema, Request.values]

end TelemetrySpool
