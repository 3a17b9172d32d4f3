import TelemetrySpool.Proofs.Telemetry.BinaryValue
import TelemetrySpool.Proofs.Telemetry.Messages

/-!
# All messages in binary fields

Every schema of the requests is carried. Attributes and the few levels of messages above them need
three quarters of a level at most beyond their brackets, so a request with as many brackets as a
reader of JSON allows needs fewer levels than a reader of binary messages enters.
-/

namespace TelemetrySpool

open AnyValue (maxLevels)

theorem EntityRef.schema_carried : EntityRef.schema.Carried maxLevels 0 := by
  refine EntityRef.schema_lawful.carried (by decide)
    ⟨.scalar 0 Scalar.text_carried ?_, .scalar 1 Scalar.text_carried ?_,
      .list 2 (Format.scalar_single Scalar.text_carried) (Nat.zero_le _) ?_,
      .list 3 (Format.scalar_single Scalar.text_carried) (Nat.zero_le _) ?_⟩ trivial
  all_goals exact ⟨rfl, rfl, fun _ _ => rfl⟩

theorem Resource.schema_carried : Resource.schema.Carried maxLevels 1 := by
  refine Resource.schema_lawful.carried (by decide)
    ⟨.list 0 (Schema.format_single KeyValue.schema_carried) (by decide) ?_,
      .scalar 1 Scalar.uint32_carried ?_,
      .list 2 (Schema.format_single EntityRef.schema_carried) (by decide) ?_⟩ trivial
  all_goals exact ⟨rfl, rfl, fun _ _ => rfl⟩

theorem Scope.schema_carried : Scope.schema.Carried maxLevels 1 := by
  refine Scope.schema_lawful.carried (by decide)
    ⟨.scalar 0 Scalar.text_carried ?_, .scalar 1 Scalar.text_carried ?_,
      .list 2 (Schema.format_single KeyValue.schema_carried) (by decide) ?_,
      .scalar 3 Scalar.uint32_carried ?_⟩ trivial
  all_goals exact ⟨rfl, rfl, fun _ _ => rfl⟩

theorem LogRecord.schema_carried : LogRecord.schema.Carried maxLevels 3 := by
  refine LogRecord.schema_lawful.carried (by decide)
    ⟨.scalar 0 Scalar.fixed64Text_carried ?_, .scalar 1 Scalar.fixed64Text_carried ?_,
      .scalar 2 Scalar.int32_carried ?_, .scalar 3 Scalar.text_carried ?_,
      .option 4 AnyValue.format_single (by decide) ?_,
      .list 5 (Schema.format_single KeyValue.schema_carried) (by decide) ?_,
      .scalar 6 Scalar.uint32_carried ?_, .scalar 7 Scalar.fixed32_carried ?_,
      .scalar 8 Scalar.hex_carried ?_, .scalar 9 Scalar.hex_carried ?_,
      .scalar 10 Scalar.text_carried ?_⟩ trivial
  all_goals exact ⟨rfl, rfl, fun _ _ => rfl⟩

theorem ScopeLogs.schema_carried : ScopeLogs.schema.Carried maxLevels 2 := by
  refine ScopeLogs.schema_lawful.carried (by decide)
    ⟨.option 0 (Schema.format_single Scope.schema_carried) (by decide) ?_,
      .list 1 (Schema.format_single LogRecord.schema_carried) (by decide) ?_,
      .scalar 2 Scalar.text_carried ?_⟩ trivial
  all_goals exact ⟨rfl, rfl, fun _ _ => rfl⟩

theorem ResourceLogs.schema_carried : ResourceLogs.schema.Carried maxLevels 2 := by
  refine ResourceLogs.schema_lawful.carried (by decide)
    ⟨.option 0 (Schema.format_single Resource.schema_carried) (by decide) ?_,
      .list 1 (Schema.format_single ScopeLogs.schema_carried) (by decide) ?_,
      .scalar 2 Scalar.text_carried ?_⟩ trivial
  all_goals exact ⟨rfl, rfl, fun _ _ => rfl⟩

theorem LogsRequest.schema_carried : LogsRequest.schema.Carried maxLevels 0 :=
  LogsRequest.schema_lawful.carried (by decide)
    (.list 0 (Schema.format_single ResourceLogs.schema_carried) (by decide)
      ⟨rfl, rfl, fun _ _ => rfl⟩)
    trivial

theorem SpanEvent.schema_carried : SpanEvent.schema.Carried maxLevels 1 := by
  refine SpanEvent.schema_lawful.carried (by decide)
    ⟨.scalar 0 Scalar.fixed64Text_carried ?_, .scalar 1 Scalar.text_carried ?_,
      .list 2 (Schema.format_single KeyValue.schema_carried) (by decide) ?_,
      .scalar 3 Scalar.uint32_carried ?_⟩ trivial
  all_goals exact ⟨rfl, rfl, fun _ _ => rfl⟩

theorem SpanLink.schema_carried : SpanLink.schema.Carried maxLevels 1 := by
  refine SpanLink.schema_lawful.carried (by decide)
    ⟨.scalar 0 Scalar.hex_carried ?_, .scalar 1 Scalar.hex_carried ?_,
      .scalar 2 Scalar.text_carried ?_,
      .list 3 (Schema.format_single KeyValue.schema_carried) (by decide) ?_,
      .scalar 4 Scalar.uint32_carried ?_, .scalar 5 Scalar.fixed32_carried ?_⟩ trivial
  all_goals exact ⟨rfl, rfl, fun _ _ => rfl⟩

theorem SpanStatus.schema_carried : SpanStatus.schema.Carried maxLevels 0 := by
  refine SpanStatus.schema_lawful.carried (by decide)
    ⟨.scalar 0 Scalar.text_carried ?_, .scalar 1 Scalar.int32_carried ?_⟩ trivial
  all_goals exact ⟨rfl, rfl, fun _ _ => rfl⟩

theorem Span.schema_carried : Span.schema.Carried maxLevels 1 := by
  refine Span.schema_lawful.carried (by decide)
    ⟨.scalar 0 Scalar.hex_carried ?_, .scalar 1 Scalar.hex_carried ?_,
      .scalar 2 Scalar.text_carried ?_, .scalar 3 Scalar.hex_carried ?_,
      .scalar 4 Scalar.fixed32_carried ?_, .scalar 5 Scalar.text_carried ?_,
      .scalar 6 Scalar.int32_carried ?_, .scalar 7 Scalar.fixed64Text_carried ?_,
      .scalar 8 Scalar.fixed64Text_carried ?_,
      .list 9 (Schema.format_single KeyValue.schema_carried) (by decide) ?_,
      .scalar 10 Scalar.uint32_carried ?_,
      .list 11 (Schema.format_single SpanEvent.schema_carried) (by decide) ?_,
      .scalar 12 Scalar.uint32_carried ?_,
      .list 13 (Schema.format_single SpanLink.schema_carried) (by decide) ?_,
      .scalar 14 Scalar.uint32_carried ?_,
      .option 15 (Schema.format_single SpanStatus.schema_carried) (by decide) ?_⟩ trivial
  all_goals exact ⟨rfl, rfl, fun _ _ => rfl⟩

theorem ScopeSpans.schema_carried : ScopeSpans.schema.Carried maxLevels 2 := by
  refine ScopeSpans.schema_lawful.carried (by decide)
    ⟨.option 0 (Schema.format_single Scope.schema_carried) (by decide) ?_,
      .list 1 (Schema.format_single Span.schema_carried) (by decide) ?_,
      .scalar 2 Scalar.text_carried ?_⟩ trivial
  all_goals exact ⟨rfl, rfl, fun _ _ => rfl⟩

theorem ResourceSpans.schema_carried : ResourceSpans.schema.Carried maxLevels 2 := by
  refine ResourceSpans.schema_lawful.carried (by decide)
    ⟨.option 0 (Schema.format_single Resource.schema_carried) (by decide) ?_,
      .list 1 (Schema.format_single ScopeSpans.schema_carried) (by decide) ?_,
      .scalar 2 Scalar.text_carried ?_⟩ trivial
  all_goals exact ⟨rfl, rfl, fun _ _ => rfl⟩

theorem TraceRequest.schema_carried : TraceRequest.schema.Carried maxLevels 0 :=
  TraceRequest.schema_lawful.carried (by decide)
    (.list 0 (Schema.format_single ResourceSpans.schema_carried) (by decide)
      ⟨rfl, rfl, fun _ _ => rfl⟩)
    trivial

theorem Exemplar.schema_carried : Exemplar.schema.Carried maxLevels 1 := by
  refine Exemplar.schema_lawful.carried (by decide)
    ⟨.list 0 (Schema.format_single KeyValue.schema_carried) (by decide) ?_,
      .scalar 1 Scalar.fixed64_carried ?_, .scalar 2 Scalar.hex_carried ?_,
      .scalar 3 Scalar.hex_carried ?_⟩
    ⟨.of_format 0 (Format.scalar_single Scalar.double_carried) (Nat.zero_le _) ?_,
      .of_format 1 (Format.scalar_single Scalar.sfixed64_carried) (Nat.zero_le _) ?_⟩
  all_goals exact ⟨rfl, rfl, fun _ _ => rfl⟩

theorem NumberDataPoint.schema_carried : NumberDataPoint.schema.Carried maxLevels 1 := by
  refine NumberDataPoint.schema_lawful.carried (by decide)
    ⟨.list 0 (Schema.format_single KeyValue.schema_carried) (by decide) ?_,
      .scalar 1 Scalar.fixed64Text_carried ?_, .scalar 2 Scalar.fixed64Text_carried ?_,
      .list 3 (Schema.format_single Exemplar.schema_carried) (by decide) ?_,
      .scalar 4 Scalar.uint32_carried ?_⟩
    ⟨.of_format 0 (Format.scalar_single Scalar.double_carried) (Nat.zero_le _) ?_,
      .of_format 1 (Format.scalar_single Scalar.sfixed64_carried) (Nat.zero_le _) ?_⟩
  all_goals exact ⟨rfl, rfl, fun _ _ => rfl⟩

theorem HistogramDataPoint.schema_carried : HistogramDataPoint.schema.Carried maxLevels 1 := by
  refine HistogramDataPoint.schema_lawful.carried (by decide)
    ⟨.list 0 (Schema.format_single KeyValue.schema_carried) (by decide) ?_,
      .scalar 1 Scalar.fixed64Text_carried ?_, .scalar 2 Scalar.fixed64Text_carried ?_,
      .scalar 3 Scalar.fixed64_carried ?_,
      .option 4 (Format.scalar_single Scalar.double_carried) (Nat.zero_le _) ?_,
      .packed 5 Scalar.fixed64_carried ?_, .packed 6 Scalar.double_carried ?_,
      .list 7 (Schema.format_single Exemplar.schema_carried) (by decide) ?_,
      .scalar 8 Scalar.uint32_carried ?_,
      .option 9 (Format.scalar_single Scalar.double_carried) (Nat.zero_le _) ?_,
      .option 10 (Format.scalar_single Scalar.double_carried) (Nat.zero_le _) ?_⟩ trivial
  all_goals exact ⟨rfl, rfl, fun _ _ => rfl⟩

theorem Buckets.schema_carried : Buckets.schema.Carried maxLevels 0 := by
  refine Buckets.schema_lawful.carried (by decide)
    ⟨.scalar 0 Scalar.sint32_carried ?_, .packed 1 Scalar.uint64_carried ?_⟩ trivial
  all_goals exact ⟨rfl, rfl, fun _ _ => rfl⟩

theorem ExponentialHistogramDataPoint.schema_carried :
    ExponentialHistogramDataPoint.schema.Carried maxLevels 1 := by
  refine ExponentialHistogramDataPoint.schema_lawful.carried (by decide)
    ⟨.list 0 (Schema.format_single KeyValue.schema_carried) (by decide) ?_,
      .scalar 1 Scalar.fixed64_carried ?_, .scalar 2 Scalar.fixed64_carried ?_,
      .scalar 3 Scalar.fixed64_carried ?_,
      .option 4 (Format.scalar_single Scalar.double_carried) (Nat.zero_le _) ?_,
      .scalar 5 Scalar.sint32_carried ?_, .scalar 6 Scalar.fixed64_carried ?_,
      .option 7 (Schema.format_single Buckets.schema_carried) (by decide) ?_,
      .option 8 (Schema.format_single Buckets.schema_carried) (by decide) ?_,
      .scalar 9 Scalar.uint32_carried ?_,
      .list 10 (Schema.format_single Exemplar.schema_carried) (by decide) ?_,
      .option 11 (Format.scalar_single Scalar.double_carried) (Nat.zero_le _) ?_,
      .option 12 (Format.scalar_single Scalar.double_carried) (Nat.zero_le _) ?_,
      .scalar 13 Scalar.double_carried ?_⟩ trivial
  all_goals exact ⟨rfl, rfl, fun _ _ => rfl⟩

theorem ValueAtQuantile.schema_carried : ValueAtQuantile.schema.Carried maxLevels 0 := by
  refine ValueAtQuantile.schema_lawful.carried (by decide)
    ⟨.scalar 0 Scalar.double_carried ?_, .scalar 1 Scalar.double_carried ?_⟩ trivial
  all_goals exact ⟨rfl, rfl, fun _ _ => rfl⟩

theorem SummaryDataPoint.schema_carried : SummaryDataPoint.schema.Carried maxLevels 1 := by
  refine SummaryDataPoint.schema_lawful.carried (by decide)
    ⟨.list 0 (Schema.format_single KeyValue.schema_carried) (by decide) ?_,
      .scalar 1 Scalar.fixed64_carried ?_, .scalar 2 Scalar.fixed64_carried ?_,
      .scalar 3 Scalar.fixed64_carried ?_, .scalar 4 Scalar.double_carried ?_,
      .list 5 (Schema.format_single ValueAtQuantile.schema_carried) (by decide) ?_,
      .scalar 6 Scalar.uint32_carried ?_⟩ trivial
  all_goals exact ⟨rfl, rfl, fun _ _ => rfl⟩

theorem Gauge.schema_carried : Gauge.schema.Carried maxLevels 0 :=
  Gauge.schema_lawful.carried (by decide)
    (.list 0 (Schema.format_single NumberDataPoint.schema_carried) (by decide)
      ⟨rfl, rfl, fun _ _ => rfl⟩)
    trivial

theorem Sum.schema_carried : Sum.schema.Carried maxLevels 0 := by
  refine Sum.schema_lawful.carried (by decide)
    ⟨.list 0 (Schema.format_single NumberDataPoint.schema_carried) (by decide) ?_,
      .scalar 1 Scalar.int32_carried ?_, .scalar 2 Scalar.bool_carried ?_⟩ trivial
  all_goals exact ⟨rfl, rfl, fun _ _ => rfl⟩

theorem Histogram.schema_carried : Histogram.schema.Carried maxLevels 0 := by
  refine Histogram.schema_lawful.carried (by decide)
    ⟨.list 0 (Schema.format_single HistogramDataPoint.schema_carried) (by decide) ?_,
      .scalar 1 Scalar.int32_carried ?_⟩ trivial
  all_goals exact ⟨rfl, rfl, fun _ _ => rfl⟩

theorem ExponentialHistogram.schema_carried : ExponentialHistogram.schema.Carried maxLevels 0 := by
  refine ExponentialHistogram.schema_lawful.carried (by decide)
    ⟨.list 0 (Schema.format_single ExponentialHistogramDataPoint.schema_carried) (by decide) ?_,
      .scalar 1 Scalar.int32_carried ?_⟩ trivial
  all_goals exact ⟨rfl, rfl, fun _ _ => rfl⟩

theorem Summary.schema_carried : Summary.schema.Carried maxLevels 0 :=
  Summary.schema_lawful.carried (by decide)
    (.list 0 (Schema.format_single SummaryDataPoint.schema_carried) (by decide)
      ⟨rfl, rfl, fun _ _ => rfl⟩)
    trivial

theorem Metric.schema_carried : Metric.schema.Carried maxLevels 1 := by
  refine Metric.schema_lawful.carried (by decide)
    ⟨.scalar 0 Scalar.text_carried ?_, .scalar 1 Scalar.text_carried ?_,
      .scalar 2 Scalar.text_carried ?_,
      .list 3 (Schema.format_single KeyValue.schema_carried) (by decide) ?_⟩
    ⟨.of_format 0 (Schema.format_single Gauge.schema_carried) (by decide) ?_,
      .of_format 1 (Schema.format_single Sum.schema_carried) (by decide) ?_,
      .of_format 2 (Schema.format_single Histogram.schema_carried) (by decide) ?_,
      .of_format 3 (Schema.format_single ExponentialHistogram.schema_carried) (by decide) ?_,
      .of_format 4 (Schema.format_single Summary.schema_carried) (by decide) ?_⟩
  all_goals exact ⟨rfl, rfl, fun _ _ => rfl⟩

theorem ScopeMetrics.schema_carried : ScopeMetrics.schema.Carried maxLevels 2 := by
  refine ScopeMetrics.schema_lawful.carried (by decide)
    ⟨.option 0 (Schema.format_single Scope.schema_carried) (by decide) ?_,
      .list 1 (Schema.format_single Metric.schema_carried) (by decide) ?_,
      .scalar 2 Scalar.text_carried ?_⟩ trivial
  all_goals exact ⟨rfl, rfl, fun _ _ => rfl⟩

theorem ResourceMetrics.schema_carried : ResourceMetrics.schema.Carried maxLevels 2 := by
  refine ResourceMetrics.schema_lawful.carried (by decide)
    ⟨.option 0 (Schema.format_single Resource.schema_carried) (by decide) ?_,
      .list 1 (Schema.format_single ScopeMetrics.schema_carried) (by decide) ?_,
      .scalar 2 Scalar.text_carried ?_⟩ trivial
  all_goals exact ⟨rfl, rfl, fun _ _ => rfl⟩

theorem MetricsRequest.schema_carried : MetricsRequest.schema.Carried maxLevels 0 :=
  MetricsRequest.schema_lawful.carried (by decide)
    (.list 0 (Schema.format_single ResourceMetrics.schema_carried) (by decide)
      ⟨rfl, rfl, fun _ _ => rfl⟩)
    trivial

/-- A message is read back from its binary form if it opens no more brackets than a reader of JSON
allows: it then nests no deeper than a reader of binary messages enters. -/
theorem Schema.Carried.merge?_maxNesting {μ : Type} {s : Schema μ} (h : s.Carried maxLevels 0)
    {message : μ} (hd : Json.depth (s.toJson message) ≤ 127)
    (hlength : (s.toWire message).length < Wire.wordLimit) :
    s.merge? Request.maxNesting s.initial (s.toWire message) = some message := by
  refine h.merge?_toWire ⟨Nat.le_trans hd (by decide), ?_⟩ hlength
  unfold Request.maxNesting
  omega

namespace Request

/-- Requests are read back from their binary form. -/
theorem decode_toBinary {m : Request} (hd : Json.depth m.toJson ≤ 127)
    (hlength : m.toBinary.length < Wire.wordLimit) :
    decode m.signal .binary m.toBinary = .ok m := by
  have hread : ofBinary? m.signal m.toBinary = some m := by
    cases m with
    | traces request =>
      exact Option.map_eq_some_iff.2
        ⟨request, TraceRequest.schema_carried.merge?_maxNesting hd hlength, rfl⟩
    | logs request =>
      exact Option.map_eq_some_iff.2
        ⟨request, LogsRequest.schema_carried.merge?_maxNesting hd hlength, rfl⟩
    | metrics request =>
      exact Option.map_eq_some_iff.2
        ⟨request, MetricsRequest.schema_carried.merge?_maxNesting hd hlength, rfl⟩
  simp only [decode, hread]

end Request

end TelemetrySpool
