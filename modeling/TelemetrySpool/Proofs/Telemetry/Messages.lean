import TelemetrySpool.Proofs.Telemetry.AnyValue
import TelemetrySpool.Telemetry.Request

/-!
# All messages are lawful

Every schema of the requests is lawful, from the attributes up to the three requests. A message that
requires its fields adds no bracket when it is read. The others may add the brackets of lists that
were missing, and these add up along the few levels of messages, to twelve at most.
-/

namespace TelemetrySpool

open AnyValue (maxLevels)

theorem EntityRef.schema_lawful : EntityRef.schema.Lawful maxLevels 0 := by
  refine .of_fields rfl (by decide) (.inl rfl) (fun _ => rfl) ?_
  refine ⟨.scalar 0 Scalar.text_lawful ?_, .scalar 1 Scalar.text_lawful ?_,
    .list 2 (Format.scalar_lawful Scalar.text_lawful) (.inl rfl) ?_,
    .list 3 (Format.scalar_lawful Scalar.text_lawful) (.inl rfl) ?_⟩
  all_goals exact ⟨rfl, fun _ _ => rfl, fun _ _ => rfl⟩

theorem Resource.schema_lawful : Resource.schema.Lawful maxLevels 2 := by
  refine .of_fields rfl (by decide) (by decide) (fun _ => rfl) ?_
  refine ⟨.list 0 (Schema.format_lawful KeyValue.schema_lawful) (.inl rfl) ?_,
    .scalar 1 Scalar.uint32_lawful ?_,
    .list 2 (Schema.format_lawful EntityRef.schema_lawful) (.inl rfl) ?_⟩
  all_goals exact ⟨rfl, fun _ _ => rfl, fun _ _ => rfl⟩

theorem Scope.schema_lawful : Scope.schema.Lawful maxLevels 2 := by
  refine .of_fields rfl (by decide) (by decide) (fun _ => rfl) ?_
  refine ⟨.scalar 0 Scalar.text_lawful ?_, .scalar 1 Scalar.text_lawful ?_,
    .list 2 (Schema.format_lawful KeyValue.schema_lawful) (.inl rfl) ?_,
    .scalar 3 Scalar.uint32_lawful ?_⟩
  all_goals exact ⟨rfl, fun _ _ => rfl, fun _ _ => rfl⟩

theorem LogRecord.schema_lawful : LogRecord.schema.Lawful maxLevels 2 := by
  refine .of_fields rfl (by decide) (by decide) (fun _ => rfl) ?_
  refine ⟨.scalar 0 Scalar.fixed64Text_lawful ?_, .scalar 1 Scalar.fixed64Text_lawful ?_,
    .scalar 2 Scalar.int32_lawful ?_, .scalar 3 Scalar.text_lawful ?_,
    .option 4 AnyValue.format_lawful rfl (.inl rfl) ?_,
    .list 5 (Schema.format_lawful KeyValue.schema_lawful) (.inl rfl) ?_,
    .scalar 6 Scalar.uint32_lawful ?_, .scalar 7 Scalar.fixed32_lawful ?_,
    .scalar 8 Scalar.hex_lawful ?_, .scalar 9 Scalar.hex_lawful ?_,
    .scalar 10 Scalar.text_lawful ?_⟩
  all_goals exact ⟨rfl, fun _ _ => rfl, fun _ _ => rfl⟩

theorem ScopeLogs.schema_lawful : ScopeLogs.schema.Lawful maxLevels 4 := by
  refine .of_fields rfl (by decide) (by decide) (fun _ => rfl) ?_
  refine ⟨.option 0 (Schema.format_lawful Scope.schema_lawful) rfl (by decide) ?_,
    .list 1 (Schema.format_lawful LogRecord.schema_lawful) (by decide) ?_,
    .scalar 2 Scalar.text_lawful ?_⟩
  all_goals exact ⟨rfl, fun _ _ => rfl, fun _ _ => rfl⟩

theorem ResourceLogs.schema_lawful : ResourceLogs.schema.Lawful maxLevels 6 := by
  refine .of_fields rfl (by decide) (by decide) (fun _ => rfl) ?_
  refine ⟨.option 0 (Schema.format_lawful Resource.schema_lawful) rfl (by decide) ?_,
    .list 1 (Schema.format_lawful ScopeLogs.schema_lawful) (by decide) ?_,
    .scalar 2 Scalar.text_lawful ?_⟩
  all_goals exact ⟨rfl, fun _ _ => rfl, fun _ _ => rfl⟩

theorem LogsRequest.schema_lawful : LogsRequest.schema.Lawful maxLevels 8 :=
  .of_fields rfl (by decide) (by decide) (fun _ => rfl)
    (.list 0 (Schema.format_lawful ResourceLogs.schema_lawful) (by decide)
      ⟨rfl, fun _ _ => rfl, fun _ _ => rfl⟩)

theorem SpanEvent.schema_lawful : SpanEvent.schema.Lawful maxLevels 2 := by
  refine .of_fields rfl (by decide) (by decide) (fun _ => rfl) ?_
  refine ⟨.scalar 0 Scalar.fixed64Text_lawful ?_, .scalar 1 Scalar.text_lawful ?_,
    .list 2 (Schema.format_lawful KeyValue.schema_lawful) (.inl rfl) ?_,
    .scalar 3 Scalar.uint32_lawful ?_⟩
  all_goals exact ⟨rfl, fun _ _ => rfl, fun _ _ => rfl⟩

theorem SpanLink.schema_lawful : SpanLink.schema.Lawful maxLevels 2 := by
  refine .of_fields rfl (by decide) (by decide) (fun _ => rfl) ?_
  refine ⟨.scalar 0 Scalar.hex_lawful ?_, .scalar 1 Scalar.hex_lawful ?_,
    .scalar 2 Scalar.text_lawful ?_,
    .list 3 (Schema.format_lawful KeyValue.schema_lawful) (.inl rfl) ?_,
    .scalar 4 Scalar.uint32_lawful ?_, .scalar 5 Scalar.fixed32_lawful ?_⟩
  all_goals exact ⟨rfl, fun _ _ => rfl, fun _ _ => rfl⟩

theorem SpanStatus.schema_lawful : SpanStatus.schema.Lawful maxLevels 2 := by
  refine .of_fields rfl (by decide) (by decide) (fun _ => rfl) ?_
  refine ⟨.scalar 0 Scalar.text_lawful ?_, .scalar 1 Scalar.int32_lawful ?_⟩
  all_goals exact ⟨rfl, fun _ _ => rfl, fun _ _ => rfl⟩

theorem Span.schema_lawful : Span.schema.Lawful maxLevels 4 := by
  refine .of_fields rfl (by decide) (by decide) (fun _ => rfl) ?_
  refine ⟨.scalar 0 Scalar.hex_lawful ?_, .scalar 1 Scalar.hex_lawful ?_,
    .scalar 2 Scalar.text_lawful ?_, .scalar 3 Scalar.hex_lawful ?_,
    .scalar 4 Scalar.fixed32_lawful ?_, .scalar 5 Scalar.text_lawful ?_,
    .scalar 6 Scalar.int32_lawful ?_, .scalar 7 Scalar.fixed64Text_lawful ?_,
    .scalar 8 Scalar.fixed64Text_lawful ?_,
    .list 9 (Schema.format_lawful KeyValue.schema_lawful) (.inl rfl) ?_,
    .scalar 10 Scalar.uint32_lawful ?_,
    .list 11 (Schema.format_lawful SpanEvent.schema_lawful) (by decide) ?_,
    .scalar 12 Scalar.uint32_lawful ?_,
    .list 13 (Schema.format_lawful SpanLink.schema_lawful) (by decide) ?_,
    .scalar 14 Scalar.uint32_lawful ?_,
    .option 15 (Schema.format_lawful SpanStatus.schema_lawful) rfl (by decide) ?_⟩
  all_goals exact ⟨rfl, fun _ _ => rfl, fun _ _ => rfl⟩

theorem ScopeSpans.schema_lawful : ScopeSpans.schema.Lawful maxLevels 6 := by
  refine .of_fields rfl (by decide) (by decide) (fun _ => rfl) ?_
  refine ⟨.option 0 (Schema.format_lawful Scope.schema_lawful) rfl (by decide) ?_,
    .list 1 (Schema.format_lawful Span.schema_lawful) (by decide) ?_,
    .scalar 2 Scalar.text_lawful ?_⟩
  all_goals exact ⟨rfl, fun _ _ => rfl, fun _ _ => rfl⟩

theorem ResourceSpans.schema_lawful : ResourceSpans.schema.Lawful maxLevels 8 := by
  refine .of_fields rfl (by decide) (by decide) (fun _ => rfl) ?_
  refine ⟨.option 0 (Schema.format_lawful Resource.schema_lawful) rfl (by decide) ?_,
    .list 1 (Schema.format_lawful ScopeSpans.schema_lawful) (by decide) ?_,
    .scalar 2 Scalar.text_lawful ?_⟩
  all_goals exact ⟨rfl, fun _ _ => rfl, fun _ _ => rfl⟩

theorem TraceRequest.schema_lawful : TraceRequest.schema.Lawful maxLevels 10 :=
  .of_fields rfl (by decide) (by decide) (fun _ => rfl)
    (.list 0 (Schema.format_lawful ResourceSpans.schema_lawful) (by decide)
      ⟨rfl, fun _ _ => rfl, fun _ _ => rfl⟩)

theorem Exemplar.schema_lawful : Exemplar.schema.Lawful maxLevels 0 where
  fields_ne := List.cons_ne_nil _ _
  keys := by decide
  defaults := .inl rfl
  fields := by
    refine List.forall_iff_forall_mem.1 ?_
    refine ⟨.list 0 (Schema.format_lawful KeyValue.schema_lawful) (.inl rfl) ?_,
      .scalar 1 Scalar.fixed64_lawful ?_, .scalar 2 Scalar.hex_lawful ?_,
      .scalar 3 Scalar.hex_lawful ?_⟩
    all_goals exact ⟨rfl, fun _ _ => rfl, fun _ _ => rfl⟩
  placed := nofun
  alternatives := List.forall_iff_forall_mem.1
    ⟨.of_format (Format.scalar_lawful Scalar.double_lawful) (.inl rfl) fun _ _ => rfl,
      .of_format (Format.scalar_lawful Scalar.sfixed64_lawful) (.inl rfl) fun _ _ => rfl⟩
  initial := rfl
  copy := fun ⟨_, _, _, _, value⟩ => by rcases value with _ | (_ | _) <;> rfl

theorem NumberDataPoint.schema_lawful : NumberDataPoint.schema.Lawful maxLevels 2 where
  fields_ne := List.cons_ne_nil _ _
  keys := by decide
  defaults := by decide
  fields := by
    refine List.forall_iff_forall_mem.1 ?_
    refine ⟨.list 0 (Schema.format_lawful KeyValue.schema_lawful) (.inl rfl) ?_,
      .scalar 1 Scalar.fixed64Text_lawful ?_, .scalar 2 Scalar.fixed64Text_lawful ?_,
      .list 3 (Schema.format_lawful Exemplar.schema_lawful) (.inl rfl) ?_,
      .scalar 4 Scalar.uint32_lawful ?_⟩
    all_goals exact ⟨rfl, fun _ _ => rfl, fun _ _ => rfl⟩
  placed := nofun
  alternatives := List.forall_iff_forall_mem.1
    ⟨.of_format (Format.scalar_lawful Scalar.double_lawful) (.inl rfl) fun _ _ => rfl,
      .of_format (Format.scalar_lawful Scalar.sfixed64_lawful) (.inl rfl) fun _ _ => rfl⟩
  initial := rfl
  copy := fun ⟨_, _, _, _, _, value⟩ => by rcases value with _ | (_ | _) <;> rfl

theorem HistogramDataPoint.schema_lawful : HistogramDataPoint.schema.Lawful maxLevels 2 := by
  refine .of_fields rfl (by decide) (by decide) (fun _ => rfl) ?_
  refine ⟨.list 0 (Schema.format_lawful KeyValue.schema_lawful) (.inl rfl) ?_,
    .scalar 1 Scalar.fixed64Text_lawful ?_, .scalar 2 Scalar.fixed64Text_lawful ?_,
    .scalar 3 Scalar.fixed64_lawful ?_,
    .option 4 (Format.scalar_lawful Scalar.double_lawful) rfl (.inl rfl) ?_,
    .packed 5 Scalar.fixed64_lawful ?_, .packed 6 Scalar.double_lawful ?_,
    .list 7 (Schema.format_lawful Exemplar.schema_lawful) (.inl rfl) ?_,
    .scalar 8 Scalar.uint32_lawful ?_,
    .option 9 (Format.scalar_lawful Scalar.double_lawful) rfl (.inl rfl) ?_,
    .option 10 (Format.scalar_lawful Scalar.double_lawful) rfl (.inl rfl) ?_⟩
  all_goals exact ⟨rfl, fun _ _ => rfl, fun _ _ => rfl⟩

theorem Buckets.schema_lawful : Buckets.schema.Lawful maxLevels 0 := by
  refine .of_fields rfl (by decide) (.inl rfl) (fun _ => rfl) ?_
  refine ⟨.scalar 0 Scalar.sint32_lawful ?_, .packed 1 Scalar.uint64_lawful ?_⟩
  all_goals exact ⟨rfl, fun _ _ => rfl, fun _ _ => rfl⟩

theorem ExponentialHistogramDataPoint.schema_lawful :
    ExponentialHistogramDataPoint.schema.Lawful maxLevels 0 := by
  refine .of_fields rfl (by decide) (.inl rfl) (fun _ => rfl) ?_
  refine ⟨.list 0 (Schema.format_lawful KeyValue.schema_lawful) (.inl rfl) ?_,
    .scalar 1 Scalar.fixed64_lawful ?_, .scalar 2 Scalar.fixed64_lawful ?_,
    .scalar 3 Scalar.fixed64_lawful ?_,
    .option 4 (Format.scalar_lawful Scalar.double_lawful) rfl (.inl rfl) ?_,
    .scalar 5 Scalar.sint32_lawful ?_, .scalar 6 Scalar.fixed64_lawful ?_,
    .option 7 (Schema.format_lawful Buckets.schema_lawful) rfl (.inl rfl) ?_,
    .option 8 (Schema.format_lawful Buckets.schema_lawful) rfl (.inl rfl) ?_,
    .scalar 9 Scalar.uint32_lawful ?_,
    .list 10 (Schema.format_lawful Exemplar.schema_lawful) (.inl rfl) ?_,
    .option 11 (Format.scalar_lawful Scalar.double_lawful) rfl (.inl rfl) ?_,
    .option 12 (Format.scalar_lawful Scalar.double_lawful) rfl (.inl rfl) ?_,
    .scalar 13 Scalar.double_lawful ?_⟩
  all_goals exact ⟨rfl, fun _ _ => rfl, fun _ _ => rfl⟩

theorem ValueAtQuantile.schema_lawful : ValueAtQuantile.schema.Lawful maxLevels 0 := by
  refine .of_fields rfl (by decide) (.inl rfl) (fun _ => rfl) ?_
  refine ⟨.scalar 0 Scalar.double_lawful ?_, .scalar 1 Scalar.double_lawful ?_⟩
  all_goals exact ⟨rfl, fun _ _ => rfl, fun _ _ => rfl⟩

theorem SummaryDataPoint.schema_lawful : SummaryDataPoint.schema.Lawful maxLevels 0 := by
  refine .of_fields rfl (by decide) (.inl rfl) (fun _ => rfl) ?_
  refine ⟨.list 0 (Schema.format_lawful KeyValue.schema_lawful) (.inl rfl) ?_,
    .scalar 1 Scalar.fixed64_lawful ?_, .scalar 2 Scalar.fixed64_lawful ?_,
    .scalar 3 Scalar.fixed64_lawful ?_, .scalar 4 Scalar.double_lawful ?_,
    .list 5 (Schema.format_lawful ValueAtQuantile.schema_lawful) (.inl rfl) ?_,
    .scalar 6 Scalar.uint32_lawful ?_⟩
  all_goals exact ⟨rfl, fun _ _ => rfl, fun _ _ => rfl⟩

theorem Gauge.schema_lawful : Gauge.schema.Lawful maxLevels 4 :=
  .of_fields rfl (by decide) (by decide) (fun _ => rfl)
    (.list 0 (Schema.format_lawful NumberDataPoint.schema_lawful) (by decide)
      ⟨rfl, fun _ _ => rfl, fun _ _ => rfl⟩)

theorem Sum.schema_lawful : Sum.schema.Lawful maxLevels 4 := by
  refine .of_fields rfl (by decide) (by decide) (fun _ => rfl) ?_
  refine ⟨.list 0 (Schema.format_lawful NumberDataPoint.schema_lawful) (by decide) ?_,
    .scalar 1 Scalar.int32_lawful ?_, .scalar 2 Scalar.bool_lawful ?_⟩
  all_goals exact ⟨rfl, fun _ _ => rfl, fun _ _ => rfl⟩

theorem Histogram.schema_lawful : Histogram.schema.Lawful maxLevels 4 := by
  refine .of_fields rfl (by decide) (by decide) (fun _ => rfl) ?_
  refine ⟨.list 0 (Schema.format_lawful HistogramDataPoint.schema_lawful) (by decide) ?_,
    .scalar 1 Scalar.int32_lawful ?_⟩
  all_goals exact ⟨rfl, fun _ _ => rfl, fun _ _ => rfl⟩

theorem ExponentialHistogram.schema_lawful : ExponentialHistogram.schema.Lawful maxLevels 2 := by
  refine .of_fields rfl (by decide) (by decide) (fun _ => rfl) ?_
  refine ⟨.list 0 (Schema.format_lawful ExponentialHistogramDataPoint.schema_lawful) (.inl rfl) ?_,
    .scalar 1 Scalar.int32_lawful ?_⟩
  all_goals exact ⟨rfl, fun _ _ => rfl, fun _ _ => rfl⟩

theorem Summary.schema_lawful : Summary.schema.Lawful maxLevels 2 :=
  .of_fields rfl (by decide) (by decide) (fun _ => rfl)
    (.list 0 (Schema.format_lawful SummaryDataPoint.schema_lawful) (.inl rfl)
      ⟨rfl, fun _ _ => rfl, fun _ _ => rfl⟩)

theorem Metric.schema_lawful : Metric.schema.Lawful maxLevels 6 where
  fields_ne := List.cons_ne_nil _ _
  keys := by decide
  defaults := by decide
  fields := by
    refine List.forall_iff_forall_mem.1 ?_
    refine ⟨.scalar 0 Scalar.text_lawful ?_, .scalar 1 Scalar.text_lawful ?_,
      .scalar 2 Scalar.text_lawful ?_,
      .list 3 (Schema.format_lawful KeyValue.schema_lawful) (.inl rfl) ?_⟩
    all_goals exact ⟨rfl, fun _ _ => rfl, fun _ _ => rfl⟩
  placed := nofun
  alternatives := by
    refine List.forall_iff_forall_mem.1 ?_
    refine ⟨.of_format (Schema.format_lawful Gauge.schema_lawful) ?_ fun _ _ => rfl,
      .of_format (Schema.format_lawful Sum.schema_lawful) ?_ fun _ _ => rfl,
      .of_format (Schema.format_lawful Histogram.schema_lawful) ?_ fun _ _ => rfl,
      .of_format (Schema.format_lawful ExponentialHistogram.schema_lawful) ?_ fun _ _ => rfl,
      .of_format (Schema.format_lawful Summary.schema_lawful) ?_ fun _ _ => rfl⟩
    all_goals decide
  initial := rfl
  copy := fun ⟨_, _, _, _, data⟩ => by rcases data with _ | (_ | _ | _ | _ | _) <;> rfl

theorem ScopeMetrics.schema_lawful : ScopeMetrics.schema.Lawful maxLevels 8 := by
  refine .of_fields rfl (by decide) (by decide) (fun _ => rfl) ?_
  refine ⟨.option 0 (Schema.format_lawful Scope.schema_lawful) rfl (by decide) ?_,
    .list 1 (Schema.format_lawful Metric.schema_lawful) (by decide) ?_,
    .scalar 2 Scalar.text_lawful ?_⟩
  all_goals exact ⟨rfl, fun _ _ => rfl, fun _ _ => rfl⟩

theorem ResourceMetrics.schema_lawful : ResourceMetrics.schema.Lawful maxLevels 10 := by
  refine .of_fields rfl (by decide) (by decide) (fun _ => rfl) ?_
  refine ⟨.option 0 (Schema.format_lawful Resource.schema_lawful) rfl (by decide) ?_,
    .list 1 (Schema.format_lawful ScopeMetrics.schema_lawful) (by decide) ?_,
    .scalar 2 Scalar.text_lawful ?_⟩
  all_goals exact ⟨rfl, fun _ _ => rfl, fun _ _ => rfl⟩

theorem MetricsRequest.schema_lawful : MetricsRequest.schema.Lawful maxLevels 12 :=
  .of_fields rfl (by decide) (by decide) (fun _ => rfl)
    (.list 0 (Schema.format_lawful ResourceMetrics.schema_lawful) (by decide)
      ⟨rfl, fun _ _ => rfl, fun _ _ => rfl⟩)

end TelemetrySpool
