import TelemetrySpool.Telemetry.Resource

/-!
# Metrics

A metrics request holds resources, these hold scopes, and these hold metrics. A metric has data
points of one of five kinds, or no data at all.
-/

namespace TelemetrySpool

/-- A measured number. -/
inductive Measurement where
  | double (value : Double)
  | int (value : Int64)
  deriving DecidableEq, Repr

namespace Measurement

/-- The alternatives of a measured number, which may be absent, by their binary numbers. -/
def alternatives {μ : Type} (doubleNumber intNumber : Nat) (get : μ → Option Measurement)
    (set : Measurement → μ → μ) : List (Alternative μ) := [
  ⟨"asDouble", doubleNumber, .scalar .double,
    fun m => (get m).bind (fun | double v => some v | _ => none), fun v m => set (double v) m⟩,
  ⟨"asInt", intNumber, .scalar .sfixed64,
    fun m => (get m).bind (fun | int v => some v | _ => none), fun v m => set (int v) m⟩]

end Measurement

/-- A measurement that stands for others. -/
structure Exemplar where
  filteredAttributes : List KeyValue := []
  timeUnixNano : UInt64 := 0
  spanId : Bytes := []
  traceId : Bytes := []
  value : Option Measurement := none

/-- The schema of exemplars. -/
def Exemplar.schema : Schema Exemplar where
  initial := {}
  strict := true
  fields := [
    ⟨"filteredAttributes", 7, KeyValue.listFormat, (·.filteredAttributes),
      fun v m => { m with filteredAttributes := v }⟩,
    ⟨"timeUnixNano", 2, .scalar .fixed64, (·.timeUnixNano),
      fun v m => { m with timeUnixNano := v }⟩,
    ⟨"spanId", 4, .scalar .hex, (·.spanId), fun v m => { m with spanId := v }⟩,
    ⟨"traceId", 5, .scalar .hex, (·.traceId), fun v m => { m with traceId := v }⟩]
  placement := .under "value"
  alternatives := Measurement.alternatives 3 6 (·.value) fun v m => { m with value := some v }

/-- One number of a gauge or a sum. -/
structure NumberDataPoint where
  attributes : List KeyValue := []
  startTimeUnixNano : UInt64 := 0
  timeUnixNano : UInt64 := 0
  exemplars : List Exemplar := []
  flags : UInt32 := 0
  value : Option Measurement := none

/-- The schema of number data points. -/
def NumberDataPoint.schema : Schema NumberDataPoint where
  initial := {}
  strict := false
  fields := [
    ⟨"attributes", 7, KeyValue.listFormat, (·.attributes), fun v m => { m with attributes := v }⟩,
    ⟨"startTimeUnixNano", 2, .scalar .fixed64Text, (·.startTimeUnixNano),
      fun v m => { m with startTimeUnixNano := v }⟩,
    ⟨"timeUnixNano", 3, .scalar .fixed64Text, (·.timeUnixNano),
      fun v m => { m with timeUnixNano := v }⟩,
    ⟨"exemplars", 5, Exemplar.schema.format.list, (·.exemplars),
      fun v m => { m with exemplars := v }⟩,
    ⟨"flags", 8, .scalar .uint32, (·.flags), fun v m => { m with flags := v }⟩]
  placement := .beside
  alternatives := Measurement.alternatives 4 6 (·.value) fun v m => { m with value := some v }

/-- Counts of measurements in buckets with explicit bounds. -/
structure HistogramDataPoint where
  attributes : List KeyValue := []
  startTimeUnixNano : UInt64 := 0
  timeUnixNano : UInt64 := 0
  count : UInt64 := 0
  sum : Option Double := none
  bucketCounts : List UInt64 := []
  explicitBounds : List Double := []
  exemplars : List Exemplar := []
  flags : UInt32 := 0
  min : Option Double := none
  max : Option Double := none

/-- The schema of histogram data points. -/
def HistogramDataPoint.schema : Schema HistogramDataPoint where
  initial := {}
  strict := false
  fields := [
    ⟨"attributes", 9, KeyValue.listFormat, (·.attributes), fun v m => { m with attributes := v }⟩,
    ⟨"startTimeUnixNano", 2, .scalar .fixed64Text, (·.startTimeUnixNano),
      fun v m => { m with startTimeUnixNano := v }⟩,
    ⟨"timeUnixNano", 3, .scalar .fixed64Text, (·.timeUnixNano),
      fun v m => { m with timeUnixNano := v }⟩,
    ⟨"count", 4, .scalar .fixed64, (·.count), fun v m => { m with count := v }⟩,
    ⟨"sum", 5, (Format.scalar .double).option, (·.sum), fun v m => { m with sum := v }⟩,
    ⟨"bucketCounts", 6, .packed .fixed64, (·.bucketCounts),
      fun v m => { m with bucketCounts := v }⟩,
    ⟨"explicitBounds", 7, .packed .double, (·.explicitBounds),
      fun v m => { m with explicitBounds := v }⟩,
    ⟨"exemplars", 8, Exemplar.schema.format.list, (·.exemplars),
      fun v m => { m with exemplars := v }⟩,
    ⟨"flags", 10, .scalar .uint32, (·.flags), fun v m => { m with flags := v }⟩,
    ⟨"min", 11, (Format.scalar .double).option, (·.min), fun v m => { m with min := v }⟩,
    ⟨"max", 12, (Format.scalar .double).option, (·.max), fun v m => { m with max := v }⟩]

/-- Counts of measurements in buckets whose bounds grow by a fixed factor. -/
structure Buckets where
  offset : Int32 := 0
  bucketCounts : List UInt64 := []

/-- The schema of buckets. -/
def Buckets.schema : Schema Buckets where
  initial := {}
  strict := true
  fields := [
    ⟨"offset", 1, .scalar .sint32, (·.offset), fun v m => { m with offset := v }⟩,
    ⟨"bucketCounts", 2, .packed .uint64, (·.bucketCounts),
      fun v m => { m with bucketCounts := v }⟩]

/-- Counts of measurements in exponential buckets. -/
structure ExponentialHistogramDataPoint where
  attributes : List KeyValue := []
  startTimeUnixNano : UInt64 := 0
  timeUnixNano : UInt64 := 0
  count : UInt64 := 0
  sum : Option Double := none
  scale : Int32 := 0
  zeroCount : UInt64 := 0
  positive : Option Buckets := none
  negative : Option Buckets := none
  flags : UInt32 := 0
  exemplars : List Exemplar := []
  min : Option Double := none
  max : Option Double := none
  zeroThreshold : Double := .zero

/-- The schema of exponential histogram data points. -/
def ExponentialHistogramDataPoint.schema : Schema ExponentialHistogramDataPoint where
  initial := {}
  strict := true
  fields := [
    ⟨"attributes", 1, KeyValue.listFormat, (·.attributes), fun v m => { m with attributes := v }⟩,
    ⟨"startTimeUnixNano", 2, .scalar .fixed64, (·.startTimeUnixNano),
      fun v m => { m with startTimeUnixNano := v }⟩,
    ⟨"timeUnixNano", 3, .scalar .fixed64, (·.timeUnixNano),
      fun v m => { m with timeUnixNano := v }⟩,
    ⟨"count", 4, .scalar .fixed64, (·.count), fun v m => { m with count := v }⟩,
    ⟨"sum", 5, (Format.scalar .double).option, (·.sum), fun v m => { m with sum := v }⟩,
    ⟨"scale", 6, .scalar .sint32, (·.scale), fun v m => { m with scale := v }⟩,
    ⟨"zeroCount", 7, .scalar .fixed64, (·.zeroCount), fun v m => { m with zeroCount := v }⟩,
    ⟨"positive", 8, Buckets.schema.format.option, (·.positive),
      fun v m => { m with positive := v }⟩,
    ⟨"negative", 9, Buckets.schema.format.option, (·.negative),
      fun v m => { m with negative := v }⟩,
    ⟨"flags", 10, .scalar .uint32, (·.flags), fun v m => { m with flags := v }⟩,
    ⟨"exemplars", 11, Exemplar.schema.format.list, (·.exemplars),
      fun v m => { m with exemplars := v }⟩,
    ⟨"min", 12, (Format.scalar .double).option, (·.min), fun v m => { m with min := v }⟩,
    ⟨"max", 13, (Format.scalar .double).option, (·.max), fun v m => { m with max := v }⟩,
    ⟨"zeroThreshold", 14, .scalar .double, (·.zeroThreshold),
      fun v m => { m with zeroThreshold := v }⟩]

/-- The value below which a share of the measurements lies. -/
structure ValueAtQuantile where
  quantile : Double := .zero
  value : Double := .zero

/-- The schema of values at quantiles. -/
def ValueAtQuantile.schema : Schema ValueAtQuantile where
  initial := {}
  strict := true
  fields := [
    ⟨"quantile", 1, .scalar .double, (·.quantile), fun v m => { m with quantile := v }⟩,
    ⟨"value", 2, .scalar .double, (·.value), fun v m => { m with value := v }⟩]

/-- Measurements summed up by quantiles. -/
structure SummaryDataPoint where
  attributes : List KeyValue := []
  startTimeUnixNano : UInt64 := 0
  timeUnixNano : UInt64 := 0
  count : UInt64 := 0
  sum : Double := .zero
  quantileValues : List ValueAtQuantile := []
  flags : UInt32 := 0

/-- The schema of summary data points. -/
def SummaryDataPoint.schema : Schema SummaryDataPoint where
  initial := {}
  strict := true
  fields := [
    ⟨"attributes", 7, KeyValue.listFormat, (·.attributes), fun v m => { m with attributes := v }⟩,
    ⟨"startTimeUnixNano", 2, .scalar .fixed64, (·.startTimeUnixNano),
      fun v m => { m with startTimeUnixNano := v }⟩,
    ⟨"timeUnixNano", 3, .scalar .fixed64, (·.timeUnixNano),
      fun v m => { m with timeUnixNano := v }⟩,
    ⟨"count", 4, .scalar .fixed64, (·.count), fun v m => { m with count := v }⟩,
    ⟨"sum", 5, .scalar .double, (·.sum), fun v m => { m with sum := v }⟩,
    ⟨"quantileValues", 6, ValueAtQuantile.schema.format.list, (·.quantileValues),
      fun v m => { m with quantileValues := v }⟩,
    ⟨"flags", 8, .scalar .uint32, (·.flags), fun v m => { m with flags := v }⟩]

/-- Numbers of which only the last one matters. -/
structure Gauge where
  dataPoints : List NumberDataPoint := []

/-- The schema of gauges. -/
def Gauge.schema : Schema Gauge where
  initial := {}
  strict := false
  fields := [
    ⟨"dataPoints", 1, NumberDataPoint.schema.format.list, (·.dataPoints),
      fun v m => { m with dataPoints := v }⟩]

/-- Numbers that add up. -/
structure Sum where
  dataPoints : List NumberDataPoint := []
  aggregationTemporality : Int32 := 0
  isMonotonic : Bool := false

/-- The schema of sums. -/
def Sum.schema : Schema Sum where
  initial := {}
  strict := false
  fields := [
    ⟨"dataPoints", 1, NumberDataPoint.schema.format.list, (·.dataPoints),
      fun v m => { m with dataPoints := v }⟩,
    ⟨"aggregationTemporality", 2, .scalar .int32, (·.aggregationTemporality),
      fun v m => { m with aggregationTemporality := v }⟩,
    ⟨"isMonotonic", 3, .scalar .bool, (·.isMonotonic), fun v m => { m with isMonotonic := v }⟩]

/-- Measurements counted in buckets with explicit bounds. -/
structure Histogram where
  dataPoints : List HistogramDataPoint := []
  aggregationTemporality : Int32 := 0

/-- The schema of histograms. -/
def Histogram.schema : Schema Histogram where
  initial := {}
  strict := false
  fields := [
    ⟨"dataPoints", 1, HistogramDataPoint.schema.format.list, (·.dataPoints),
      fun v m => { m with dataPoints := v }⟩,
    ⟨"aggregationTemporality", 2, .scalar .int32, (·.aggregationTemporality),
      fun v m => { m with aggregationTemporality := v }⟩]

/-- Measurements counted in exponential buckets. -/
structure ExponentialHistogram where
  dataPoints : List ExponentialHistogramDataPoint := []
  aggregationTemporality : Int32 := 0

/-- The schema of exponential histograms. -/
def ExponentialHistogram.schema : Schema ExponentialHistogram where
  initial := {}
  strict := false
  fields := [
    ⟨"dataPoints", 1, ExponentialHistogramDataPoint.schema.format.list, (·.dataPoints),
      fun v m => { m with dataPoints := v }⟩,
    ⟨"aggregationTemporality", 2, .scalar .int32, (·.aggregationTemporality),
      fun v m => { m with aggregationTemporality := v }⟩]

/-- Measurements summed up by quantiles over time. -/
structure Summary where
  dataPoints : List SummaryDataPoint := []

/-- The schema of summaries. -/
def Summary.schema : Schema Summary where
  initial := {}
  strict := false
  fields := [
    ⟨"dataPoints", 1, SummaryDataPoint.schema.format.list, (·.dataPoints),
      fun v m => { m with dataPoints := v }⟩]

/-- The data of a metric. -/
inductive MetricData where
  | gauge (data : Gauge)
  | sum (data : Sum)
  | histogram (data : Histogram)
  | exponentialHistogram (data : ExponentialHistogram)
  | summary (data : Summary)

/-- Something that is measured. -/
structure Metric where
  name : String := ""
  description : String := ""
  unit : String := ""
  metadata : List KeyValue := []
  data : Option MetricData := none

/-- The kinds of data. -/
def Metric.kinds : List (Alternative Metric) := [
  ⟨"gauge", 5, Gauge.schema.format, fun m => m.data.bind (fun | .gauge d => some d | _ => none),
    fun v m => { m with data := some (.gauge v) }⟩,
  ⟨"sum", 7, Sum.schema.format, fun m => m.data.bind (fun | .sum d => some d | _ => none),
    fun v m => { m with data := some (.sum v) }⟩,
  ⟨"histogram", 9, Histogram.schema.format,
    fun m => m.data.bind (fun | .histogram d => some d | _ => none),
    fun v m => { m with data := some (.histogram v) }⟩,
  ⟨"exponentialHistogram", 10, ExponentialHistogram.schema.format,
    fun m => m.data.bind (fun | .exponentialHistogram d => some d | _ => none),
    fun v m => { m with data := some (.exponentialHistogram v) }⟩,
  ⟨"summary", 11, Summary.schema.format,
    fun m => m.data.bind (fun | .summary d => some d | _ => none),
    fun v m => { m with data := some (.summary v) }⟩]

/-- The schema of metrics. -/
def Metric.schema : Schema Metric where
  initial := {}
  strict := false
  fields := [
    ⟨"name", 1, .scalar .text, (·.name), fun v m => { m with name := v }⟩,
    ⟨"description", 2, .scalar .text, (·.description), fun v m => { m with description := v }⟩,
    ⟨"unit", 3, .scalar .text, (·.unit), fun v m => { m with unit := v }⟩,
    ⟨"metadata", 12, KeyValue.listFormat, (·.metadata), fun v m => { m with metadata := v }⟩]
  placement := .beside
  alternatives := Metric.kinds

/-- The metrics of one scope. -/
structure ScopeMetrics where
  scope : Option Scope := none
  metrics : List Metric := []
  schemaUrl : String := ""

/-- The schema of the metrics of a scope. -/
def ScopeMetrics.schema : Schema ScopeMetrics where
  initial := {}
  strict := false
  fields := [
    ⟨"scope", 1, Scope.schema.format.option, (·.scope), fun v m => { m with scope := v }⟩,
    ⟨"metrics", 2, Metric.schema.format.list, (·.metrics), fun v m => { m with metrics := v }⟩,
    ⟨"schemaUrl", 3, .scalar .text, (·.schemaUrl), fun v m => { m with schemaUrl := v }⟩]

/-- The metrics of one resource. -/
structure ResourceMetrics where
  resource : Option Resource := none
  scopeMetrics : List ScopeMetrics := []
  schemaUrl : String := ""

/-- The schema of the metrics of a resource. -/
def ResourceMetrics.schema : Schema ResourceMetrics where
  initial := {}
  strict := false
  fields := [
    ⟨"resource", 1, Resource.schema.format.option, (·.resource),
      fun v m => { m with resource := v }⟩,
    ⟨"scopeMetrics", 2, ScopeMetrics.schema.format.list, (·.scopeMetrics),
      fun v m => { m with scopeMetrics := v }⟩,
    ⟨"schemaUrl", 3, .scalar .text, (·.schemaUrl), fun v m => { m with schemaUrl := v }⟩]

/-- A request to store metrics. -/
structure MetricsRequest where
  resourceMetrics : List ResourceMetrics := []

/-- The schema of metrics requests. -/
def MetricsRequest.schema : Schema MetricsRequest where
  initial := {}
  strict := true
  fields := [
    ⟨"resourceMetrics", 1, ResourceMetrics.schema.format.list, (·.resourceMetrics),
      fun v m => { m with resourceMetrics := v }⟩]

end TelemetrySpool
