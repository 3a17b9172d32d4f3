import TelemetrySpool.Proofs.Receiver.Agreement
import TelemetrySpool.Proofs.Telemetry.MetricReading

/-!
# Metrics that are posted in JSON

A body that is no metrics request is refused as a whole. One that is answered as stored has the line
of a request whose metrics stand for the items of the body one by one. What the receiver does not
tell is a choice that was lost: the answer is the same, and the metric is stored without its data,
or the data point without its value.
-/

namespace TelemetrySpool

open MetricsRequest (metricItems)

namespace Receiver

variable {config : Config} {host : Host} {r : Receiver} {limit : Nat} {request : HttpRequest}
  {body : Bytes}

/-- A body of JSON that is no metrics request is refused, and nothing is stored. -/
theorem handle_of_undecodable (hpost : request.Posts limit .metrics .json body)
    (hnone : (Json.parse? body).bind MetricsRequest.schema.ofJson? = none) :
    (handle limit request r).value = (.ofRefusal (.undecodable .json), r) := by
  obtain ⟨compressed, hcompressed, hbuffered⟩ := hpost.buffered
  have hdecode : Request.decode .metrics .json body = .error .json := by
    have hread : (Json.parse? body).bind (Request.ofJson? .metrics) = none := by
      have hmap := congrArg (Option.map Request.metrics) hnone
      rwa [Option.map_bind] at hmap
    simp only [Request.decode, hread]
  have hposted : readPosted request compressed limit .metrics = .error (.undecodable .json) := by
    simp only [readPosted, hbuffered, hpost.encoded, hdecode, bind, Except.bind]
  rw [handle_value (by decide) hpost.method hpost.path, hcompressed]
  dsimp only
  rw [post_value, hposted]

/-- What a posted body of JSON carries is a metrics request that was read from it. -/
theorem exists_of_carries (hpost : request.Posts limit .metrics .json body) {content : Request}
    (hc : request.Carries limit .metrics content) : ∃ j metrics, Json.parse? body = some j ∧
      MetricsRequest.schema.ofJson? j = some metrics ∧ content = .metrics metrics := by
  obtain ⟨compressed, encoding, body', hcompressed, hencoded, hbuffered, hdecode⟩ :=
    HttpRequest.carries_iff.1 hc
  obtain ⟨compressed', hcompressed', hbuffered'⟩ := hpost.buffered
  obtain rfl := Option.some.inj (hcompressed.symm.trans hcompressed')
  obtain rfl := Except.ok.inj (hencoded.symm.trans hpost.encoded)
  obtain rfl := Except.ok.inj (hbuffered.symm.trans hbuffered')
  obtain ⟨j, hparse, hread⟩ := Request.decode_json_eq_ok.1 hdecode
  obtain ⟨metrics, hmetrics, rfl⟩ := Option.map_eq_some_iff.1 hread
  exact ⟨j, metrics, hparse, hmetrics, rfl⟩

/--
What becomes of metrics that are posted in JSON. A body that is no metrics request is answered with
400, and the receiver is as it was. One that is answered with 200 is a metrics request whose line
some file has at its end; it has one metric for each item of the body that stands for one, with its
own fields as they were given, and with its data if the first member that names a kind of data has a
value that fits. The same holds of the data points of gauges and sums and their values. So nothing
is lost exactly if all these values fit.
-/
theorem metrics_kept (hp : r.pipeline = (config.pipeline host).value)
    (hpost : request.Posts limit .metrics .json body) :
    ((Json.parse? body).bind MetricsRequest.schema.ofJson? = none →
        (handle limit request r).value.1.status = 400 ∧ (handle limit request r).value.2 = r) ∧
      ((handle limit request r).value.1.status = 200 → ∃ j metrics, Json.parse? body = some j ∧
        MetricsRequest.schema.ofJson? j = some metrics ∧
        Stores (r.trialsOf config host (.metrics metrics))
          ((Request.metrics metrics).line config.prettyJson) ∧
        List.Forall₂ Metric.KeptFrom (metricItems j) metrics.metrics) := by
  constructor
  · intro hnone
    rw [handle_of_undecodable hpost hnone]
    exact ⟨rfl, rfl⟩
  · intro hstatus
    have hanswer := acknowledged_handle hp (by decide) hpost.method hpost.path limit
    obtain ⟨content, hcarries, hstores⟩ := hanswer.ok.1 hstatus
    obtain ⟨j, metrics, hparse, hread, rfl⟩ := exists_of_carries hpost hcarries
    exact ⟨j, metrics, hparse, hread, hstores, MetricsRequest.forall₂_keptFrom hread⟩

/-- A gauge with a data point whose value is none, and a sum whose data point has a time that is a
plain number. -/
def lossyMetrics : Json :=
  .object [("resourceMetrics", .array [.object [("scopeMetrics", .array [.object [
    ("metrics", .array [
      .object [("name", .string "requests"),
        ("gauge", .object [("dataPoints", .array [.object [("asInt", .bool true)]])])],
      .object [("name", .string "errors"), ("sum", .object [("dataPoints", .array [
        .object [("timeUnixNano", .integer 5), ("asInt", .integer 1)]])])]])]])]])]

/-- The request that posts them. -/
def lossyPost : HttpRequest :=
  .posting .metrics .json (Utf8.octets (Json.compact lossyMetrics))

/-- The request posts metrics in JSON, within the limit. -/
theorem lossyPost_posts :
    lossyPost.Posts 2048 .metrics .json (Utf8.octets (Json.compact lossyMetrics)) :=
  HttpRequest.posts_posting .metrics .json (by decide +kernel)

/-- What is kept of them: the data point has no value, and the sum is gone. -/
def lossyMetricsKept : MetricsRequest :=
  { resourceMetrics := [{ scopeMetrics := [{ metrics := [
    { name := "requests", data := some (.gauge ⟨[{}]⟩) }, { name := "errors" }] }] }] }

/-- It is answered 200 all the same. -/
theorem handle_lossyPost :
    let handled := (handle 2048 lossyPost (fresh {} (.roomy 1000000000))).value
    handled.1.status = 200 ∧
      handled.2.outlets.store.files.file? ["telemetry", "metrics.19700101_000000_000.ndjson"] =
        some (Bytes.ofText ((Request.metrics lossyMetricsKept).line false)) := by
  decide +kernel

theorem metrics_kept_lossy :
    ∃ j metrics, Json.parse? (Utf8.octets (Json.compact lossyMetrics)) = some j ∧
      MetricsRequest.schema.ofJson? j = some metrics ∧
      Stores ((fresh {} (.roomy 1000000000)).trialsOf {} (.roomy 1000000000) (.metrics metrics))
        ((Request.metrics metrics).line false) ∧
      List.Forall₂ Metric.KeptFrom (metricItems j) metrics.metrics :=
  (@metrics_kept {} _ (fresh {} (.roomy 1000000000)) 2048 _ _ rfl lossyPost_posts).2
    handle_lossyPost.1

/-- The answer says that all is stored, but what was named as a gauge and as a sum is not. -/
theorem metrics_lost :
    let handled := (handle 2048 lossyPost (fresh {} (.roomy 1000000000))).value
    (metricItems lossyMetrics).map (fun item => (Metric.schema.named? item).map (·.1)) =
        [some "gauge", some "sum"] ∧
      handled.1.status = 200 ∧
      handled.2.outlets.store.files.file? ["telemetry", "metrics.19700101_000000_000.ndjson"] =
        some (Bytes.ofText ((Request.metrics lossyMetricsKept).line false)) :=
  ⟨by decide +kernel, handle_lossyPost⟩

end Receiver

end TelemetrySpool
