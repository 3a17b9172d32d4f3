import Mathlib.Data.List.Forall2
import TelemetrySpool.Proofs.Schema.Reading
import TelemetrySpool.Proofs.Telemetry.BinaryMessages

/-!
# What is kept of metrics in JSON

A metrics request has one metric for each item of the arrays of metrics in its JSON value, in the
same order, and a gauge or a sum has one data point for each item of its array. The own fields of a
metric and of a data point are what their values were read as. The data of a metric and the value of
a data point are choices beside the fields, and these can be lost: if the first member that names
one does not fit, nothing is kept of it and the request is read all the same.
-/

namespace TelemetrySpool

variable {μ : Type}

theorem Schema.ReadFrom.of_ofJson? {s : Schema μ} {levels levels' cost slack : Nat}
    (hc : s.Carried levels cost) (hl : s.Lawful levels' slack) {j : Json} {message : μ}
    (h : s.ofJson? j = some message) : s.ReadFrom j message :=
  hc.independent.readFrom_of_ofJson? hl h

/-- Whether the first member that names an alternative has a value that does not fit it. -/
def Schema.Loses (s : Schema μ) (j : Json) : Prop :=
  ∃ a ∈ s.alternatives, ∃ value, s.named? j = some (a.key, value) ∧ a.format.ofJson? value = none

/-- Nothing is present exactly if nothing was named, or what was named is lost. -/
theorem Schema.ReadFrom.absent_iff {s : Schema μ} {j : Json} {message : μ}
    (h : s.ReadFrom j message) (hplace : s.placement = .beside)
    (hkeys : (s.alternatives.map (·.key)).Nodup) :
    (∀ a ∈ s.alternatives, a.get? message = none) ↔ s.named? j = none ∨ s.Loses j := by
  constructor
  · intro hnone
    cases hnamed : s.named? j with
    | none => exact .inl rfl
    | some member =>
      obtain ⟨key, value⟩ := member
      obtain ⟨a, hmem, rfl, -⟩ := exists_of_find?_alternative hnamed
      have hchoice := h.choice hplace a hmem
      rw [hnone a hmem, hnamed] at hchoice
      exact .inr ⟨a, hmem, value, hnamed, by simpa using hchoice.symm⟩
  · rintro (hnamed | ⟨a, ha, value, hnamed, hlost⟩) b hb
    · rw [h.choice hplace b hb, hnamed]
      rfl
    · rw [h.choice hplace b hb, hnamed]
      by_cases hba : b = a
      · subst hba
        simpa using hlost
      · have hne : a.key ≠ b.key := fun he => hba (List.inj_on_of_nodup_map hkeys hb ha he.symm)
        simp [hne]

/-- What is present was named, and its value fits. -/
theorem Schema.ReadFrom.exists_of_present {s : Schema μ} {j : Json} {message : μ}
    (h : s.ReadFrom j message) (hplace : s.placement = .beside) {a : Alternative μ}
    (ha : a ∈ s.alternatives) {value : a.τ} (hvalue : a.get? message = some value) :
    ∃ part, s.named? j = some (a.key, part) ∧ a.format.ofJson? part = some value := by
  have hchoice := h.choice hplace a ha
  rw [hvalue] at hchoice
  obtain ⟨⟨key, part⟩, hfilter, hpart⟩ := Option.bind_eq_some_iff.1 hchoice.symm
  obtain ⟨hnamed, hkey⟩ := Option.filter_eq_some_iff.1 hfilter
  obtain rfl : key = a.key := of_decide_eq_true hkey
  exact ⟨part, hnamed, hpart⟩

/-- All metrics of a request. -/
def MetricsRequest.metrics (request : MetricsRequest) : List Metric :=
  request.resourceMetrics.flatMap fun resource => resource.scopeMetrics.flatMap (·.metrics)

/-- The JSON values that stand for metrics in that of a request. -/
def MetricsRequest.metricItems (j : Json) : List Json :=
  (MetricsRequest.schema.itemsAt "resourceMetrics" j).flatMap fun resource =>
    (ResourceMetrics.schema.itemsAt "scopeMetrics" resource).flatMap fun scope =>
      ScopeMetrics.schema.itemsAt "metrics" scope

/-- What is kept of a data point that is a number. -/
structure NumberDataPoint.KeptFrom (item : Json) (point : NumberDataPoint) : Prop where
  own : NumberDataPoint.schema.ReadFrom item point
  lost : point.value = none ↔
    NumberDataPoint.schema.named? item = none ∨ NumberDataPoint.schema.Loses item

/-- What is kept of a metric, and of the data points of a gauge or a sum. -/
structure Metric.KeptFrom (item : Json) (metric : Metric) : Prop where
  own : Metric.schema.ReadFrom item metric
  lost : metric.data = none ↔ Metric.schema.named? item = none ∨ Metric.schema.Loses item
  gauge : ∀ data, metric.data = some (.gauge data) → ∃ value,
    Metric.schema.named? item = some ("gauge", value) ∧ List.Forall₂ NumberDataPoint.KeptFrom
      (Gauge.schema.itemsAt "dataPoints" value) data.dataPoints
  sum : ∀ data, metric.data = some (.sum data) → ∃ value,
    Metric.schema.named? item = some ("sum", value) ∧ List.Forall₂ NumberDataPoint.KeptFrom
      (Sum.schema.itemsAt "dataPoints" value) data.dataPoints

theorem NumberDataPoint.absent_iff (point : NumberDataPoint) :
    (∀ a ∈ NumberDataPoint.schema.alternatives, a.get? point = none) ↔ point.value = none := by
  obtain ⟨_, _, _, _, _, value⟩ := point
  rcases value with _ | (_ | _) <;>
    simp [NumberDataPoint.schema, Measurement.alternatives]

theorem Metric.absent_iff (metric : Metric) :
    (∀ a ∈ Metric.schema.alternatives, a.get? metric = none) ↔ metric.data = none := by
  obtain ⟨_, _, _, _, data⟩ := metric
  rcases data with _ | (_ | _ | _ | _ | _) <;> simp [Metric.schema, Metric.kinds]

theorem NumberDataPoint.keptFrom {item : Json} {point : NumberDataPoint}
    (h : NumberDataPoint.schema.ofJson? item = some point) : point.KeptFrom item := by
  have hread := Schema.ReadFrom.of_ofJson? NumberDataPoint.schema_carried
    NumberDataPoint.schema_lawful h
  exact ⟨hread, point.absent_iff.symm.trans (hread.absent_iff rfl (by decide))⟩

/-- The data points of a gauge or a sum stand for the items of its array. -/
theorem NumberDataPoint.forall₂_keptFrom {items : List Json} {points : List NumberDataPoint}
    (h : List.Forall₂ (fun item point => NumberDataPoint.schema.ofJson? item = some point) items
      points) : List.Forall₂ NumberDataPoint.KeptFrom items points :=
  h.imp fun _ _ => NumberDataPoint.keptFrom

theorem Metric.keptFrom {item : Json} {metric : Metric}
    (h : Metric.schema.ofJson? item = some metric) : metric.KeptFrom item := by
  have hread := Schema.ReadFrom.of_ofJson? Metric.schema_carried Metric.schema_lawful h
  refine ⟨hread, metric.absent_iff.symm.trans (hread.absent_iff rfl (by decide)), ?_, ?_⟩
  · intro data hdata
    obtain ⟨value, hnamed, hvalue⟩ := hread.exists_of_present rfl (.head _)
      (show Option.bind metric.data _ = some data by rw [hdata]; rfl)
    have hgauge := Schema.ReadFrom.of_ofJson? Gauge.schema_carried Gauge.schema_lawful hvalue
    exact ⟨value, hnamed, NumberDataPoint.forall₂_keptFrom (hgauge.forall₂_itemsAt (.head _) rfl)⟩
  · intro data hdata
    obtain ⟨value, hnamed, hvalue⟩ := hread.exists_of_present rfl (.tail _ (.head _))
      (show Option.bind metric.data _ = some data by rw [hdata]; rfl)
    have hsum := Schema.ReadFrom.of_ofJson? Sum.schema_carried Sum.schema_lawful hvalue
    exact ⟨value, hnamed, NumberDataPoint.forall₂_keptFrom (hsum.forall₂_itemsAt (.head _) rfl)⟩

/-- Every metric of a request is kept from the item in its place. -/
theorem MetricsRequest.forall₂_keptFrom {j : Json} {request : MetricsRequest}
    (h : MetricsRequest.schema.ofJson? j = some request) :
    List.Forall₂ Metric.KeptFrom (metricItems j) request.metrics := by
  have hrequest := Schema.ReadFrom.of_ofJson? MetricsRequest.schema_carried
    MetricsRequest.schema_lawful h
  refine List.rel_flatMap (hrequest.forall₂_itemsAt (.head _) rfl) fun item resource hresource => ?_
  have hread := Schema.ReadFrom.of_ofJson? ResourceMetrics.schema_carried
    ResourceMetrics.schema_lawful hresource
  refine List.rel_flatMap (hread.forall₂_itemsAt (.tail _ (.head _)) rfl)
    fun item scope hscope => ?_
  have hread := Schema.ReadFrom.of_ofJson? ScopeMetrics.schema_carried
    ScopeMetrics.schema_lawful hscope
  exact (hread.forall₂_itemsAt (.tail _ (.head _)) rfl).imp fun _ _ => Metric.keptFrom

end TelemetrySpool
