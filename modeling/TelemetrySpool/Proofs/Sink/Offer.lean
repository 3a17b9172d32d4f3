import TelemetrySpool.Pipeline

/-!
# What an offer does

A sink that is offered a record either does not see it because of a filter, or acts on the state by
its write alone. The report counts what came of it, and whether a record is stored for good, was
given up or could not be stored is read off these counts.
-/

namespace TelemetrySpool

/-- How a write ends, as far as a report tells. -/
inductive Ending where
  | stored
  /-- The write was given up before it started. -/
  | cancelled
  | failed
  deriving DecidableEq

/-- The ending of a write with an outcome. -/
def Ending.of : Except SinkError Unit → Ending
  | .ok () => stored
  | .error .cancelled => cancelled
  | .error _ => failed

/-- Stored is what a sink says without an error. -/
theorem Ending.of_eq_stored_iff {outcome : Except SinkError Unit} :
    Ending.of outcome = .stored ↔ outcome = .ok () := by
  cases outcome with
  | ok _ => exact ⟨fun _ => rfl, fun _ => rfl⟩
  | error error => cases error <;> simp [Ending.of]

/-- One more counts if it satisfies what is counted. -/
theorem countP_concat {α : Type} (p : α → Prop) [DecidablePred p] (l : List α) (a : α) :
    (l ++ [a]).countP p = l.countP p + if p a then 1 else 0 := by
  rw [List.countP_append, List.countP_singleton]
  simp only [decide_eq_true_eq]

/-- What health is told of a write, if that failed: the name of the sink and the cause. -/
def Sink.failure? {σ : Type} (sink : Sink σ) : Except SinkError Unit → Option String
  | .ok _ => none
  | .error .cancelled => none
  | .error error => some (sink.name ++ ": " ++ error.message)

/-- Health is told of failures alone. -/
theorem Sink.isSome_failure?_iff {σ : Type} (sink : Sink σ) (outcome : Except SinkError Unit) :
    (sink.failure? outcome).isSome ↔ Ending.of outcome = .failed := by
  cases outcome with
  | ok _ => simp [failure?, Ending.of]
  | error error => cases error <;> simp [failure?, Ending.of]

/-- What health is told names the sink and the error. -/
theorem Sink.failure?_eq_some_iff {σ : Type} (sink : Sink σ) {outcome : Except SinkError Unit}
    {text : String} : sink.failure? outcome = some text ↔ ∃ error, outcome = .error error ∧
      error ≠ .cancelled ∧ text = sink.name ++ ": " ++ error.message := by
  cases outcome with
  | ok _ => simp [failure?]
  | error error => cases error <;> simp [failure?, eq_comm]

namespace Registered

variable {σ : Type} (r : Registered σ) (record : Record) (cancelled : Bool) (p : Progress σ)

/-- Accounting for a write does not act on the state. -/
@[simp]
theorem account_state (outcome : Except SinkError Unit) :
    (r.account record p outcome).value.state = p.state := by
  cases outcome with
  | ok _ => rfl
  | error error => cases error <;> rfl

/-- The state after an offer is that after the write, or the one before if there was none. -/
theorem offer_state :
    (r.offer record cancelled p).value.state =
      if r.admits record then (r.sink.write record cancelled p.state).value.2 else p.state := by
  unfold offer
  split
  · simp only [Logged.bind_eq, account_state]
  · rfl

/-- A record that does not pass the filters only counts as skipped. -/
theorem offer_of_not_admits (h : r.admits record = false) :
    (r.offer record cancelled p).value =
      { p with report := { p.report with skipped := p.report.skipped + 1 } } := by
  rw [offer, h]
  rfl

/-- A record that passes the filters is accounted for by how its write ended. -/
theorem offer_of_admits (h : r.admits record = true) :
    (r.offer record cancelled p).value =
      (r.account record { p with state := (r.sink.write record cancelled p.state).value.2 }
        (r.sink.write record cancelled p.state).value.1).value := by
  rw [offer, h]
  rfl

/-- A report counts a write by how it ended: only what a durable sink has taken counts as stored for
good, and what was given up has not failed. -/
theorem account_report (outcome : Except SinkError Unit) :
    (r.account record p outcome).value.report =
      { p.report with
        delivered := p.report.delivered + if Ending.of outcome = .stored then 1 else 0
        persisted := p.report.persisted +
          if r.sink.durable ∧ Ending.of outcome = .stored then 1 else 0
        failed := p.report.failed + if Ending.of outcome = .failed then 1 else 0
        cancelled := p.report.cancelled + if Ending.of outcome = .cancelled then 1 else 0 } := by
  cases outcome with
  | ok _ => simp [account, Ending.of]
  | error error => cases error <;> simp [account, Ending.of]

/-- A write that failed, and no other, is told to health. -/
theorem account_health (outcome : Except SinkError Unit) :
    (r.account record p outcome).value.health =
      (r.sink.failure? outcome).elim p.health p.health.fail := by
  cases outcome with
  | ok _ => rfl
  | error error => cases error <;> rfl

end Registered

end TelemetrySpool
