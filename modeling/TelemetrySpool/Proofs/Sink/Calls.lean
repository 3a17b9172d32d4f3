import TelemetrySpool.Proofs.Sink.Offer

/-!
# Calls of sinks

Which sinks a dispatch calls cannot be read off its report. Here every sink notes its calls next to
the state that it acts on, with what it was given and how its write ended. Noting changes nothing
else about a dispatch, so the calls that are noted are those of the pipeline itself, and all that a
dispatch reports and tells health follows from them.
-/

namespace TelemetrySpool

/-- A call of a sink. -/
structure Call (σ : Type) where
  /-- The place of the sink in the order of registration, counted from 0. -/
  position : Nat
  sink : Sink σ
  /-- The record that the sink was given. -/
  record : Record
  outcome : Except SinkError Unit

namespace Call

variable {σ : Type} (call : Call σ)

/-- How the call ended, as far as a report tells. -/
def ending : Ending := .of call.outcome

/-- Whether the sink broke down in the middle of its work. -/
def brokeDown : Bool :=
  match call.outcome with
  | .error .brokeDown => true
  | _ => false

/-- What health is told of the call, if it failed. -/
def failure? : Option String := call.sink.failure? call.outcome

/-- A sink that breaks down has failed. -/
theorem ending_of_brokeDown {call : Call σ} (h : call.brokeDown) : call.ending = .failed := by
  unfold brokeDown at h
  split at h
  · next ho =>
    rw [ending, ho]
    rfl
  · cases h

end Call

/-! ## Noting calls -/

variable {σ : Type}

/-- A sink that notes its calls. -/
def Sink.noting (sink : Sink σ) (position : Nat) : Sink (σ × List (Call σ)) where
  name := sink.name
  durable := sink.durable
  write record cancelled := fun noted =>
    let done := sink.write record cancelled noted.1
    ⟨(done.value.1, done.value.2, noted.2 ++ [⟨position, sink, record, done.value.1⟩]), done.events⟩

/-- A sink that notes its calls, behind the same filters. -/
def Registered.noting (r : Registered σ) (position : Nat) : Registered (σ × List (Call σ)) :=
  ⟨r.sink.noting position, r.filters⟩

/-- A pipeline whose sinks note their calls. -/
def Pipeline.noting (p : Pipeline σ) : Pipeline (σ × List (Call σ)) where
  pretty := p.pretty
  sinks := p.sinks.zipIdx.map fun entry => entry.1.noting entry.2

/-- The calls that a dispatch comes to. -/
def Pipeline.calls (p : Pipeline σ) (record : Record) (cancelled : Nat → Bool) (health : Health)
    (state : σ) : List (Call σ) :=
  (p.noting.dispatch record cancelled health (state, [])).value.state.2

/-- How far a record has come, without the calls. -/
def Progress.plain (p : Progress (σ × List (Call σ))) : Progress σ :=
  ⟨p.report, p.health, p.state.1⟩

namespace Registered

variable (r : Registered σ) (position : Nat) (record : Record) (cancelled : Bool)

/-- The call that an offer comes to, if the record passes the filters. -/
def calls (state : σ) : List (Call σ) :=
  if r.admits record then
    [⟨position, r.sink, record, (r.sink.write record cancelled state).value.1⟩]
  else []

/-- An offer to a sink that notes its calls is the offer to the sink itself, with the call noted. -/
theorem offer_noting (p : Progress (σ × List (Call σ))) :
    (r.noting position).offer record cancelled p =
      ⟨⟨(r.offer record cancelled p.plain).value.report,
          (r.offer record cancelled p.plain).value.health,
          ((r.offer record cancelled p.plain).value.state,
            p.state.2 ++ r.calls position record cancelled p.state.1)⟩,
        (r.offer record cancelled p.plain).events⟩ := by
  have hadmits : (r.noting position).admits record = r.admits record := rfl
  unfold offer calls
  rw [hadmits]
  cases r.admits record with
  | false =>
    simp only [Bool.false_eq_true, if_false, List.append_nil]
    rfl
  | true =>
    simp only [if_true, Logged.bind_eq]
    cases ho : (r.sink.write record cancelled p.state.1).value.1 with
    | ok _ =>
      simp only [noting, Sink.noting, ho, account, Progress.plain]
      rfl
    | error error =>
      cases error <;> simp only [noting, Sink.noting, ho, account, Progress.plain]

end Registered

/-- What is left when all sinks have been offered the record: health learns of a success. -/
def Progress.ended (p : Progress σ) : Progress σ :=
  { p with health := if p.report.succeeded then p.health.succeed else p.health }

namespace Pipeline

variable (p : Pipeline σ) (record : Record) (cancelled : Nat → Bool)

/-- Each sink has its own look at the token, in order. -/
theorem offers_cons (r : Registered σ) (sinks : List (Registered σ)) (q : Progress σ) :
    offers record cancelled (r :: sinks) q =
      r.offer record (cancelled 0) q >>= offers record (fun n => cancelled (n + 1)) sinks := rfl

/-- A dispatch is all offers and their end. -/
theorem dispatch_eq (health : Health) (state : σ) :
    p.dispatch record cancelled health state =
      let done := offers record cancelled p.sinks ⟨{ isError := record.isError }, health, state⟩
      ⟨done.value.ended, done.events⟩ := by
  dsimp only [dispatch, Logged.bind_eq, Progress.ended]
  split <;> simp only [Logged.pure_eq, List.append_nil]

/-- Offers to sinks that note their calls are those to the sinks themselves. -/
theorem plain_offers_noting (sinks : List (Registered σ)) (first : Nat)
    (q : Progress (σ × List (Call σ))) :
    let noted := offers record cancelled
      ((sinks.zipIdx first).map fun entry => entry.1.noting entry.2) q
    let done := offers record cancelled sinks q.plain
    noted.value.plain = done.value ∧ noted.events = done.events := by
  induction sinks generalizing first q cancelled with
  | nil => exact ⟨rfl, rfl⟩
  | cons r sinks ih =>
    have hplain : ((r.noting first).offer record (cancelled 0) q).value.plain =
        (r.offer record (cancelled 0) q.plain).value := by
      rw [r.offer_noting]
      rfl
    have hevents : ((r.noting first).offer record (cancelled 0) q).events =
        (r.offer record (cancelled 0) q.plain).events := by rw [r.offer_noting]
    obtain ⟨hrest, hlater⟩ := ih (fun n => cancelled (n + 1)) (first + 1)
      ((r.noting first).offer record (cancelled 0) q).value
    rw [hplain] at hrest hlater
    simp only [List.zipIdx_cons, List.map_cons, offers_cons, Logged.bind_eq]
    exact ⟨hrest, by rw [hlater, hevents]⟩

/-- Noting the calls changes nothing about a dispatch. -/
theorem plain_dispatch_noting (health : Health) (state : σ) (calls : List (Call σ)) :
    let noted := p.noting.dispatch record cancelled health (state, calls)
    let done := p.dispatch record cancelled health state
    noted.value.plain = done.value ∧ noted.events = done.events := by
  obtain ⟨hvalue, hevents⟩ := plain_offers_noting record cancelled p.sinks 0
    ⟨{ isError := record.isError }, health, (state, calls)⟩
  rw [dispatch_eq, dispatch_eq]
  exact ⟨congrArg Progress.ended hvalue, hevents⟩

end Pipeline

/-! ## What follows from the calls -/

/-- What several failures do to health. -/
theorem Health.foldl_fail (health : Health) (failures : List String) :
    failures.foldl fail health =
      ⟨health.consecutive + failures.length, health.total + failures.length,
        failures.getLast?.or health.lastError⟩ := by
  induction failures generalizing health with
  | nil => rfl
  | cons error failures ih =>
    rw [List.foldl_cons, ih, fail, List.getLast?_cons, List.length_cons]
    have hlast : failures.getLast?.or (some error) = some (failures.getLast?.getD error) := by
      cases failures.getLast? <;> rfl
    simp only [hlast, Option.some_or, Health.mk.injEq, and_true]
    omega

/-- A dispatch succeeds if no sink fails and one stores the record for good. -/
theorem Report.succeeded_iff {r : Report} : r.succeeded ↔ r.failed = 0 ∧ 0 < r.persisted := by
  rw [succeeded, Bool.and_eq_true, decide_eq_true_iff, decide_eq_true_iff]

/-- What the offers of a record to sinks come to: who has been called, what the report counts, and
what health has been told. -/
structure Audited (sinks : List (Registered σ)) (record : Record) (health : Health)
    (p : Progress (σ × List (Call σ))) : Prop where
  called : p.state.2.map (fun call => (call.position, call.sink, call.record)) =
    (sinks.zipIdx.filter fun entry => entry.1.admits record).map fun entry =>
      (entry.2, entry.1.sink, record)
  delivered : p.report.delivered = p.state.2.countP (·.ending = .stored)
  persisted : p.report.persisted =
    p.state.2.countP fun call => call.sink.durable ∧ call.ending = .stored
  failed : p.report.failed = p.state.2.countP (·.ending = .failed)
  cancelled : p.report.cancelled = p.state.2.countP (·.ending = .cancelled)
  skipped : p.report.skipped = sinks.countP fun r => ¬ r.admits record
  health : p.health = (p.state.2.filterMap Call.failure?).foldl Health.fail health

namespace Audited

variable {sinks : List (Registered σ)} {record : Record} {health : Health}
  {p : Progress (σ × List (Call σ))}

/-- Before any offer nobody has been called. -/
theorem nil (record : Record) (health : Health) (state : σ) :
    Audited [] record health ⟨{ isError := record.isError }, health, (state, [])⟩ :=
  ⟨rfl, rfl, rfl, rfl, rfl, rfl, rfl⟩

/-- One more offer adds one call, or counts as skipped. -/
theorem offer (h : Audited sinks record health p) (r : Registered σ) (cancelled : Bool) :
    Audited (sinks ++ [r]) record health
      ((r.noting sinks.length).offer record cancelled p).value := by
  rw [r.offer_noting, Registered.calls]
  cases ha : r.admits record with
  | false =>
    rw [r.offer_of_not_admits _ _ _ ha, if_neg (by decide), List.append_nil]
    refine ⟨?_, h.delivered, h.persisted, h.failed, h.cancelled, ?_, h.health⟩
    · rw [h.called, List.zipIdx_append, List.filter_append]
      simp [ha]
    · rw [List.countP_append, List.countP_singleton, ha]
      exact congrArg (· + 1) h.skipped
  | true =>
    rw [r.offer_of_admits _ _ _ ha, if_pos rfl]
    constructor
    · rw [List.map_append, h.called, List.zipIdx_append, List.filter_append]
      simp [ha]
    · rw [Registered.account_report, countP_concat, ← h.delivered]
      rfl
    · rw [Registered.account_report, countP_concat, ← h.persisted]
      rfl
    · rw [Registered.account_report, countP_concat, ← h.failed]
      rfl
    · rw [Registered.account_report, countP_concat, ← h.cancelled]
      rfl
    · rw [Registered.account_report, countP_concat, ha, ← h.skipped]
      rfl
    · rw [Registered.account_health, List.filterMap_append, List.foldl_append, ← h.health]
      simp only [Progress.plain, List.filterMap_cons, List.filterMap_nil, Call.failure?]
      cases r.sink.failure? (r.sink.write record cancelled p.state.1).value.1 <;> rfl

/-- Offers to further sinks add their calls. -/
theorem offers (h : Audited sinks record health p) (more : List (Registered σ))
    (cancelled : Nat → Bool) :
    Audited (sinks ++ more) record health
      (Pipeline.offers record cancelled
        ((more.zipIdx sinks.length).map fun entry => entry.1.noting entry.2) p).value := by
  induction more generalizing sinks p cancelled with
  | nil =>
    rw [List.append_nil]
    exact h
  | cons r more ih =>
    have hnext := ih (h.offer r (cancelled 0)) fun n => cancelled (n + 1)
    rw [List.append_assoc, List.singleton_append, List.length_append,
      List.length_singleton] at hnext
    simpa only [List.zipIdx_cons, List.map_cons, Pipeline.offers_cons, Logged.bind_eq] using hnext

/-- Sinks are called in the order of registration. -/
theorem ascending (h : Audited sinks record health p) :
    p.state.2.Pairwise fun call later => call.position < later.position := by
  have hpositions := congrArg (List.map Prod.fst) h.called
  rw [List.map_map, List.map_map] at hpositions
  have hsinks : ((sinks.zipIdx.filter fun entry => entry.1.admits record).map Prod.snd).Pairwise
      (· < ·) := by
    refine List.Pairwise.sublist (List.filter_sublist.map Prod.snd) ?_
    rw [List.zipIdx_map_snd]
    exact List.pairwise_lt_range'
  rw [← List.pairwise_map (f := Call.position)]
  exact hpositions ▸ hsinks

/-- Every sink is called or skipped, and every call ends in one way. -/
theorem total (h : Audited sinks record health p) :
    p.report.delivered + p.report.failed + p.report.skipped + p.report.cancelled =
      sinks.length := by
  have hcalls : p.state.2.length = p.state.2.countP (·.ending = .stored) +
      p.state.2.countP (·.ending = .failed) + p.state.2.countP (·.ending = .cancelled) := by
    induction p.state.2 with
    | nil => rfl
    | cons call calls ih =>
      simp only [List.countP_cons, List.length_cons, ih]
      cases call.ending with
      | stored => simp; omega
      | failed => simp; omega
      | cancelled => simp; omega
  have hadmitted : p.state.2.length = sinks.countP fun r => r.admits record := by
    have hlength := congrArg List.length h.called
    rw [List.length_map, List.length_map] at hlength
    have hfirst := List.countP_map (p := fun r => r.admits record) (f := Prod.fst)
      (l := sinks.zipIdx)
    rw [List.zipIdx_map_fst] at hfirst
    rw [hlength, ← List.countP_eq_length_filter, hfirst]
    rfl
  have hsinks := List.length_eq_countP_add_countP (fun r => r.admits record) (l := sinks)
  rw [h.delivered, h.failed, h.cancelled, h.skipped]
  omega

/-- A sink that breaks down counts as one failure, like a sink that fails in any other way. -/
theorem failed_eq (h : Audited sinks record health p) :
    p.report.failed = p.state.2.countP (·.brokeDown) +
      p.state.2.countP fun call => call.ending = .failed ∧ ¬ call.brokeDown := by
  rw [h.failed]
  induction p.state.2 with
  | nil => rfl
  | cons call calls ih =>
    simp only [List.countP_cons, ih]
    cases hb : call.brokeDown with
    | false => simp [Nat.add_assoc]
    | true =>
      simp [Call.ending_of_brokeDown hb]
      omega

/-- The failures that health is told of are those that the report counts. -/
theorem failed_eq_length (h : Audited sinks record health p) :
    p.report.failed = (p.state.2.filterMap Call.failure?).length := by
  rw [h.failed, List.length_filterMap_eq_countP]
  refine List.countP_congr fun call _ => ?_
  rw [decide_eq_true_iff, Call.failure?, Sink.isSome_failure?_iff]
  rfl

/-- After a failure no success is told. -/
theorem ended_of_failed (h : Audited sinks record health p) (hfailed : 0 < p.report.failed) :
    p.plain.ended.health = (p.state.2.filterMap Call.failure?).foldl Health.fail health := by
  have hnot : ¬ p.report.succeeded := fun hs =>
    Nat.ne_of_gt hfailed (Report.succeeded_iff.1 hs).1
  rw [← h.health]
  exact if_neg hnot

end Audited

/-- A dispatch is told by the calls that it comes to. -/
theorem Pipeline.exists_audited (p : Pipeline σ) (record : Record) (cancelled : Nat → Bool)
    (health : Health) (state : σ) :
    ∃ q, Audited p.sinks record health q ∧
      p.calls record cancelled health state = q.state.2 ∧
      (p.dispatch record cancelled health state).value = q.plain.ended := by
  have hall := (Audited.nil record health state).offers p.sinks cancelled
  rw [List.nil_append, List.length_nil] at hall
  refine ⟨_, hall, ?_, ?_⟩
  · rw [calls, dispatch_eq]
    rfl
  · rw [← (p.plain_dispatch_noting record cancelled health state []).1, dispatch_eq]
    rfl

/-- After a dispatch in which a sink failed health is degraded. -/
theorem Pipeline.isDegraded_dispatch (p : Pipeline σ) (record : Record) (cancelled : Nat → Bool)
    (health : Health) (state : σ)
    (h : 0 < (p.dispatch record cancelled health state).value.report.failed) :
    (p.dispatch record cancelled health state).value.health.isDegraded := by
  obtain ⟨q, haudited, -, hvalue⟩ := p.exists_audited record cancelled health state
  rw [hvalue] at h ⊢
  have hfailed : 0 < q.report.failed := h
  rw [haudited.ended_of_failed hfailed, Health.foldl_fail, Health.isDegraded, decide_eq_true_iff,
    ← haudited.failed_eq_length]
  exact Nat.add_pos_right _ hfailed

end TelemetrySpool
