import Mathlib.Algebra.Ring.Nat
import TelemetrySpool.Proofs.Sink.Calls

/-!
# What health remembers

Health is told of each sink that fails, and of a success when a dispatch is over. So what it says
after any dispatches can be read off their reports: all failures, those that no success has
followed, and the last of these. Sinks that are skipped, that give up or that store nothing for good
leave no trace in it.
-/

namespace TelemetrySpool

variable {σ : Type}

/-! ## Dispatches one after the other -/

/-- A record that is dispatched, and the pipeline as it is by then. -/
structure Dispatch (σ : Type) where
  pipeline : Pipeline σ
  record : Record
  /-- What the looks at the token come to. -/
  cancelled : Nat → Bool

/-- What a dispatch has come to. -/
structure Dispatched (σ : Type) where
  report : Report
  calls : List (Call σ)

/-- The dispatches so far, and what they have left. -/
structure Chronicle (σ : Type) where
  past : List (Dispatched σ)
  health : Health
  state : σ

namespace Chronicle

/-- The calls that a further dispatch comes to. -/
def calls (c : Chronicle σ) (d : Dispatch σ) : List (Call σ) :=
  d.pipeline.calls d.record d.cancelled c.health c.state

/-- One more dispatch. -/
def dispatch (c : Chronicle σ) (d : Dispatch σ) : Chronicle σ :=
  let done := (d.pipeline.dispatch d.record d.cancelled c.health c.state).value
  ⟨c.past ++ [⟨done.report, c.calls d⟩], done.health, done.state⟩

/-- Some dispatches from fresh health on. -/
def after (state : σ) (dispatches : List (Dispatch σ)) : Chronicle σ :=
  dispatches.foldl dispatch ⟨[], {}, state⟩

end Chronicle

/-! ## What can be read off the past -/

/-- The dispatches after the last one that succeeded. -/
def sinceSuccess (past : List (Dispatched σ)) : List (Dispatched σ) :=
  (past.reverse.takeWhile fun d => !d.report.succeeded).reverse

/-- A dispatch that stored something starts the history anew. -/
theorem sinceSuccess_concat (past : List (Dispatched σ)) (d : Dispatched σ) :
    sinceSuccess (past ++ [d]) =
      if d.report.succeeded then [] else sinceSuccess past ++ [d] := by
  unfold sinceSuccess
  rw [List.reverse_append, List.reverse_singleton, List.singleton_append, List.takeWhile_cons]
  cases d.report.succeeded with
  | true => rfl
  | false => exact List.reverse_cons

/-- The text tells of the failing sink that is last in the order of registration, in the last
dispatch in which a sink failed. -/
def LastFailure (past : List (Dispatched σ)) (text : String) : Prop :=
  ∃ before d after call error, past = before ++ d :: after ∧
    (∀ later ∈ after, later.report.failed = 0) ∧ call ∈ d.calls ∧
    call.outcome = .error error ∧ error ≠ .cancelled ∧
    (∀ other ∈ d.calls, other.ending = .failed → other.position ≤ call.position) ∧
    text = call.sink.name ++ ": " ++ error.message

/-- What health says is what the past tells. -/
structure Remembered (past : List (Dispatched σ)) (health : Health) : Prop where
  total : health.total = (past.map (·.report.failed)).sum
  consecutive : health.consecutive = ((sinceSuccess past).map (·.report.failed)).sum
  present : health.lastError.isSome ↔ health.isDegraded
  last : ∀ text ∈ health.lastError, LastFailure past text

namespace LastFailure

variable {past : List (Dispatched σ)} {text : String}

/-- A dispatch in which no sink fails leaves the last failure where it is. -/
theorem concat (h : LastFailure past text) {d : Dispatched σ} (hd : d.report.failed = 0) :
    LastFailure (past ++ [d]) text := by
  obtain ⟨before, last, after, call, error, rfl, hafter, hrest⟩ := h
  refine ⟨before, last, after ++ [d], call, error, by simp, fun later hm => ?_, hrest⟩
  rcases List.mem_append.1 hm with hm | hm
  · exact hafter later hm
  · rw [List.mem_singleton.1 hm]
    exact hd

/-- The last failure of a dispatch whose calls are in the order of registration. -/
theorem of_getLast? (past : List (Dispatched σ)) {d : Dispatched σ}
    (hcalls : d.calls.Pairwise fun call later => call.position < later.position)
    (htext : (d.calls.filterMap Call.failure?).getLast? = some text) :
    LastFailure (past ++ [d]) text := by
  rw [List.getLast?_filterMap, List.findSome?_eq_some_iff] at htext
  obtain ⟨later, call, earlier, hsplit, hfailure, hlater⟩ := htext
  have hd : d.calls = earlier.reverse ++ call :: later.reverse := by
    rw [← List.reverse_reverse d.calls, hsplit]
    simp
  obtain ⟨error, houtcome, herror, htext⟩ := call.sink.failure?_eq_some_iff.1 hfailure
  refine ⟨past, d, [], call, error, rfl, fun _ h => absurd h List.not_mem_nil, ?_, houtcome,
    herror, fun other hother hfailed => ?_, htext⟩
  · rw [hd]
    exact List.mem_append_right _ List.mem_cons_self
  · rw [hd] at hother hcalls
    rcases List.mem_append.1 hother with hbefore | hafter
    · exact Nat.le_of_lt ((List.pairwise_append.1 hcalls).2.2 other hbefore call
        List.mem_cons_self)
    rcases List.mem_cons.1 hafter with rfl | hafter
    · exact Nat.le_refl _
    · have hsome := (other.sink.isSome_failure?_iff other.outcome).2 hfailed
      have hnone := hlater other (List.mem_reverse.1 hafter)
      rw [Call.failure?] at hnone
      rw [hnone] at hsome
      cases hsome

end LastFailure

/-! ## What a dispatch does to health -/

namespace Remembered

variable {past : List (Dispatched σ)} {health : Health} {d : Dispatched σ}

/-- Before any dispatch there is nothing to remember. -/
theorem nil : Remembered ([] : List (Dispatched σ)) {} where
  total := rfl
  consecutive := rfl
  present := by decide
  last _ h := by cases h

/-- Health is degraded if failures have followed the last success. -/
theorem isDegraded_iff (h : Remembered past health) :
    health.isDegraded ↔ 0 < ((sinceSuccess past).map (·.report.failed)).sum := by
  rw [Health.isDegraded, decide_eq_true_iff, h.consecutive]

/-- A success ends the run of failures and forgets the last one. -/
theorem succeed (h : Remembered past health) (hd : d.report.succeeded) :
    Remembered (past ++ [d]) health.succeed := by
  have hfailed : d.report.failed = 0 := (Report.succeeded_iff.1 hd).1
  have hhealth : health.succeed = ⟨0, health.total, none⟩ := by
    unfold Health.succeed
    split
    · rfl
    · next hrun =>
      have hlast : health.lastError = none := by
        rw [← Option.not_isSome_iff_eq_none, h.present, Health.isDegraded, decide_eq_true_iff]
        exact hrun
      rw [← hlast, ← Nat.eq_zero_of_not_pos hrun]
  rw [hhealth]
  constructor
  · simp [h.total, hfailed]
  · rw [sinceSuccess_concat, if_pos hd]
    rfl
  · simp [Health.isDegraded]
  · intro text htext
    cases htext

/-- A dispatch without a failure that stores nothing for good is not remembered. -/
theorem idle (h : Remembered past health) (hfailed : d.report.failed = 0)
    (hd : d.report.succeeded = false) : Remembered (past ++ [d]) health := by
  constructor
  · simp [h.total, hfailed]
  · simp [sinceSuccess_concat, hd, h.consecutive, hfailed]
  · exact h.present
  · exact fun text htext => (h.last text htext).concat hfailed

/-- Failures are counted, and the last one is kept. -/
theorem fail (h : Remembered past health) {failures : List String}
    (hfailed : d.report.failed = failures.length) (hsome : 0 < d.report.failed)
    (hlast : ∀ text ∈ failures.getLast?, LastFailure (past ++ [d]) text) :
    Remembered (past ++ [d]) (failures.foldl Health.fail health) := by
  have hd : d.report.succeeded = false :=
    Bool.eq_false_iff.2 fun hd => Nat.ne_of_gt hsome (Report.succeeded_iff.1 hd).1
  have hne : failures ≠ [] := by
    rintro rfl
    exact absurd hsome (by rw [hfailed]; decide)
  rw [Health.foldl_fail, List.getLast?_eq_some_getLast hne]
  constructor
  · simp [h.total, hfailed]
  · simp [sinceSuccess_concat, hd, h.consecutive, hfailed]
  · simp only [Health.isDegraded, Option.some_or, Option.isSome_some, decide_eq_true_eq, true_iff]
    omega
  · intro text htext
    refine hlast text ?_
    rw [List.getLast?_eq_some_getLast hne]
    exact htext

end Remembered

/-- What health has been told is remembered after one more dispatch. -/
theorem Audited.remembered {sinks : List (Registered σ)} {record : Record} {health : Health}
    {q : Progress (σ × List (Call σ))} (h : Audited sinks record health q)
    {past : List (Dispatched σ)} (hpast : Remembered past health) :
    Remembered (past ++ [⟨q.report, q.state.2⟩]) q.plain.ended.health := by
  rcases Nat.eq_zero_or_pos q.report.failed with hnone | hsome
  · have hhealth : q.health = health := by
      rw [h.failed_eq_length, List.length_eq_zero_iff] at hnone
      rw [h.health, hnone]
      rfl
    cases hs : q.report.succeeded with
    | true =>
      have hended : q.plain.ended.health = health.succeed := by
        simp only [Progress.ended, Progress.plain, hs, if_true, hhealth]
      rw [hended]
      exact hpast.succeed hs
    | false =>
      have hended : q.plain.ended.health = health := by
        simp only [Progress.ended, Progress.plain, hs, Bool.false_eq_true, if_false, hhealth]
      rw [hended]
      exact hpast.idle hnone hs
  · rw [h.ended_of_failed hsome]
    exact hpast.fail h.failed_eq_length hsome fun text htext =>
      LastFailure.of_getLast? past h.ascending htext

/-- Dispatches in which no sink fails and nothing is stored for good leave health alone. -/
theorem Audited.health_of_idle {sinks : List (Registered σ)} {record : Record} {health : Health}
    {q : Progress (σ × List (Call σ))} (h : Audited sinks record health q)
    (hidle : ∀ call ∈ q.state.2,
      call.ending = .cancelled ∨ call.ending = .stored ∧ ¬ call.sink.durable) :
    q.plain.ended.health = health := by
  have hfailures : q.state.2.filterMap Call.failure? = [] := by
    rw [List.filterMap_eq_nil_iff]
    intro call hcall
    rw [← Option.not_isSome_iff_eq_none, Call.failure?, Sink.isSome_failure?_iff]
    intro hfailed
    rcases hidle call hcall with hcancelled | ⟨hstored, -⟩
    · cases hfailed.symm.trans hcancelled
    · cases hfailed.symm.trans hstored
  have hpersisted : q.report.persisted = 0 := by
    rw [h.persisted, List.countP_eq_zero]
    intro call hcall hstored
    rw [decide_eq_true_iff] at hstored
    rcases hidle call hcall with hcancelled | ⟨-, hdurable⟩
    · cases hcancelled.symm.trans hstored.2
    · exact hdurable hstored.1
  have hs : q.report.succeeded = false :=
    Bool.eq_false_iff.2 fun hs => Nat.ne_of_gt (Report.succeeded_iff.1 hs).2 hpersisted
  simp only [Progress.ended, Progress.plain, hs, Bool.false_eq_true, if_false, h.health,
    hfailures, List.foldl_nil]

namespace Chronicle

/-- What is remembered stays so with every dispatch. -/
theorem remembered_dispatch {c : Chronicle σ} (h : Remembered c.past c.health) (d : Dispatch σ) :
    Remembered (c.dispatch d).past (c.dispatch d).health := by
  obtain ⟨q, haudited, hcalls, hvalue⟩ :=
    d.pipeline.exists_audited d.record d.cancelled c.health c.state
  simp only [dispatch, calls, hcalls, hvalue]
  exact haudited.remembered h

/-- What is remembered stays so with dispatches one after the other. -/
theorem remembered_foldl {c : Chronicle σ} (h : Remembered c.past c.health)
    (dispatches : List (Dispatch σ)) :
    let c := dispatches.foldl dispatch c
    Remembered c.past c.health := by
  induction dispatches generalizing c with
  | nil => exact h
  | cons d dispatches ih => exact ih (remembered_dispatch h d)

/-- A dispatch in which no durable sink stored or failed leaves the health. -/
theorem health_dispatch_of_idle {c : Chronicle σ} {d : Dispatch σ}
    (hidle : ∀ call ∈ c.calls d,
      call.ending = .cancelled ∨ call.ending = .stored ∧ ¬ call.sink.durable) :
    (c.dispatch d).health = c.health := by
  obtain ⟨q, haudited, hcalls, hvalue⟩ :=
    d.pipeline.exists_audited d.record d.cancelled c.health c.state
  rw [calls, hcalls] at hidle
  simp only [dispatch, hvalue]
  exact haudited.health_of_idle hidle

end Chronicle

/-- After any dispatches health tells how many writes have failed, how many of them since the last
success, and which was the last. A dispatch whose calls are all given up, or stored by sinks that
are not durable, does not change it. -/
theorem health_of_dispatches (state : σ) (dispatches : List (Dispatch σ)) :
    let c := Chronicle.after state dispatches
    Remembered c.past c.health ∧
      (c.health.isDegraded ↔ 0 < ((sinceSuccess c.past).map (·.report.failed)).sum) ∧
      ∀ d, (∀ call ∈ c.calls d,
          call.ending = .cancelled ∨ call.ending = .stored ∧ ¬ call.sink.durable) →
        (c.dispatch d).health = c.health := by
  have h := Chronicle.remembered_foldl (c := ⟨[], {}, state⟩) Remembered.nil dispatches
  exact ⟨h, h.isDegraded_iff, fun d hidle => Chronicle.health_dispatch_of_idle hidle⟩

end TelemetrySpool
