import TelemetrySpool.Proofs.Receiver.Acknowledgement
import TelemetrySpool.Proofs.Sink.Calls

/-!
# Sinks are isolated from each other

A dispatch calls exactly the sinks whose filters its record passes, in the order in which they have
been registered. Nothing that a sink does, be it that it fails or breaks down, changes who else is
called, and each call is counted once by how it ended. A request comes to a dispatch only if it is
declared as what it is; otherwise nothing happens at all.
-/

namespace TelemetrySpool

variable {σ : Type}

/-- The pipeline in which sinks have been registered, each with its filters. -/
def Pipeline.ofSinks (pretty : Bool) (sinks : List (Sink σ × List Filter)) : Pipeline σ :=
  (sinks.foldlM (fun (p : Pipeline σ) entry => p.register entry.1 entry.2) { pretty }).value

/-- Every sink is registered, in order, with its own filters. -/
theorem Pipeline.sinks_ofSinks (pretty : Bool) (sinks : List (Sink σ × List Filter)) :
    (ofSinks pretty sinks).sinks = sinks.map fun entry => .ofFilters entry.1 entry.2 := by
  have hfold : ∀ p : Pipeline σ,
      (sinks.foldlM (fun (p : Pipeline σ) entry => p.register entry.1 entry.2) p).value.sinks =
        p.sinks ++ sinks.map fun entry => .ofFilters entry.1 entry.2 := by
    induction sinks with
    | nil => exact fun p => (List.append_nil _).symm
    | cons entry sinks ih =>
      intro p
      rw [List.foldlM_cons, Logged.bind_eq]
      refine (ih _).trans ?_
      rw [register, List.map_cons, List.append_assoc]
      rfl
  exact hfold _

/-- A sink without filters sees every record. -/
theorem Registered.admits_ofFilters (sink : Sink σ) (filters : List Filter) (record : Record) :
    (ofFilters sink filters).admits record = filters.all (·.accepts record) := by
  unfold ofFilters admits
  split
  · next hf =>
    rw [hf]
    rfl
  · rfl

/-- What a dispatch of a record comes to, for sinks with their filters in the order of
registration. -/
structure FannedOut (sinks : List (Sink σ × List Filter)) (record : Record)
    (calls : List (Call σ)) (report : Report) : Prop where
  /-- The sinks all of whose filters the record passes are called, each once and with the record. -/
  called : calls.map (fun call => (call.position, call.sink, call.record)) =
    (sinks.zipIdx.filter fun entry => entry.1.2.all (·.accepts record)).map fun entry =>
      (entry.2, entry.1.1, record)
  total : report.delivered + report.failed + report.skipped + report.cancelled = sinks.length
  skipped : report.skipped = sinks.countP fun entry => ∃ filter ∈ entry.2, ¬ filter.accepts record
  delivered : report.delivered = calls.countP (·.ending = .stored)
  persisted : report.persisted =
    calls.countP fun call => call.sink.durable ∧ call.ending = .stored
  cancelled : report.cancelled = calls.countP (·.ending = .cancelled)
  /-- Each sink that broke down is one failure. -/
  failed : report.failed = calls.countP (·.brokeDown) +
    calls.countP fun call => call.ending = .failed ∧ ¬ call.brokeDown

/-- A dispatch fans a record out to its sinks. -/
theorem Pipeline.fannedOut (pretty : Bool) (sinks : List (Sink σ × List Filter))
    (record : Record) (cancelled : Nat → Bool) (health : Health) (state : σ) :
    let p := ofSinks pretty sinks
    FannedOut sinks record (p.calls record cancelled health state)
      (p.dispatch record cancelled health state).value.report := by
  obtain ⟨q, hq, hcalls, hdispatch⟩ :=
    (ofSinks pretty sinks).exists_audited record cancelled health state
  dsimp only
  rw [hcalls, hdispatch]
  rw [sinks_ofSinks] at hq
  constructor
  · have hfilters : ((fun entry : Registered σ × Nat => entry.1.admits record) ∘
        Prod.map (fun entry : Sink σ × List Filter => .ofFilters entry.1 entry.2) id) =
        fun entry => entry.1.2.all (·.accepts record) :=
      funext fun entry => Registered.admits_ofFilters _ _ _
    rw [hq.called, List.zipIdx_map, List.filter_map, List.map_map, hfilters]
    rfl
  · rw [← List.length_map (fun entry => Registered.ofFilters entry.1 entry.2)]
    exact hq.total
  · refine hq.skipped.trans ?_
    rw [List.countP_map]
    refine List.countP_congr fun entry _ => ?_
    simp [Registered.admits_ofFilters]
  · exact hq.delivered
  · exact hq.persisted
  · exact hq.cancelled
  · exact hq.failed_eq

/-- Who is called depends on the filters alone. -/
theorem FannedOut.called_eq {sinks : List (Sink σ × List Filter)} {record : Record}
    {calls : List (Call σ)} {report : Report} (h : FannedOut sinks record calls report) :
    calls.map (fun call => (call.position, call.record)) =
      ((sinks.map (·.2)).zipIdx.filter fun entry => entry.1.all (·.accepts record)).map
        fun entry => (entry.2, record) := by
  have hcalled := congrArg (List.map fun call => (call.1, call.2.2)) h.called
  rw [List.map_map, List.map_map] at hcalled
  rw [List.zipIdx_map, List.filter_map, List.map_map]
  exact hcalled

/-- A request is dispatched if it is declared as what it is, and otherwise nothing happens. -/
theorem Receiver.write_eq (r : Receiver) (request : Request) (signal : Signal) :
    write request signal r =
      if signal = .unspecified then ⟨(.error .unspecifiedSignal, r), []⟩
      else if request.signal ≠ signal then
        ⟨(.error (.signalMismatch signal request.signal), r), []⟩
      else
        let p := r.pipeline.dispatch (r.recordOf request) r.token.upcoming r.health r.outlets
        ⟨(.ok p.value.report, { r with
            token := r.token.skip r.pipeline.sinks.length
            clock := r.clock.tick
            health := p.value.health
            outlets := p.value.state }), p.events⟩ := by
  split
  · next hs => exact r.write_of_error (by rw [Pipeline.record, dif_pos hs])
  · next hs =>
    split
    · next hm => exact r.write_of_error (by rw [Pipeline.record, dif_neg hs, if_pos hm])
    · next hm =>
      obtain rfl := Decidable.not_not.1 hm
      exact r.write_of_ok (r.record_eq request)

/-- Another sink in the place of one leaves the filters as they are. -/
theorem filters_modify (sinks : List (Sink σ × List Filter)) (position : Nat) (other : Sink σ) :
    (sinks.modify position fun entry => (other, entry.2)).map (·.2) = sinks.map (·.2) := by
  refine List.ext_getElem? fun i => ?_
  rw [List.getElem?_map, List.getElem?_map, List.getElem?_modify]
  split
  · cases sinks[i]? <;> rfl
  · cases sinks[i]? <;> rfl

/-- A dispatch calls exactly the sinks whose filters its record passes, once each and in the order
of registration, and counts how the calls ended, whichever of them find the request cancelled; calls
are noted without changing anything else; a
sink that another one replaces, whatever that does, changes nothing about who is called; and a
request comes to a dispatch exactly if it is declared as what it is, while otherwise nothing
happens. -/
theorem sinks_isolated (pretty : Bool) (sinks : List (Sink σ × List Filter)) (record : Record)
    (cancelled : Nat → Bool) (health : Health) (state : σ) (position : Nat) (other : Sink σ)
    (r : Receiver) (request : Request) (signal : Signal) :
    let p := Pipeline.ofSinks pretty sinks
    let p' := Pipeline.ofSinks pretty (sinks.modify position fun entry => (other, entry.2))
    let noted := p.noting.dispatch record cancelled health (state, [])
    let done := p.dispatch record cancelled health state
    FannedOut sinks record noted.value.state.2 done.value.report ∧
    (noted.value.plain = done.value ∧ noted.events = done.events) ∧
    (p'.calls record cancelled health state).map (fun call => (call.position, call.record)) =
      (p.calls record cancelled health state).map (fun call => (call.position, call.record)) ∧
    Receiver.write request signal r =
      if signal = .unspecified then ⟨(.error .unspecifiedSignal, r), []⟩
      else if request.signal ≠ signal then
        ⟨(.error (.signalMismatch signal request.signal), r), []⟩
      else
        let sent := r.pipeline.dispatch (r.recordOf request) r.token.upcoming r.health r.outlets
        ⟨(.ok sent.value.report, { r with
            token := r.token.skip r.pipeline.sinks.length
            clock := r.clock.tick
            health := sent.value.health
            outlets := sent.value.state }), sent.events⟩ := by
  have hfan := Pipeline.fannedOut pretty sinks record cancelled health state
  have hfan' := Pipeline.fannedOut pretty
    (sinks.modify position fun entry => (other, entry.2)) record cancelled health state
  refine ⟨hfan, Pipeline.plain_dispatch_noting _ _ _ _ _ _, ?_, r.write_eq request signal⟩
  rw [hfan'.called_eq, hfan.called_eq, filters_modify]

end TelemetrySpool
