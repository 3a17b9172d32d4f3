import TelemetrySpool.Proofs.Sink.Calls
import TelemetrySpool.Receiver.Basic

/-!
# What a configured pipeline writes

The pipeline of a configuration writes a record to the file of all records and, if it is an error,
then to the file of errors. A console may come last; it does not act on the store and cannot fail.
So the outcomes of the one or two writes, each with the store before and after it, tell the report
of a dispatch and the store that it leaves.
-/

namespace TelemetrySpool

/-- A write of a file sink, with the stores before and after it. -/
structure Trial where
  sink : FileSink
  before : Store
  outcome : Except SinkError Unit
  after : Store

/-- How the write ended, as far as a report tells. -/
def Trial.ending (trial : Trial) : Ending := .of trial.outcome

/-- The write of a record, as it goes on a store. -/
def FileSink.trial (sink : FileSink) (record : Record) (cancelled : Bool) (s : Store) : Trial :=
  ⟨sink, s, (sink.write record cancelled s).value.1, (sink.write record cancelled s).value.2⟩

namespace Config

/-- The writes that the dispatch of a record comes to; each has its own look at the token. -/
def trials (config : Config) (host : Host) (record : Record) (cancelled : Nat → Bool)
    (s : Store) : List Trial :=
  let first := (config.fileSink host .all).trial record (cancelled 0) s
  if record.isError then
    [first, (config.fileSink host .errors).trial record (cancelled 1) first.after]
  else [first]

/-- The sinks of a configured pipeline, in the order of their registration. -/
theorem pipeline_sinks (config : Config) (host : Host) :
    (config.pipeline host).value.sinks =
      ⟨.file (config.fileSink host .all), [.all]⟩ ::
        ⟨.file (config.fileSink host .errors), [.errorsOnly]⟩ ::
        if config.console.enabled then [⟨.console config.console.colored host.offset, [.all]⟩]
        else [] := by
  unfold pipeline
  simp only [Logged.bind_eq, Pipeline.register, Registered.ofFilters]
  split <;> rfl

/-- The configuration says how documents are printed. -/
theorem pipeline_pretty (config : Config) (host : Host) :
    (config.pipeline host).value.pretty = config.prettyJson := by
  unfold pipeline
  simp only [Logged.bind_eq, Pipeline.register]
  split <;> rfl

end Config

/-- The store after some writes. -/
def storeAfter (s : Store) (trials : List Trial) : Store :=
  (trials.getLast?.map (·.after)).getD s

/-- The last trial leaves the store that the trials leave. -/
theorem storeAfter_concat (s : Store) (trials : List Trial) (trial : Trial) :
    storeAfter s (trials ++ [trial]) = trial.after := by
  simp [storeAfter]

/-- A report counts the writes of file sinks by their outcomes, and the store is what they have
left. -/
structure Tallied (s : Store) (trials : List Trial) (p : Progress Outlets) : Prop where
  store : p.state.store = storeAfter s trials
  persisted : p.report.persisted = trials.countP (·.ending = .stored)
  failed : p.report.failed = trials.countP (·.ending = .failed)
  cancelled : p.report.cancelled = trials.countP (·.ending = .cancelled)

namespace Tallied

variable {s : Store} {trials : List Trial} {p : Progress Outlets}

theorem nil (isError : Bool) (health : Health) (o : Outlets) :
    Tallied o.store [] ⟨{ isError }, health, o⟩ := ⟨rfl, rfl, rfl, rfl⟩

/-- A file sink adds its write. -/
theorem offer_file (h : Tallied s trials p) (sink : FileSink) {filters : List Filter}
    {record : Record} (cancelled : Bool)
    (ha : Registered.admits ⟨Sink.file sink, filters⟩ record = true) :
    Tallied s (trials ++ [sink.trial record cancelled p.state.store])
      (Registered.offer ⟨.file sink, filters⟩ record cancelled p).value := by
  rw [Registered.offer_of_admits _ _ _ _ ha]
  constructor
  · rw [Registered.account_state, storeAfter_concat]
    rfl
  · rw [Registered.account_report, countP_concat, ← h.persisted]
    have hdurable : (Sink.file sink).durable = true := rfl
    exact congrArg _
      (ite_congr (propext (and_iff_right hdurable)) (fun _ => rfl) (fun _ => rfl))
  · rw [Registered.account_report, countP_concat, ← h.failed]
    rfl
  · rw [Registered.account_report, countP_concat, ← h.cancelled]
    rfl

/-- A sink that does not see the record adds nothing. -/
theorem offer_of_not_admits (h : Tallied s trials p) {r : Registered Outlets} {record : Record}
    (cancelled : Bool) (ha : r.admits record = false) :
    Tallied s trials (r.offer record cancelled p).value := by
  rw [Registered.offer_of_not_admits _ _ _ _ ha]
  exact ⟨h.store, h.persisted, h.failed, h.cancelled⟩

/-- A console adds nothing. -/
theorem offer_console (h : Tallied s trials p) (colored : Bool) (offset : Instant → Int)
    (record : Record) (cancelled : Bool) :
    Tallied s trials
      (Registered.offer ⟨.console colored offset, [.all]⟩ record cancelled p).value := by
  rw [Registered.offer_of_admits _ _ _ _ rfl]
  exact ⟨h.store, h.persisted, h.failed, h.cancelled⟩

end Tallied

/-- The sinks of a configured pipeline add the writes of its file sinks; that of errors sees errors
alone. -/
theorem Config.offers_tallied (config : Config) (host : Host) (record : Record)
    (cancelled : Nat → Bool) (health : Health) (o : Outlets) :
    Tallied o.store (config.trials host record cancelled o.store)
      (Pipeline.offers record cancelled (config.pipeline host).value.sinks
        ⟨{ isError := record.isError }, health, o⟩).value := by
  have hadmits : Registered.admits ⟨Sink.file (config.fileSink host .all), [.all]⟩ record = true :=
    rfl
  have hfirst := (Tallied.nil record.isError health o).offer_file (config.fileSink host .all)
    (cancelled 0) hadmits
  -- What follows the two file sinks adds nothing to what they have added.
  have hrest : ∀ {trials : List Trial} {p : Progress Outlets} (cancelled : Nat → Bool),
      Tallied o.store trials p → Tallied o.store trials (Pipeline.offers record cancelled
        (if config.console.enabled then [⟨.console config.console.colored host.offset, [.all]⟩]
          else []) p).value := by
    intro trials p cancelled h
    split
    · exact h.offer_console config.console.colored host.offset record (cancelled 0)
    · exact h
  rw [config.pipeline_sinks host, Config.trials]
  simp only [Pipeline.offers_cons, Logged.bind_eq]
  refine hrest _ ?_
  cases he : record.isError with
  | true =>
    have herrors : Registered.admits ⟨Sink.file (config.fileSink host .errors), [.errorsOnly]⟩
        record = true := by
      simp [Registered.admits, Filter.errorsOnly, he]
    have hsecond := hfirst.offer_file (config.fileSink host .errors) (cancelled 1) herrors
    rw [hfirst.store] at hsecond
    simpa [he, storeAfter] using hsecond
  | false =>
    have herrors : Registered.admits ⟨Sink.file (config.fileSink host .errors), [.errorsOnly]⟩
        record = false := by
      simp [Registered.admits, Filter.errorsOnly, he]
    have hsecond := hfirst.offer_of_not_admits (cancelled 1) herrors
    simpa [he] using hsecond

/-- What a dispatch of a configured pipeline reports and leaves. -/
theorem Config.dispatch_tallied (config : Config) (host : Host) (record : Record)
    (cancelled : Nat → Bool) (health : Health) (o : Outlets) :
    Tallied o.store (config.trials host record cancelled o.store)
      ((config.pipeline host).value.dispatch record cancelled health o).value := by
  have hall := config.offers_tallied host record cancelled health o
  rw [Pipeline.dispatch_eq]
  exact ⟨hall.store, hall.persisted, hall.failed, hall.cancelled⟩

/-- A fresh receiver whose clock goes on by a second with every reading. -/
def Receiver.fresh (config : Config) (host : Host) : Receiver where
  pipeline := (config.pipeline host).value
  clock := .still .epoch
  outlets := { store := { clock := ⟨fun i => .ofNanos (i * 1000000000), 0⟩ } }

end TelemetrySpool
