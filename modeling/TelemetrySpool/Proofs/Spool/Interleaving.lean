import TelemetrySpool.Sink.Outlets
import TelemetrySpool.Proofs.Sink.Offer

/-!
# Dispatches side by side

Several records are on their way through the sinks of one pipeline at once. Whoever gets a turn
offers its record to its next sink, or comes to its end if there is none left, so that a write is
one step and anything may happen between two of them. The turns come in any order; each one finds
the volume as it may be by then, and says whether the request has been cancelled. A dispatch that is
alone, and dispatches that are served in turn, are two of these orders.
-/

namespace TelemetrySpool

/-- A sink whose writes leave the store as it is. -/
def Sink.SparesStore (sink : Sink Outlets) : Prop :=
  ∀ record cancelled o, (sink.write record cancelled o).value.2.store = o.store

/-- A console does not act on the store. -/
theorem Sink.sparesStore_console (colored : Bool) (offset : Instant → Int) :
    (console colored offset).SparesStore :=
  fun _ _ _ => rfl

/-- A sink of a pipeline that fills a spool. -/
inductive Member where
  /-- A file sink of all records. -/
  | all (maxMb : UInt64) (filters : List Filter)
  /-- A file sink of errors, which stands behind the filter that lets errors pass. -/
  | errors (maxMb : UInt64) (filters : List Filter)
  /-- Any sink that does not act on the store. -/
  | other (registered : Registered Outlets) (spares : registered.sink.SparesStore)

namespace Member

/-- The sink with its filters, for a directory on a volume. -/
def registered (directory : Path) (volume : Volume) : Member → Registered Outlets
  | all maxMb filters => .ofFilters (Sink.file ⟨.all, directory, maxMb, volume⟩) filters
  | errors maxMb filters =>
    .ofFilters (Sink.file ⟨.errors, directory, maxMb, volume⟩) (.errorsOnly :: filters)
  | other registered _ => registered

/-- The stream that a sink writes. -/
def stream? : Member → Option Stream
  | all _ _ => some .all
  | errors _ _ => some .errors
  | other _ _ => none

end Member

/-- A record on its way. -/
structure Flight where
  record : Record
  /-- The sinks that it has not been offered to yet. -/
  left : List Member
  report : Report

/-- What all flights share, and how far each has come. -/
structure Traffic where
  flights : List Flight
  /-- The reports of the flights that have come to their end. -/
  reports : List Report
  health : Health
  outlets : Outlets

/-- A turn of the flight with a number. -/
structure Turn where
  flight : Nat
  cancelled : Bool
  volume : Volume

/-- A write of a record to a stream, and how it ended. -/
structure Attempt where
  stream : Stream
  record : Record
  outcome : Except SinkError Unit

/-- Whether the record has been stored. -/
def Attempt.stored (attempt : Attempt) : Bool := attempt.outcome.toBool

/-- A record is stored exactly if its write succeeds. -/
theorem Attempt.stored_iff {attempt : Attempt} :
    attempt.stored ↔ attempt.outcome = .ok () := by
  rw [stored]
  cases attempt.outcome <;> simp [Except.toBool]

/-- Every record that is offered comes back with its report. -/
theorem Pipeline.length_offerEach {σ : Type} (r : Registered σ) (cancelled : Nat → Bool)
    (waiting : List (Record × Report)) (health : Health) (state : σ) :
    (offerEach r cancelled waiting health state).value.1.length = waiting.length := by
  induction waiting generalizing cancelled health state with
  | nil => rfl
  | cons next waiting ih => exact congrArg Nat.succ (ih _ _ _)

namespace Traffic

/-- Records that have all sinks before them. -/
def start (members : List Member) (records : List Record) (health : Health) (outlets : Outlets) :
    Traffic :=
  ⟨records.map fun record => ⟨record, members, { isError := record.isError }⟩, [], health, outlets⟩

/-- The write to a stream that an offer comes to, if the record passes the filters. -/
def attempts (directory : Path) (turn : Turn) (member : Member) (record : Record) (o : Outlets) :
    List Attempt :=
  let registered := member.registered directory turn.volume
  match member.stream? with
  | none => []
  | some stream =>
    if registered.admits record then
      [⟨stream, record, (registered.sink.write record turn.cancelled o).value.1⟩]
    else []

/-- One turn, with the write that it came to. A turn of a flight that does not exist is void. -/
def step (directory : Path) (t : Traffic) (turn : Turn) : Traffic × List Attempt :=
  match t.flights[turn.flight]? with
  | none => (t, [])
  | some ⟨_, [], report⟩ =>
    ({ t with
        flights := t.flights.eraseIdx turn.flight
        reports := t.reports ++ [report]
        health := if report.succeeded then t.health.succeed else t.health }, [])
  | some ⟨record, member :: left, report⟩ =>
    let registered := member.registered directory turn.volume
    let p := (registered.offer record turn.cancelled ⟨report, t.health, t.outlets⟩).value
    ({ t with
        flights := t.flights.set turn.flight ⟨record, left, p.report⟩
        health := p.health
        outlets := p.state }, attempts directory turn member record t.outlets)

/-- Turn after turn, with all writes in the order in which they were made. -/
def run (directory : Path) (t : Traffic) : List Turn → Traffic × List Attempt
  | [] => (t, [])
  | turn :: turns =>
    let rest := run directory (t.step directory turn).1 turns
    (rest.1, (t.step directory turn).2 ++ rest.2)

variable {directory : Path}

/-- The turns of a flight that nobody interrupts. -/
def alone (cancelled : Nat → Bool) (volume : Volume) (count : Nat) : List Turn :=
  (List.range count).map fun n => ⟨0, cancelled n, volume⟩

/-- One dispatch by itself makes its offers in order. -/
theorem alone_succ (cancelled : Nat → Bool) (volume : Volume) (count : Nat) :
    alone cancelled volume (count + 1) =
      ⟨0, cancelled 0, volume⟩ :: alone (fun n => cancelled (n + 1)) volume count := by
  rw [alone, List.range_succ_eq_map, List.map_cons, List.map_map]
  rfl

/-- A flight that nobody interrupts offers its record to one sink after the other. -/
theorem run_alone {cancelled : Nat → Bool} {volume : Volume} {record : Record} (left : List Member)
    (report : Report) (reports : List Report) (health : Health) (o : Outlets) :
    (run directory ⟨[⟨record, left, report⟩], reports, health, o⟩
        (alone cancelled volume (left.length + 1))).1 =
      let p := (Pipeline.offers record cancelled (left.map (Member.registered directory volume))
        ⟨report, health, o⟩).value
      ⟨[], reports ++ [p.report], if p.report.succeeded then p.health.succeed else p.health,
        p.state⟩ := by
  induction left generalizing cancelled report health o with
  | nil => rfl
  | cons member left ih =>
    rw [List.length_cons, alone_succ, run]
    exact ih _ _ _

/-- A record that is alone is dispatched as the pipeline of the sinks does it. -/
theorem run_start_alone {cancelled : Nat → Bool} {pretty : Bool} {volume : Volume}
    (members : List Member) (record : Record) (health : Health) (o : Outlets) :
    (run directory (start members [record] health o)
        (alone cancelled volume (members.length + 1))).1 =
      let p : Progress Outlets :=
        (Pipeline.dispatch ⟨pretty, members.map (Member.registered directory volume)⟩ record
          cancelled health o).value
      ⟨[], [p.report], p.health, p.state⟩ := by
  refine (run_alone members _ _ _ _).trans ?_
  simp only [Pipeline.dispatch, Logged.bind_eq, List.nil_append]
  split <;> rfl

/-- Flights that all have the same sinks before them. -/
def level (left : List Member) (waiting : List (Record × Report)) : List Flight :=
  waiting.map fun (record, report) => ⟨record, left, report⟩

/-- One turn for each of some flights that stand next to each other. -/
def sweep (cancelled : Nat → Bool) (volume : Volume) (first : Nat) : (count : Nat) → List Turn
  | 0 => []
  | count + 1 =>
    ⟨first, cancelled 0, volume⟩ :: sweep (fun n => cancelled (n + 1)) volume (first + 1) count

/-- Sweep after sweep over all flights. -/
def sweeps (cancelled : Nat → Bool) (volume : Volume) (count : Nat) : (rounds : Nat) → List Turn
  | 0 => []
  | rounds + 1 =>
    sweep cancelled volume 0 count ++ sweeps (fun n => cancelled (n + count)) volume count rounds

/-- Turns follow each other. -/
theorem run_append (t : Traffic) (turns turns' : List Turn) :
    (run directory t (turns ++ turns')).1 = (run directory (run directory t turns).1 turns').1 := by
  induction turns generalizing t with
  | nil => rfl
  | cons turn turns ih => exact ih _

/-- One sweep offers every record to the next sink. -/
theorem run_sweep {cancelled : Nat → Bool} {volume : Volume} (member : Member)
    (left : List Member) (done waiting : List (Record × Report)) (reports : List Report)
    (health : Health) (o : Outlets) :
    (run directory ⟨level left done ++ level (member :: left) waiting, reports, health, o⟩
        (sweep cancelled volume done.length waiting.length)).1 =
      let p := (Pipeline.offerEach (member.registered directory volume) cancelled waiting health
        o).value
      ⟨level left (done ++ p.1), reports, p.2.1, p.2.2⟩ := by
  induction waiting generalizing cancelled done health o with
  | nil => simp [sweep, run, Pipeline.offerEach, level]
  | cons next waiting ih =>
    obtain ⟨record, report⟩ := next
    let p :=
      ((member.registered directory volume).offer record (cancelled 0) ⟨report, health, o⟩).value
    have hstep : (step directory
        ⟨level left done ++ level (member :: left) ((record, report) :: waiting), reports, health,
          o⟩
        ⟨done.length, cancelled 0, volume⟩).1 =
        ⟨level left (done ++ [(record, p.report)]) ++ level (member :: left) waiting, reports,
          p.health, p.state⟩ := by
      have hget : (level left done ++ level (member :: left) ((record, report) :: waiting))[
          done.length]? = some ⟨record, member :: left, report⟩ := by
        simp [level]
      simp only [step, hget]
      simp [level, p]
    rw [List.length_cons, sweep, run, hstep]
    have hrest := @ih (fun n => cancelled (n + 1)) (done ++ [(record, p.report)]) p.health p.state
    rw [List.length_append, List.length_singleton] at hrest
    refine hrest.trans ?_
    simp [Pipeline.offerEach, p]

/-- Sweep after sweep, every record comes to one sink after the other. -/
theorem run_sweeps {cancelled : Nat → Bool} {volume : Volume} (left : List Member)
    (waiting : List (Record × Report)) (reports : List Report) (health : Health) (o : Outlets) :
    (run directory ⟨level left waiting, reports, health, o⟩
        (sweeps cancelled volume waiting.length left.length)).1 =
      let p := (Pipeline.offerInTurn cancelled (left.map (Member.registered directory volume))
        waiting health o).value
      ⟨level [] p.1, reports, p.2.1, p.2.2⟩ := by
  induction left generalizing cancelled waiting health o with
  | nil => rfl
  | cons member left ih =>
    rw [List.length_cons, sweeps, run_append]
    let p :=
      (Pipeline.offerEach (member.registered directory volume) cancelled waiting health o).value
    have hlen : p.1.length = waiting.length := Pipeline.length_offerEach _ _ _ _ _
    have hsweep : (run directory ⟨level (member :: left) waiting, reports, health, o⟩
        (sweep cancelled volume 0 waiting.length)).1 = ⟨level left p.1, reports, p.2.1, p.2.2⟩ :=
      run_sweep member left [] waiting reports health o
    rw [hsweep, ← hlen]
    exact (ih p.1 p.2.1 p.2.2).trans (by rw [hlen]; rfl)

/-- Records that are dispatched side by side act on the outlets as flights do that take turns
evenly. -/
theorem run_start_together {cancelled : Nat → Bool} {pretty : Bool} {volume : Volume}
    (members : List Member) (records : List Record) (health : Health) (o : Outlets) :
    (run directory (start members records health o)
        (sweeps cancelled volume records.length members.length)).1.outlets =
      (Pipeline.dispatchTogether ⟨pretty, members.map (Member.registered directory volume)⟩ records
        cancelled health o).value.2.2 := by
  let waiting : List (Record × Report) := records.map fun record =>
    (record, { isError := record.isError })
  have hlevel : start members records health o = ⟨level members waiting, [], health, o⟩ := by
    simp [start, level, waiting]
  have hlen : records.length = waiting.length := (List.length_map _).symm
  rw [hlevel, hlen, run_sweeps]
  rfl

end Traffic

end TelemetrySpool
