import Mathlib.Algebra.BigOperators.Group.Finset.Piecewise
import TelemetrySpool.Proofs.Sink.Write
import TelemetrySpool.Proofs.Spool.Interleaving

/-!
# What is stored is neither lost nor doubled

However the dispatches of a pipeline take turns, each write that stores its record adds its line
once to a file of its own signal and stream, and nothing else changes a file. A run thus comes with
the places at which its lines have landed, one for each write that stored a record.
-/

namespace TelemetrySpool

open FileTree (extended extended_nil extended_append)

/-- A write that stored its record, with the place of the file that it made longer. -/
structure Landing where
  place : Place
  attempt : Attempt

/-- The lines that have landed at a place, in order. -/
def linesAt (landings : List Landing) (place : Place) : List String :=
  (landings.filter (·.place = place)).map (·.attempt.record.line)

/-- Lines land one after the other. -/
theorem linesAt_append (landings landings' : List Landing) (place : Place) :
    linesAt (landings ++ landings') place = linesAt landings place ++ linesAt landings' place := by
  rw [linesAt, List.filter_append, List.map_append]
  rfl

/-- Where the lines of the writes in `attempts` have landed, which is all that files have become
longer by. -/
structure Deposits (directory : Path) (files files' : FileTree) (attempts : List Attempt)
    (landings : List Landing) : Prop where
  attempt_eq : landings.map (·.attempt) = attempts.filter (·.stored)
  isFileOf : ∀ landing ∈ landings, FileName.isFileOf directory landing.attempt.record.signal
    landing.attempt.stream landing.place
  file?_eq : ∀ place, files'.file? place = extended (files.file? place) (linesAt landings place)
  isError : ∀ attempt ∈ attempts, attempt.stream = .errors → attempt.record.isError

namespace Deposits

variable {directory : Path} {files files' files'' : FileTree} {attempts attempts' : List Attempt}
  {landings landings' : List Landing}

/-- Without a write nothing lands, and files are what they were. -/
theorem nil (h : ∀ place, files'.file? place = files.file? place) :
    Deposits directory files files' [] [] :=
  ⟨rfl, by simp, fun place => by rw [linesAt, List.filter_nil, List.map_nil, extended_nil, h],
    by simp⟩

/-- What lands first lies before what lands later. -/
theorem append (h : Deposits directory files files' attempts landings)
    (h' : Deposits directory files' files'' attempts' landings') :
    Deposits directory files files'' (attempts ++ attempts') (landings ++ landings') where
  attempt_eq := by rw [List.map_append, List.filter_append, h.attempt_eq, h'.attempt_eq]
  isFileOf landing hl := (List.mem_append.1 hl).elim (h.isFileOf landing) (h'.isFileOf landing)
  file?_eq place := by rw [h'.file?_eq, h.file?_eq, extended_append, linesAt_append]
  isError attempt ha := (List.mem_append.1 ha).elim (h.isError attempt) (h'.isError attempt)

/-- A write of a file sink lands in a file of the active path if it stores its record, and lands
nowhere if it fails. -/
theorem of_writes {sink : FileSink} {record : Record} {cancelled : Bool} {s s' : Store}
    {outcome : Except SinkError Unit} (hv : sink.volume.Complete) (hn : s.rotation.Named)
    (h : sink.Writes record cancelled s outcome s')
    (he : sink.stream = .errors → record.isError) :
    ∃ landings, Deposits sink.directory s.files s'.files [⟨sink.stream, record, outcome⟩]
      landings := by
  have hflag : ∀ attempt ∈ [(⟨sink.stream, record, outcome⟩ : Attempt)],
      attempt.stream = .errors → attempt.record.isError := by
    intro attempt ha
    obtain rfl := List.mem_singleton.1 ha
    exact he
  cases outcome with
  | error error =>
    exact ⟨[], rfl, by simp, fun place => by
      rw [linesAt, List.filter_nil, List.map_nil, extended_nil, h.file?_of_error hv], hflag⟩
  | ok _ =>
    obtain ⟨path, hown, hfiles⟩ := h.exists_place_of_ok hn
    refine ⟨[⟨path, sink.stream, record, .ok ()⟩], rfl, ?_, fun place => ?_, hflag⟩
    · intro landing hl
      obtain rfl := List.mem_singleton.1 hl
      exact hown
    · rw [hfiles]
      by_cases hp : place = path
      · simp [linesAt, extended, hp]
      · simp [linesAt, extended, hp, Ne.symm hp]

end Deposits

/-- What an offer to a file sink preserves, and where its line lands. -/
theorem FileSink.exists_deposits (sink : FileSink) (filters : List Filter) (record : Record)
    (cancelled : Bool) {o : Outlets} (hv : sink.volume.Complete)
    (hn : o.store.rotation.Named)
    (he : (Registered.ofFilters (Sink.file sink) filters).admits record →
      sink.stream = .errors → record.isError) :
    let registered := Registered.ofFilters (Sink.file sink) filters
    let written := (registered.sink.write record cancelled o).value
    let o' := if registered.admits record then written.2 else o
    o'.store.rotation.Named ∧ ∃ landings, Deposits sink.directory o.store.files o'.store.files
      (if registered.admits record then [⟨sink.stream, record, written.1⟩] else []) landings := by
  intro registered written o'
  simp only [o']
  split
  · next ha =>
    have hw := FileSink.writes_of_ends (Task.ends_self (sink.write record cancelled) o.store)
    exact ⟨hw.named hn, Deposits.of_writes hv hn hw (he ha)⟩
  · exact ⟨hn, [], .nil fun _ => rfl⟩

/-- One offer of a record to a sink, as a step on the store. -/
theorem Member.exists_deposits (directory : Path) (member : Member) {turn : Turn}
    (hv : turn.volume.Complete) (record : Record) (p : Progress Outlets)
    (hn : p.state.store.rotation.Named) :
    let registered := member.registered directory turn.volume
    let p' := (registered.offer record turn.cancelled p).value
    p'.state.store.rotation.Named ∧ ∃ landings, Deposits directory p.state.store.files
      p'.state.store.files (Traffic.attempts directory turn member record p.state) landings := by
  intro registered p'
  have hstate : p'.state = _ := registered.offer_state record turn.cancelled p
  rw [hstate, Traffic.attempts]
  cases member with
  | all maxMb filters =>
    exact FileSink.exists_deposits _ filters record turn.cancelled hv hn (by simp)
  | errors maxMb filters =>
    refine FileSink.exists_deposits _ (.errorsOnly :: filters) record turn.cancelled hv hn ?_
    intro ha _
    simp only [Registered.ofFilters, Registered.admits, reduceCtorEq, if_false, List.all_cons,
      Bool.and_eq_true] at ha
    exact ha.1
  | other other spares =>
    split
    · have hs : (registered.sink.write record turn.cancelled p.state).value.2.store =
        p.state.store := spares record turn.cancelled p.state
      rw [hs]
      exact ⟨hn, [], .nil fun _ => rfl⟩
    · exact ⟨hn, [], .nil fun _ => rfl⟩

namespace Traffic

variable {directory : Path}

/-- What one turn preserves, and where its line lands. -/
theorem step_deposits {t : Traffic} {turn : Turn} (hv : turn.volume.Complete)
    (hn : t.outlets.store.rotation.Named) :
    (t.step directory turn).1.outlets.store.rotation.Named ∧
      ∃ landings, Deposits directory t.outlets.store.files
        (t.step directory turn).1.outlets.store.files (t.step directory turn).2 landings := by
  unfold step
  split
  · exact ⟨hn, [], .nil fun _ => rfl⟩
  · exact ⟨hn, [], .nil fun _ => rfl⟩
  · next record member left report _ =>
    exact Member.exists_deposits directory member hv record ⟨report, t.health, t.outlets⟩ hn

/-- What a whole run preserves, and where its lines land. -/
theorem run_deposits {t : Traffic} {turns : List Turn}
    (hv : ∀ turn ∈ turns, turn.volume.Complete) (hn : t.outlets.store.rotation.Named) :
    (t.run directory turns).1.outlets.store.rotation.Named ∧
      ∃ landings, Deposits directory t.outlets.store.files
        (t.run directory turns).1.outlets.store.files (t.run directory turns).2 landings := by
  induction turns generalizing t with
  | nil => exact ⟨hn, [], .nil fun _ => rfl⟩
  | cons turn turns ih =>
    obtain ⟨hturn, hturns⟩ := List.forall_mem_cons.1 hv
    obtain ⟨hn', first, hfirst⟩ := step_deposits hturn hn
    obtain ⟨hn'', later, hlater⟩ := ih hturns hn'
    exact ⟨hn'', first ++ later, hfirst.append hlater⟩

end Traffic

/-- The lines of the writes to a stream of a signal that stored their records. -/
def storedLines (attempts : List Attempt) (signal : Signal) (stream : Stream) : Multiset String :=
  (attempts.filter fun a => a.record.signal = signal && a.stream = stream && a.stored).map
    (·.record.line)

/-- The files have become longer by whole lines, each of them in a file of its own signal and
stream, and over all files of a signal and a stream these are the lines of the writes there that
stored their records. -/
structure Accounted (directory : Path) (files files' : FileTree) (attempts : List Attempt)
    (touched : Finset Place) (added : Place → List String) : Prop where
  file?_eq : ∀ place, files'.file? place = extended (files.file? place) (added place)
  mem_touched : ∀ place, place ∈ touched ↔ added place ≠ []
  own : ∀ place, ∀ line ∈ added place, ∃ attempt ∈ attempts, attempt.stored ∧
    attempt.record.line = line ∧
      FileName.isFileOf directory attempt.record.signal attempt.stream place
  balance : ∀ signal stream,
    ∑ place ∈ touched.filter (FileName.isFileOf directory signal stream ·),
      (added place : Multiset String) = storedLines attempts signal stream
  isError : ∀ attempt ∈ attempts, attempt.stream = .errors → attempt.record.isError

/-- Lines counted place by place are the lines that landed at these places. -/
theorem sum_linesAt (places : Finset Place) (landings : List Landing) :
    ∑ place ∈ places, (linesAt landings place : Multiset String) =
      ((landings.filter (·.place ∈ places)).map (·.attempt.record.line) : List String) := by
  induction landings with
  | nil => simp [linesAt]
  | cons landing landings ih =>
    have hcons : ∀ place, (linesAt (landing :: landings) place : Multiset String) =
        (if landing.place = place then {landing.attempt.record.line} else 0) +
          (linesAt landings place : Multiset String) := by
      intro place
      by_cases hp : landing.place = place
      · simp [linesAt, hp]
      · simp [linesAt, hp]
    simp only [hcons, Finset.sum_add_distrib, ih, Finset.sum_ite_eq]
    by_cases hp : landing.place ∈ places
    · simp [hp]
    · simp [hp]

/-- Places tell signals and streams apart, so lines can be counted by their places. -/
theorem Deposits.accounted {directory : Path} {files files' : FileTree} {attempts : List Attempt}
    {landings : List Landing} (h : Deposits directory files files' attempts landings) :
    Accounted directory files files' attempts (landings.map (·.place)).toFinset
      (linesAt landings) where
  file?_eq := h.file?_eq
  mem_touched place := by
    simp [linesAt, List.filter_eq_nil_iff]
  own place line hl := by
    simp only [linesAt, List.mem_map, List.mem_filter, decide_eq_true_iff] at hl
    obtain ⟨landing, ⟨hmem, rfl⟩, rfl⟩ := hl
    have ha : landing.attempt ∈ attempts.filter (·.stored) := by
      rw [← h.attempt_eq]
      exact List.mem_map_of_mem hmem
    obtain ⟨ha, hs⟩ := List.mem_filter.1 ha
    exact ⟨landing.attempt, ha, hs, rfl, h.isFileOf landing hmem⟩
  balance signal stream := by
    have hfilter : ∀ landing ∈ landings,
        decide (landing.place ∈ (landings.map (·.place)).toFinset.filter
          (FileName.isFileOf directory signal stream ·)) =
        (decide (landing.attempt.record.signal = signal) &&
          decide (landing.attempt.stream = stream)) := by
      intro landing hl
      have hown := h.isFileOf landing hl
      rw [Bool.eq_iff_iff, decide_eq_true_iff, Bool.and_eq_true, decide_eq_true_iff,
        decide_eq_true_iff, Finset.mem_filter]
      constructor
      · exact fun hp => FileName.isFileOf_unique hown hp.2
      · rintro ⟨rfl, rfl⟩
        exact ⟨List.mem_toFinset.2 (List.mem_map_of_mem hl), hown⟩
    rw [sum_linesAt, List.filter_congr hfilter, storedLines]
    have hmap : (landings.filter fun l => decide (l.attempt.record.signal = signal) &&
        decide (l.attempt.stream = stream)).map (·.attempt) =
        (attempts.filter (·.stored)).filter fun a => decide (a.record.signal = signal) &&
          decide (a.stream = stream) := by
      rw [← h.attempt_eq, List.filter_map]
      rfl
    have hlines := congrArg (List.map (·.record.line)) hmap
    rw [List.map_map, List.filter_filter] at hlines
    exact congrArg _ hlines
  isError := h.isError

/-- Whatever turns the dispatches of a pipeline take, starting from any directory and with any
clock, as long as no append breaks off, no line that was stored is lost, doubled or cut off. -/
theorem exists_accounted_run (directory : Path) (members : List Member) (records : List Record)
    (health : Health) (o : Outlets) (turns : List Turn)
    (hv : ∀ turn ∈ turns, turn.volume.Complete) (hn : o.store.rotation.Named) :
    let done := (Traffic.start members records health o).run directory turns
    ∃ touched added, Accounted directory o.store.files done.1.outlets.store.files done.2 touched
      added := by
  obtain ⟨-, landings, h⟩ :=
    @Traffic.run_deposits directory (Traffic.start members records health o) turns hv hn
  exact ⟨_, _, h.accounted⟩

/-- An error and a plain record that take turns in an empty directory while the clock stands still;
the second write of errors is cancelled. -/
theorem exists_accounted_run_of_two :
    let time : Instant := ⟨0, 0, by decide, by decide⟩
    let o : Outlets := { store := { clock := .still time } }
    let volume := Volume.ofFree (Nat.pow 2 40)
    let turns : List Turn :=
      [⟨1, false, volume⟩, ⟨0, false, volume⟩, ⟨0, true, volume⟩, ⟨1, false, volume⟩]
    let done := (Traffic.start [.all 100 [], .errors 100 [],
        .other ⟨.console true fun _ => 0, [.all]⟩ (Sink.sparesStore_console true fun _ => 0)]
      [⟨.logs, "[1]\n", true, time, by decide⟩, ⟨.traces, "[2]\n", false, time, by decide⟩]
      {} o).run "out" turns
    (∀ turn ∈ turns, turn.volume.Complete) ∧ ({} : Rotation).Named ∧
      ∃ touched added, Accounted "out" o.store.files done.1.outlets.store.files done.2 touched
        added := by
  intro time o volume turns done
  have hvolume : ∀ turn ∈ turns, turn.volume = volume := by simp [turns]
  have hcomplete : ∀ turn ∈ turns, turn.volume.Complete := by
    intro turn ht
    rw [hvolume turn ht]
    exact Volume.complete_ofFree _
  exact ⟨hcomplete, Rotation.named_empty,
    exists_accounted_run _ _ _ _ _ _ hcomplete Rotation.named_empty⟩

end TelemetrySpool
