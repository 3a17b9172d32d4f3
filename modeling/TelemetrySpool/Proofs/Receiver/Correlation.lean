import TelemetrySpool.Proofs.Receiver.Wiring
import TelemetrySpool.Proofs.Spool.Deeds

/-!
# Errors lie next to the records around them

The files of all records and of errors are written one after the other, and each write looks at the
size of its own file alone. Still both copies of an error go under one base path: the errors under
the active path never take more octets than all records under it, so whenever the second write would
replace the path, the first one has done so before. This holds while records are dispatched and
signals cleared one after the other, no write fails, and the clock goes on.
-/

namespace TelemetrySpool

open FileTree (extended)

/-- What is done to a receiver. -/
inductive Operation where
  | dispatch (record : Record)
  /-- Clears one signal, or all. -/
  | clear (signal : Option Signal)

namespace Operation

/-- The receiver after an operation in which neither a write nor the clear fails. -/
def perform? (config : Config) (r : Receiver) : Operation → Option Receiver
  | dispatch record =>
    let done := (Receiver.dispatch record r).value
    if done.1.failed = 0 ∧ done.1.cancelled = 0 then some done.2 else none
  | clear signal =>
    let done := (Receiver.onStore (Store.clear config.outputDir signal) r).value
    match done.1 with
    | .ok _ => some done.2
    | .error _ => none

/-- The ledger of a key after an operation that has left the receiver `r`: a record of the signal
goes under the path that is active then. -/
def account (key : SlotKey) (ledger : List Filed) (r : Receiver) : Operation → List Filed
  | dispatch record =>
    if record.signal = key.signal then
      ledger ++ [⟨(r.outlets.store.rotation.active? key).getD "", record⟩]
    else ledger
  | clear signal => if key.signal ∈ Store.clearedSignals signal then [] else ledger

/-- Operation after operation, with the ledger of a key. -/
def run? (config : Config) (key : SlotKey) (r : Receiver) (ledger : List Filed) :
    List Operation → Option (Receiver × List Filed)
  | [] => some (r, ledger)
  | operation :: operations =>
    match operation.perform? config r with
    | none => none
    | some r' => run? config key r' (operation.account key ledger r') operations

end Operation

/-- The key of a signal in the output directory. -/
def Config.key (config : Config) (signal : Signal) : SlotKey := ⟨config.outputDir, signal⟩

/-- A receiver that a configuration has set up, without a file of a signal in its directory. Paths
may be active already, if readings of its own clock have named them. -/
structure Receiver.Unused (config : Config) (host : Host) (signal : Signal) (r : Receiver) :
    Prop where
  pipeline : r.pipeline = (config.pipeline host).value
  increasing : r.outlets.store.clock.Increasing
  proper : r.outlets.store.files.Proper
  named : r.outlets.store.rotation.Named
  active : ∀ base, r.outlets.store.rotation.active? (config.key signal) = some base →
    (config.key signal).Past r.outlets.store.clock base
  file?_eq : ∀ name, FileName.belongsTo signal name →
    r.outlets.store.files.file? (config.outputDir.place ++ [name]) = none

/-- The dispatch of an error in which both writes go under one base path: the second write neither
replaces the active path nor reads the clock. -/
structure Paired (config : Config) (host : Host) (record : Record) (r r' : Receiver) (base : Path)
    (first second : Trial) : Prop where
  first_eq : first = (config.fileSink host .all).trial record (r.token.upcoming 0) r.outlets.store
  second_eq : second = (config.fileSink host .errors).trial record (r.token.upcoming 1) first.after
  active : first.after.rotation.active? (config.key record.signal) = some base
  active' : second.after.rotation.active? (config.key record.signal) = some base
  clock : second.after.clock = first.after.clock
  all : ∀ place, first.after.files.file? place =
    if place = (FileName.ofStream base .all).place then
      extended (r.outlets.store.files.file? place) [record.line]
    else r.outlets.store.files.file? place
  errors : ∀ place, second.after.files.file? place =
    if place = (FileName.ofStream base .errors).place then
      extended (first.after.files.file? place) [record.line]
    else first.after.files.file? place
  store : r'.outlets.store = second.after

/-- Under every base path the file of errors holds the error lines of the file of all records, in
the same order, and the next error goes into both files of one base path. -/
structure Correlated (config : Config) (host : Host) (signal : Signal) (r : Receiver)
    (ledger : List Filed) : Prop where
  all : ∀ time, r.outlets.store.files.file? ((config.key signal).file time .all).place =
    extended none ((recordsUnder ledger ((config.key signal).basePath time)).map (·.line))
  errors : ∀ time, r.outlets.store.files.file? ((config.key signal).file time .errors).place =
    extended none
      (((recordsUnder ledger ((config.key signal).basePath time)).filter (·.isError)).map (·.line))
  next : ∀ record r', record.signal = signal → record.isError →
    (Operation.dispatch record).perform? config r = some r' →
      ∃ base first second, Paired config host record r r' base first second

/-- The records of a ledger that go to a stream. -/
def perStream (ledger : List Filed) : Stream → List Filed
  | .all => ledger
  | .errors => ledger.filter fun f => f.record.isError

/-- An error is entered for both streams. -/
theorem perStream_concat_of_error (ledger : List Filed) (filed : Filed)
    (h : filed.record.isError = true) :
    Store.enter? (Store.enter? (perStream ledger) .all filed) .errors filed =
      perStream (ledger ++ [filed]) := by
  ext stream : 1
  cases stream with
  | all => rfl
  | errors => simp [Store.enter?, perStream, h]

/-- Another record is entered for all records only. -/
theorem perStream_concat_of_not_error (ledger : List Filed) (filed : Filed)
    (h : filed.record.isError = false) :
    Store.enter? (perStream ledger) .all filed = perStream (ledger ++ [filed]) := by
  ext stream : 1
  cases stream with
  | all => rfl
  | errors => simp [Store.enter?, perStream, h]

/-- What holds between two operations. -/
structure Receiver.Tracks (config : Config) (host : Host) (signal : Signal) (r : Receiver)
    (ledger : List Filed) : Prop where
  pipeline : r.pipeline = (config.pipeline host).value
  increasing : r.outlets.store.clock.Increasing
  store : Store.Tracks (config.key signal) (perStream ledger) r.outlets.store

/-- A valid configuration names a directory. -/
theorem Config.outputDir_ne {config : Config} (hv : config.validate = .ok ()) :
    config.outputDir ≠ "" := by
  unfold validate at hv
  rw [ensure_bind_eq_ok_iff] at hv
  simpa using hv.1

/-- A valid configuration lets a file grow. -/
theorem Config.maxFileSizeMb_ne {config : Config} (hv : config.validate = .ok ()) :
    config.maxFileSizeMb ≠ 0 := by
  unfold validate at hv
  simp only [ensure_bind_eq_ok_iff] at hv
  simpa using hv.2.2.2.1

/-- A trial is a write. -/
theorem FileSink.writes_trial (sink : FileSink) (record : Record) (cancelled : Bool) (s : Store) :
    sink.Writes record cancelled s (sink.trial record cancelled s).outcome
      (sink.trial record cancelled s).after :=
  writes_of_ends (Task.ends_self _ _)

/-- A dispatch in which nothing fails has stored every record that it tried to write. -/
theorem Operation.dispatch_eq_some {config : Config} {host : Host} {r r' : Receiver}
    {record : Record} (hp : r.pipeline = (config.pipeline host).value)
    (h : (Operation.dispatch record).perform? config r = some r') :
    (∀ trial ∈ config.trials host record r.token.upcoming r.outlets.store,
        trial.outcome = .ok ()) ∧
      r'.pipeline = r.pipeline ∧ r'.outlets.store =
        storeAfter r.outlets.store
          (config.trials host record r.token.upcoming r.outlets.store) := by
  have ht := config.dispatch_tallied host record r.token.upcoming r.health r.outlets
  rw [← hp] at ht
  unfold perform? Receiver.dispatch at h
  dsimp only at h
  split at h
  · next hz =>
    obtain rfl := Option.some.inj h
    rw [ht.failed, ht.cancelled, List.countP_eq_zero, List.countP_eq_zero] at hz
    refine ⟨fun trial hm => ?_, rfl, ht.store⟩
    have hf := hz.1 trial hm
    have hc := hz.2 trial hm
    rw [← Ending.of_eq_stored_iff]
    cases he : Ending.of trial.outcome with
    | stored => rfl
    | cancelled => simp [Trial.ending, he] at hc
    | failed => simp [Trial.ending, he] at hf
  · cases h

section Dispatch

variable {config : Config} {host : Host} {signal : Signal} {r r' : Receiver}
  {ledger : List Filed} {record : Record}

/-- Both writes of an error go under one base path, and each enters it into its ledger. -/
theorem Receiver.Tracks.paired (h : r.Tracks config host signal ledger)
    (hv : config.validate = .ok ()) (hs : record.signal = signal) (he : record.isError = true)
    (hd : (Operation.dispatch record).perform? config r = some r') :
    ∃ base first second, Paired config host record r r' base first second ∧
      Store.Tracks (config.key signal) (perStream (ledger ++ [⟨base, record⟩])) r'.outlets.store ∧
      r'.outlets.store.clock.Increasing := by
  obtain ⟨hok, -, hstore⟩ := Operation.dispatch_eq_some h.pipeline hd
  subst hs
  generalize hfirst :
    (config.fileSink host .all).trial record (r.token.upcoming 0) r.outlets.store = first
    at hok hstore
  simp only [Config.trials, hfirst, he, if_true] at hok hstore
  generalize hsecond :
    (config.fileSink host .errors).trial record (r.token.upcoming 1) first.after = second
    at hok hstore
  have hw₁ := (config.fileSink host .all).writes_trial record (r.token.upcoming 0) r.outlets.store
  have hw₂ := (config.fileSink host .errors).writes_trial record (r.token.upcoming 1) first.after
  rw [hfirst, hok first (by simp)] at hw₁
  rw [hsecond, hok second (by simp)] at hw₂
  have hc₁ := h.increasing.of_framed hw₁.framed
  obtain ⟨base, ha₁, hle, ht₁⟩ := h.store.of_writes h.increasing rfl hw₁
  -- The errors under the path are among all records there, which were within the limit.
  have hsmall : sizeUnder (Store.enter? (perStream ledger) .all ⟨base, record⟩ .errors) base ≤
      Store.sizeLimit config.maxFileSizeMb :=
    Nat.le_trans (sizeUnder_filter_le ledger base (·.isError)) hle
  obtain ⟨ha₂, hclock⟩ :=
    ht₁.rotation_of_writes rfl hw₂ (Config.maxFileSizeMb_ne hv) ha₁ hsmall
  obtain ⟨base', ha', -, ht₂⟩ := ht₁.of_writes hc₁ rfl hw₂
  obtain rfl : base' = base := Option.some.inj (ha'.symm.trans ha₂)
  obtain ⟨b₁, hb₁, hf₁⟩ := hw₁.file?_of_ok
  obtain ⟨b₂, hb₂, hf₂⟩ := hw₂.file?_of_ok
  obtain rfl : b₁ = base' := Option.some.inj (hb₁.symm.trans ha₁)
  obtain rfl : b₂ = b₁ := Option.some.inj (hb₂.symm.trans ha₂)
  have hline : ∀ content : Option Bytes, extended content [record.line] =
      some (content.getD [] ++ Bytes.ofText record.line) := fun content => by simp [extended]
  refine ⟨b₂, first, second, ?_, ?_, ?_⟩
  · refine ⟨hfirst.symm, hsecond.symm, ha₁, ha₂, hclock, fun place => ?_, fun place => ?_, ?_⟩
    · rw [hf₁, hline]
      rfl
    · rw [hf₂, hline]
      rfl
    · exact hstore
  · rw [hstore, ← perStream_concat_of_error ledger ⟨b₂, record⟩ he]
    exact ht₂
  · rw [hstore]
    exact hc₁.of_framed hw₂.framed

/-- What a dispatch preserves. -/
theorem Receiver.Tracks.of_dispatch (h : r.Tracks config host signal ledger)
    (hv : config.validate = .ok ())
    (hd : (Operation.dispatch record).perform? config r = some r') :
    r'.Tracks config host signal
      ((Operation.dispatch record).account (config.key signal) ledger r') := by
  obtain ⟨hok, hpipe, hstore⟩ := Operation.dispatch_eq_some h.pipeline hd
  have hw₁ := (config.fileSink host .all).writes_trial record (r.token.upcoming 0) r.outlets.store
  have hw₂ := (config.fileSink host .errors).writes_trial record (r.token.upcoming 1)
    ((config.fileSink host .all).trial record (r.token.upcoming 0) r.outlets.store).after
  have hc₁ := h.increasing.of_framed hw₁.framed
  have hc₂ := hc₁.of_framed hw₂.framed
  refine ⟨hpipe.trans h.pipeline, ?_, ?_⟩
  · rw [hstore, Config.trials]
    split
    · exact hc₂
    · exact hc₁
  by_cases hs : record.signal = signal
  · have hkey : record.signal = (config.key signal).signal := hs
    rw [Operation.account, if_pos hkey]
    cases he : record.isError with
    | true =>
      obtain ⟨base, first, second, hpair, ht, -⟩ := h.paired hv hs he hd
      rw [hpair.store, ← hs, hpair.active', Option.getD_some, ← hpair.store, hs]
      exact ht
    | false =>
      simp only [Config.trials, he, Bool.false_eq_true, if_false, List.mem_singleton,
        forall_eq] at hok hstore
      rw [hok] at hw₁
      subst hs
      obtain ⟨base, ha, -, ht⟩ := h.store.of_writes h.increasing rfl hw₁
      have hstore' : r'.outlets.store = ((config.fileSink host .all).trial record
          (r.token.upcoming 0) r.outlets.store).after := hstore
      rw [hstore', ha, Option.getD_some,
        ← perStream_concat_of_not_error ledger ⟨base, record⟩ he]
      exact ht
  · have hkey : record.signal ≠ (config.key signal).signal := hs
    rw [Operation.account, if_neg hkey, hstore, Config.trials]
    have ht₁ := h.store.of_writes_of_ne hkey hw₁
    split
    · exact ht₁.of_writes_of_ne hkey hw₂
    · exact ht₁

/-- What a clear preserves. -/
theorem Receiver.Tracks.of_clear (h : r.Tracks config host signal ledger)
    (hv : config.validate = .ok ()) {cleared : Option Signal}
    (hd : (Operation.clear cleared).perform? config r = some r') :
    r'.Tracks config host signal
      ((Operation.clear cleared).account (config.key signal) ledger r') := by
  unfold Operation.perform? Receiver.onStore at hd
  dsimp only at hd
  split at hd
  · next count hcount =>
    obtain rfl := Option.some.inj hd
    have hcl := Store.clear_cases (show (Store.clear config.outputDir cleared).Ends
      r.outlets.store (.ok count) _ from Prod.ext hcount rfl)
    refine ⟨h.pipeline, ?_, ?_⟩
    · rw [Clock.Increasing, hcl.clock]
      exact h.increasing
    · have ht := h.store.of_cleared (config.outputDir_ne hv) hcl
      rw [Operation.account]
      split
      · next hs =>
        simp only [hs, if_true] at ht
        have hnil : perStream [] = fun _ => [] := by
          ext stream : 1
          cases stream <;> rfl
        rw [hnil]
        exact ht
      · next hs =>
        simp only [hs, if_false] at ht
        exact ht
  · cases hd

end Dispatch

/-- What a run preserves. -/
theorem Receiver.Tracks.of_run {config : Config} {host : Host} {signal : Signal} {r r' : Receiver}
    {ledger ledger' : List Filed} {operations : List Operation}
    (h : r.Tracks config host signal ledger) (hv : config.validate = .ok ())
    (hrun : Operation.run? config (config.key signal) r ledger operations = some (r', ledger')) :
    r'.Tracks config host signal ledger' := by
  induction operations generalizing r ledger with
  | nil =>
    obtain ⟨rfl, rfl⟩ := Prod.mk.inj (Option.some.inj hrun)
    exact h
  | cons operation operations ih =>
    rw [Operation.run?] at hrun
    split at hrun
    · cases hrun
    · next r₁ hp =>
      cases operation with
      | dispatch record => exact ih (h.of_dispatch hv hp) hrun
      | clear cleared => exact ih (h.of_clear hv hp) hrun

/-- The spool that a configured receiver fills. -/
def Config.spool (config : Config) : Spool := ⟨config.outputDir, fun _ => config.maxFileSizeMb⟩

/-- A receiver without a file tracks empty ledgers. -/
theorem Receiver.Unused.tracks {config : Config} {host : Host} {signal : Signal} {r : Receiver}
    (h : r.Unused config host signal) : r.Tracks config host signal [] := by
  have hunused : config.spool.Unused signal r.outlets.store :=
    ⟨h.increasing, h.proper, h.named, h.active, h.file?_eq⟩
  have hnil : perStream [] = fun _ => [] := by
    ext stream : 1
    cases stream <;> rfl
  refine ⟨h.pipeline, h.increasing, ?_⟩
  rw [hnil]
  exact hunused.tracks

/-- However records are dispatched and signals cleared one after the other, as long as nothing
fails and the clock goes on, errors lie next to the records around them. What is said of the next
dispatch holds of every dispatch of the run, for what comes before it is a run as well. -/
theorem Receiver.Unused.correlated {config : Config} {host : Host} {signal : Signal}
    {r r' : Receiver} {ledger : List Filed} {operations : List Operation}
    (h : r.Unused config host signal)
    (hv : config.validate = .ok ())
    (hrun : Operation.run? config (config.key signal) r [] operations = some (r', ledger)) :
    Correlated config host signal r' ledger := by
  have ht := h.tracks.of_run hv hrun
  constructor
  · intro time
    exact ht.store.file?_eq time .all
  · intro time
    rw [← recordsUnder_filter]
    exact ht.store.file?_eq time .errors
  · intro record r'' hs he hd
    obtain ⟨base, first, second, hpair, -, -⟩ := ht.paired hv hs he hd
    exact ⟨base, first, second, hpair⟩

/-- A receiver that has just been set up has used nothing. -/
theorem Receiver.unused_fresh (config : Config) (host : Host) (signal : Signal) :
    (fresh config host).Unused config host signal where
  pipeline := rfl
  increasing i := by
    simp only [fresh, Instant.millis, Instant.ofNanos]
    omega
  proper _ h := absurd h List.not_mem_nil
  named := Rotation.named_empty
  active _ h := by cases h
  file?_eq name _ := by
    simp only [fresh, FileTree.file?, FileTree.get?]
    split
    · next h =>
      split at h
      · cases h
      · cases h
    · rfl

/-- A plain record, a clear of all signals, an error, and another plain record. -/
theorem Receiver.correlated_fresh :
    let record : Bool → Record := fun isError =>
      ⟨.logs, "[]\n", isError, ⟨0, 0, by decide, by decide⟩, by decide⟩
    let operations : List Operation :=
      [.dispatch (record false), .clear none, .dispatch (record true), .dispatch (record false)]
    let host : Host := .roomy 1000000000
    ∃ r' ledger, ((fresh {} host).Unused {} host .logs ∧ Config.validate {} = .ok () ∧
      Operation.run? {} (Config.key {} .logs) (fresh {} host) [] operations =
        some (r', ledger)) ∧
      ledger.length = 2 ∧ Correlated {} host .logs r' ledger := by
  intro record operations host
  have hdone : (Operation.run? {} (Config.key {} .logs) (fresh {} host) [] operations).any
      (·.2.length = 2) = true := by decide +kernel
  obtain ⟨⟨r', ledger⟩, hrun, hl⟩ := (Option.any_eq_true _ _).1 hdone
  have hv : Config.validate {} = .ok () := rfl
  exact ⟨r', ledger, ⟨unused_fresh {} host .logs, hv, hrun⟩, of_decide_eq_true hl,
    (unused_fresh {} host .logs).correlated hv hrun⟩

end TelemetrySpool
