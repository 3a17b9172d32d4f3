import TelemetrySpool.Proofs.Receiver.Library
import TelemetrySpool.Proofs.Spool.Room

/-!
# After the output directory has been removed

The output directory may be removed from outside, with everything in it. A request of a signal
without an active path creates the directory again for its new file, and is stored. One of a signal
with an active path creates nothing: the free space is asked for above the file before it is opened,
there is no directory to ask about, and the write fails. It fails again with every further request,
until the directory is there for another reason.
-/

namespace TelemetrySpool

open Store

/-- A token that nobody cancels any more. -/
def Token.Live (t : Token) : Prop := ∀ n, t.upcoming n = false

/-- A token that never fires has not fired later. -/
theorem Token.Live.skip {t : Token} (h : t.Live) (count : Nat) : (t.skip count).Live := by
  intro n
  rw [upcoming, Token.skip, Nat.add_assoc]
  exact h (count + n)

section Writes

variable {config : Config} {host : Host} {record : Record} {time : Instant} {s s₁ : Store}

/-- Nothing is stored under an active path if the directory that it names is missing. -/
theorem Config.exists_unstored {key : SlotKey} (hd : key.directory ≠ "") {stream : Stream}
    {length : Nat} (hv : (host.volume stream).Takes length) (hopen : s.rotation.closed = false)
    (hactive : s.rotation.active? (config.key record.signal) = some (key.basePath time))
    (hmissing : s.files.get? key.directory.place = none)
    (hfree : s.files.get? (key.file time stream).place = none) :
    ∃ s' error, ((config.fileSink host stream).write record false).Ends s (.error error) s' ∧
      error ≠ .cancelled ∧ Opened s s' := by
  obtain ⟨error, hstat⟩ := FileTree.exists_stat_trimmed_error hd hmissing
  have hdirectory := (config.fileSink host stream).directoryOf_file hd time stream
  have hspace := hv.lost _ _ _ hstat
  rw [← hdirectory] at hspace
  obtain ⟨s', hends, hopened⟩ := (config.fileSink host stream).ends_write_of_unreachable record
    hopen hactive (exceeds_eq_false hfree _) hspace
  exact ⟨s', _, hends, by simp, hopened⟩

/-- A write that ends somewhere is a trial that ends there. -/
theorem FileSink.trial_of_ends {sink : FileSink} {cancelled : Bool}
    {outcome : Except SinkError Unit} {s' : Store}
    (h : (sink.write record cancelled).Ends s outcome s') :
    sink.trial record cancelled s = ⟨sink, s, outcome, s'⟩ := by
  rw [trial, h]

variable {cancelled : Nat → Bool} (hlive : ∀ n, cancelled n = false)
include hlive

/-- Both files of an error are new, and so is the only file of another record. -/
theorem Config.trials_stored
    (hv : ∀ stream, (host.volume stream).Takes (Bytes.ofText record.line).length)
    (hopen : s.rotation.closed = false)
    (hfind : Finds (config.key record.signal) s ((config.key record.signal).basePath time) s₁)
    (hroom : ∀ stream, (config.key record.signal).Room s₁.files time stream)
    (hfits : (config.key record.signal).Fits time) :
    (∀ trial ∈ config.trials host record cancelled s, trial.ending = .stored) ∧
      (storeAfter s (config.trials host record cancelled s)).files =
        let filed (files : FileTree) (stream : Stream) : FileTree :=
          (config.key record.signal).filed files time stream (Bytes.ofText record.line)
        if record.isError then filed (filed s₁.files .all) .errors else filed s₁.files .all := by
  have hstored {stream : Stream} {s s₁ : Store} (hopen : s.rotation.closed = false)
      (hfind : Finds (config.key record.signal) s ((config.key record.signal).basePath time) s₁)
      (hroom : (config.key record.signal).Room s₁.files time stream) :
      ∃ s', ((config.fileSink host stream).write record false).Ends s (.ok ()) s' ∧
        Opened { s₁ with
          files := (config.key record.signal).filed s₁.files time stream
            (Bytes.ofText record.line) } s' :=
    FileSink.exists_filed (hv stream) hopen (.found hfind (exceeds_eq_false hroom.free _)) hroom
      hfits
  obtain ⟨s₂, hfirst, hopened⟩ := hstored hopen hfind (hroom .all)
  have hopen₂ : s₂.rotation.closed = false := by
    rw [hopened.rotation.closed]
    exact hfind.closed_eq.trans hopen
  have hactive : s₂.rotation.active? (config.key record.signal) =
      some ((config.key record.signal).basePath time) := by
    rw [hopened.rotation.active]
    exact hfind.active_eq
  have hroom₂ := (hroom .all).filed (Bytes.ofText record.line) (hroom .errors).free
    (.inr (by decide))
  have hfiles := hopened.files
  dsimp only at hfiles
  rw [← hfiles] at hroom₂
  obtain ⟨s₃, hsecond, hopened₃⟩ := hstored hopen₂ (.active hactive) hroom₂
  have hfiles₃ := hopened₃.files
  rw [trials, hlive, hlive, FileSink.trial_of_ends hfirst]
  dsimp only
  rw [FileSink.trial_of_ends hsecond]
  cases record.isError with
  | true => simp [storeAfter, Trial.ending, Ending.of, hfiles₃, hfiles]
  | false => simp [storeAfter, Trial.ending, Ending.of, hfiles]

/-- No write of a record is stored, and none changes what the next one meets. -/
theorem Config.trials_unstored {key : SlotKey} (hd : key.directory ≠ "") {length : Nat}
    (hv : ∀ stream, (host.volume stream).Takes length) (hopen : s.rotation.closed = false)
    (hactive : s.rotation.active? (config.key record.signal) = some (key.basePath time))
    (hmissing : s.files.get? key.directory.place = none)
    (hfree : ∀ stream, s.files.get? (key.file time stream).place = none) :
    (∀ trial ∈ config.trials host record cancelled s, trial.ending = .failed) ∧
      Opened s (storeAfter s (config.trials host record cancelled s)) := by
  obtain ⟨s₂, error₂, hfirst, hne₂, hopened⟩ :=
    Config.exists_unstored hd (hv .all) hopen hactive hmissing (hfree .all)
  rw [← hopened.rotation.closed] at hopen
  rw [← hopened.rotation.active] at hactive
  rw [← hopened.files] at hmissing hfree
  obtain ⟨s₃, error₃, hsecond, hne₃, hopened₃⟩ :=
    Config.exists_unstored hd (hv .errors) hopen hactive hmissing (hfree .errors)
  rw [trials, hlive, hlive, FileSink.trial_of_ends hfirst]
  dsimp only
  rw [FileSink.trial_of_ends hsecond]
  cases record.isError with
  | true => simpa [storeAfter, Trial.ending, Ending.of, hne₂, hne₃] using hopened.trans hopened₃
  | false => simpa [storeAfter, Trial.ending, Ending.of, hne₂] using hopened

end Writes

namespace Receiver

variable {config : Config} {host : Host} {r : Receiver}

/-- A receiver whose output directory has been removed from outside, with everything in it. -/
def bereft (r : Receiver) (config : Config) : Receiver :=
  r.withFiles (r.outlets.store.files.eraseAll config.outputDir.place)

/-- What a request comes to that is stored in new files of a directory created again. -/
structure Recovered (config : Config) (content : Request) (report : Report) (r r' : Receiver) :
    Prop where
  persisted : report.persisted = content.streams.length
  failed : report.failed = 0
  cancelled : report.cancelled = 0
  stands : r'.outlets.store.files.stat config.outputDir = .ok .directory
  stored : ∀ stream ∈ content.streams,
    r'.outlets.store.files.file? (config.outputDir.place ++
        [FileName.ofTime content.signal r.outlets.store.clock.now stream]) =
      some (Bytes.ofText (content.line r.pipeline.pretty))

/-- In a directory that is created again there is room for every file. -/
theorem room_recreated {files : FileTree} (hd : config.outputDir ≠ "")
    (hstraight : Path.Straight config.outputDir)
    (hcreate : ((files.eraseAll config.outputDir.place).createDirectories config.outputDir).2 =
      .ok ()) (signal : Signal) (time : Instant) (stream : Stream) :
    (config.key signal).Room
      ((files.eraseAll config.outputDir.place).createDirectories config.outputDir).1 time
      stream := by
  refine ⟨(FileTree.stands_of_createDirectories hcreate).resolve_left hd, ?_⟩
  rw [SlotKey.file, SlotKey.basePath, FileName.place_ofStream]
  exact FileTree.get?_recreated hstraight (FileName.isPlain_ofTime signal time stream)

/-- The report of a request whose writes all ended in the same way. -/
theorem submit_of_endings (hp : r.pipeline = (config.pipeline host).value) (content : Request)
    {ending : Ending} (h : ∀ trial ∈ r.trialsOf config host content, trial.ending = ending) :
    ∃ report r', (submit content r).value = (.ok report, r') ∧
      report.persisted = (if ending = .stored then content.streams.length else 0) ∧
      report.failed = (if ending = .failed then content.streams.length else 0) ∧
      report.cancelled = (if ending = .cancelled then content.streams.length else 0) ∧
      r'.pipeline = r.pipeline ∧ (r.token.Live → r'.token.Live) ∧
      r'.outlets.store = storeAfter r.outlets.store (r.trialsOf config host content) := by
  have ht := config.dispatch_tallied host (r.recordOf content) r.token.upcoming r.health r.outlets
  rw [← hp] at ht
  have hlength : (r.trialsOf config host content).length = content.streams.length := by
    have herror : (r.recordOf content).isError = content.isError := rfl
    rw [trialsOf, Config.trials, herror, Request.streams]
    split <;> rfl
  have hcount (other : Ending) :
      (r.trialsOf config host content).countP (·.ending = other) =
        if ending = other then content.streams.length else 0 := by
    rw [← hlength]
    split
    · next he =>
      rw [List.countP_eq_length]
      intro trial hm
      rw [h trial hm, he]
      exact decide_eq_true rfl
    · next he =>
      rw [List.countP_eq_zero]
      intro trial hm
      rw [h trial hm, decide_eq_true_eq]
      exact he
  exact ⟨_, _, submit_value r content, ht.persisted.trans (hcount _), ht.failed.trans (hcount _),
    ht.cancelled.trans (hcount _), rfl, fun hlive => hlive.skip _, ht.store⟩

/-- Nothing has been done to the store of a receiver since its output directory was removed, but
that slots have been opened. -/
structure Lost (config : Config) (r r' : Receiver) : Prop where
  pipeline : r'.pipeline = r.pipeline
  live : r'.token.Live
  store : Opened (r.bereft config).outlets.store r'.outlets.store

section Removed

variable (hk : r.Kempt config host) (hopen : r.outlets.store.rotation.closed = false)
include hk hopen

/-- A request of a signal without an active path is stored in a directory created again. -/
theorem exists_recovered (hlive : r.token.Live) (hstraight : Path.Straight config.outputDir)
    (hcreate : ((r.bereft config).outlets.store.files.createDirectories config.outputDir).2 =
      .ok ()) {content : Request}
    (hv : ∀ stream, (host.volume stream).Takes
      (Bytes.ofText (content.line r.pipeline.pretty)).length)
    (hfits : (config.key content.signal).Fits r.outlets.store.clock.now)
    (ha : r.outlets.store.rotation.active? (config.key content.signal) = none) :
    ∃ report r', (submit content (r.bereft config)).value = (.ok report, r') ∧
      Recovered config content report (r.bereft config) r' := by
  have hd := config.outputDir_ne hk.valid
  have hroom := room_recreated hd hstraight hcreate content.signal r.outlets.store.clock.now
  have hfind : Finds (config.key content.signal) (r.bereft config).outlets.store
      ((config.key content.signal).basePath r.outlets.store.clock.now) _ :=
    .new ha (Prod.ext rfl hcreate)
  obtain ⟨hendings, hfiles⟩ := @Config.trials_stored config host
    ((r.bereft config).recordOf content) _ (r.bereft config).outlets.store _
    (r.bereft config).token.upcoming hlive hv hopen hfind hroom hfits
  obtain ⟨report, r', hvalue, hpersisted, hfailed, hcancelled, -, -, hstore⟩ :=
    @submit_of_endings config host (r.bereft config) hk.pipeline content _ hendings
  have hisError : ((r.bereft config).recordOf content).isError = content.isError := rfl
  rw [← trialsOf, ← hstore, hisError] at hfiles
  dsimp only at hfiles
  refine ⟨report, r', hvalue, hpersisted, hfailed, hcancelled, ?_, fun stream hm => ?_⟩
  · rw [hfiles]
    have hall := hroom .all
    split
    · exact (hall.filed _ (hroom .errors).free (.inr (by decide))).stat_filed _
    · exact hall.stat_filed _
  · have hplace := FileName.place_ofStream config.outputDir content.signal
      r.outlets.store.clock.now stream
    have hself := (config.key content.signal).get?_filed_self
    rw [FileTree.file?_eq_some_iff, hfiles]
    refine (congrArg _ hplace.symm).trans ?_
    rw [Request.streams] at hm
    cases he : content.isError with
    | false =>
      rw [he] at hm
      rw [List.mem_singleton.1 hm]
      exact hself _ _ _ _
    | true =>
      cases stream with
      | all => exact (SlotKey.get?_filed_of_ne _ _ (.inr (by decide))).trans (hself _ _ _ _)
      | errors => exact hself _ _ _ _

variable (hremovable : FileTree.alwaysExists config.outputDir.place = false) {length : Nat}
  (hv : ∀ stream, (host.volume stream).Takes length)
include hremovable hv

/-- A request of a signal with an active path is turned away, and brings nothing back. The active
path may spell the output directory in another way. -/
theorem Lost.submit {r' : Receiver} (h : Lost config r r') {content : Request}
    (ha : r.outlets.store.rotation.active? (config.key content.signal) ≠ none) :
    ∃ report r'', (submit content r').value = (.ok report, r'') ∧ TurnedAway content report ∧
      Lost config r r'' := by
  obtain ⟨base, hbase⟩ := Option.ne_none_iff_exists'.1 ha
  obtain ⟨directory, time, hroute, rfl⟩ := hk.named _ _ hbase
  let key : SlotKey := ⟨directory, content.signal⟩
  have hplace : key.directory.place = config.outputDir.place := Path.place_eq_of_route hroute
  have hd : key.directory ≠ "" := by
    intro he
    rw [← hplace, he] at hremovable
    cases hremovable
  have hfiles : r'.outlets.store.files =
      r.outlets.store.files.eraseAll config.outputDir.place := h.store.files
  have hmissing : r'.outlets.store.files.get? key.directory.place = none := by
    rw [hplace, hfiles, FileTree.get?_eraseAll _ hremovable, if_pos (List.prefix_refl _)]
  have hfree (stream : Stream) :
      r'.outlets.store.files.get? (key.file time stream).place = none := by
    have hplain := FileName.isPlain_ofTime key.signal time stream
    rw [SlotKey.file, SlotKey.basePath, FileName.place_ofStream, hplace, hfiles,
      FileTree.get?_eraseAll _ (FileTree.alwaysExists_concat_of_isPlain _ hplain),
      if_pos (List.prefix_append _ _)]
  have hactive : r'.outlets.store.rotation.active? (config.key content.signal) =
      some (key.basePath time) := (h.store.rotation.active _).trans hbase
  obtain ⟨hendings, hopened⟩ := @Config.trials_unstored config host (r'.recordOf content) time
    r'.outlets.store r'.token.upcoming h.live key hd length hv
    (h.store.rotation.closed.trans hopen) hactive hmissing hfree
  obtain ⟨report, r'', hvalue, hpersisted, hfailed, hcancelled, hp, hlive, hstore⟩ :=
    submit_of_endings (h.pipeline.trans hk.pipeline) content hendings
  refine ⟨report, r'', hvalue, ⟨hpersisted, hcancelled, hfailed⟩, hp.trans h.pipeline,
    hlive h.live, ?_⟩
  rw [hstore]
  exact h.store.trans hopened

/-- However many requests are turned away, the directory stays lost. -/
theorem Lost.after {r' : Receiver} (h : Lost config r r') {contents : List Request}
    (ha : ∀ content ∈ contents,
      r.outlets.store.rotation.active? (config.key content.signal) ≠ none) :
    Lost config r (r'.after (contents.map .submit)) := by
  induction contents generalizing r' with
  | nil => exact h
  | cons content contents ih =>
    obtain ⟨report, r'', hvalue, -, hl⟩ :=
      h.submit hk hopen hremovable hv (ha content List.mem_cons_self)
    have hmeet : (meet (.submit content) r').value.2 = r'' := by rw [meet, map_value, hvalue]
    rw [Receiver.after, List.map_cons, List.foldl_cons, hmeet]
    exact ih hl fun other hm => ha other (List.mem_cons_of_mem _ hm)

end Removed

/-- What follows the removal of the output directory. The next request is stored exactly if its
signal has no active path, and then the directory is there again. If there is an active path, the
request is turned away, as are all requests of such signals before and after it. -/
structure Recovery (config : Config) (r : Receiver) (content : Request) : Prop where
  next : ∃ report r', (submit content (r.bereft config)).value = (.ok report, r') ∧
    (0 < report.persisted ∧ report.failed = 0 ↔
      r.outlets.store.rotation.active? (config.key content.signal) = none) ∧
    (r.outlets.store.rotation.active? (config.key content.signal) = none →
      Recovered config content report (r.bereft config) r')
  lost : ∀ earlier : List Request,
    (∀ other ∈ content :: earlier,
      r.outlets.store.rotation.active? (config.key other.signal) ≠ none) →
    ∃ report r', (submit content ((r.bereft config).after (earlier.map .submit))).value =
        (.ok report, r') ∧
      TurnedAway content report ∧
      r'.outlets.store.files = (r.bereft config).outlets.store.files

/-- In every state of a library that is not shut down, and for every request, the removal of the
output directory has these consequences, provided that the directory can be created again and that
the volumes have room for the line of the request. -/
theorem Reachable.recovery (h : Reachable config host r)
    (hopen : r.outlets.store.rotation.closed = false) (hlive : r.token.Live)
    (hremovable : FileTree.alwaysExists config.outputDir.place = false)
    (hstraight : Path.Straight config.outputDir)
    (hcreate : ((r.bereft config).outlets.store.files.createDirectories config.outputDir).2 =
      .ok ()) {content : Request}
    (hv : ∀ stream, (host.volume stream).Takes
      (Bytes.ofText (content.line r.pipeline.pretty)).length)
    (hfits : (config.key content.signal).Fits r.outlets.store.clock.now) :
    Recovery config r content := by
  have hk := h.kempt
  have hlost : Lost config r (r.bereft config) := ⟨rfl, hlive, .refl _⟩
  have hstreams : 0 < content.streams.length := by
    rw [Request.streams]
    split <;> decide
  constructor
  · by_cases ha : r.outlets.store.rotation.active? (config.key content.signal) = none
    · obtain ⟨report, r', hvalue, hrecovered⟩ :=
        exists_recovered hk hopen hlive hstraight hcreate hv hfits ha
      refine ⟨report, r', hvalue, ?_, fun _ => hrecovered⟩
      rw [hrecovered.persisted, hrecovered.failed]
      simp [hstreams, ha]
    · obtain ⟨report, r', hvalue, haway, -⟩ := hlost.submit hk hopen hremovable hv ha
      refine ⟨report, r', hvalue, ?_, fun hn => absurd hn ha⟩
      rw [haway.persisted]
      simp [ha]
  · intro earlier hactive
    have hlater := hlost.after hk hopen hremovable hv
      fun other hm => hactive other (List.mem_cons_of_mem _ hm)
    obtain ⟨report, r', hvalue, haway, hl⟩ :=
      hlater.submit hk hopen hremovable hv (hactive content List.mem_cons_self)
    exact ⟨report, r', hvalue, haway, hl.store.files⟩

/-- A host with room for every line. -/
def ample : Host := .roomy (UInt64.size - 1)

/-- The volume has room for every line. -/
theorem takes_ample (stream : Stream) (length : Nat) : (ample.volume stream).Takes length :=
  Volume.takes_ofFree (Nat.min_le_right _ _)

/-- The receiver that the default configuration sets up where no file is. -/
def started : Receiver where
  pipeline := (Config.pipeline {} ample).value
  clock := .still .epoch
  outlets := { store := {
    files := (FileTree.createDirectories {} "./telemetry").1
    clock := .still .epoch } }

/-- A library that has stored logs, and so has an active path for them. -/
def logging : Receiver := (meet (.submit (.logs {})) started).value.2

/-- It is reached by one request for logs. -/
theorem reachable_logging : Reachable {} ample logging :=
  .meet _ (@Reachable.setUp {} ample {} (.still .epoch) _ _ _ _ rfl)

/-- Traces are stored after the removal, and logs are turned away. -/
theorem recovery_logging : Recovery {} logging (.traces {}) ∧ Recovery {} logging (.logs {}) := by
  have hstraight : Path.Straight ({} : Config).outputDir :=
    Path.straight_of_notMem (by decide +kernel)
  have hopen : logging.outlets.store.rotation.closed = false := by decide +kernel
  have hlive : logging.token.Live := fun _ => rfl
  have hremovable : FileTree.alwaysExists ({} : Config).outputDir.place = false := by
    decide +kernel
  have hcreate : ((logging.bereft {}).outlets.store.files.createDirectories
      ({} : Config).outputDir).2 = .ok () := rfl
  have hfits (signal : Signal) : (Config.key {} signal).Fits logging.outlets.store.clock.now := by
    intro stream
    cases signal <;> cases stream <;> decide +kernel
  have hv (content : Request) (stream : Stream) : (ample.volume stream).Takes
      (Bytes.ofText (content.line logging.pipeline.pretty)).length := takes_ample stream _
  exact ⟨reachable_logging.recovery hopen hlive hremovable hstraight hcreate (hv _) (hfits _),
    reachable_logging.recovery hopen hlive hremovable hstraight hcreate (hv _) (hfits _)⟩

/-- Not every request is stored after the removal of a directory that can be created again, on
volumes with room for it: logs are not, once they have an active path. -/
theorem not_forall_recovered :
    ¬ ∀ (config : Config) (host : Host) (r : Receiver) (content : Request),
      Reachable config host r → r.outlets.store.rotation.closed = false → r.token.Live →
      FileTree.alwaysExists config.outputDir.place = false →
      ((r.bereft config).outlets.store.files.createDirectories config.outputDir).2 = .ok () →
      (∀ stream, (host.volume stream).Takes
        (Bytes.ofText (content.line r.pipeline.pretty)).length) →
      ∃ report r', (submit content (r.bereft config)).value = (.ok report, r') ∧
        0 < report.persisted ∧ report.failed = 0 := by
  intro h
  obtain ⟨report, r', hvalue, hpersisted, -⟩ := h {} ample logging (.logs {}) reachable_logging
    (by decide +kernel) (fun _ => rfl) (by decide +kernel) rfl fun stream => takes_ample stream _
  have hnone : (submit (.logs {}) (logging.bereft {})).value.1.toOption.map (·.persisted) =
      some 0 := by decide +kernel
  rw [hvalue] at hnone
  have hzero : report.persisted = 0 := Option.some.inj hnone
  exact absurd hzero (Nat.pos_iff_ne_zero.1 hpersisted)

end Receiver

end TelemetrySpool
