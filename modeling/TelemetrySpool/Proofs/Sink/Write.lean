import TelemetrySpool.Proofs.Spool.Base
import TelemetrySpool.Proofs.Spool.Naming
import TelemetrySpool.Sink.File

/-!
# What a write does

A write of a file sink can end in six ways, and this module says once what each of them leaves
behind: the files have been shut down, the write was cancelled, there is no directory for a first
file, the line could not be stored in the file that was settled on, the volume has broken off and
only the beginning of the line stands at the end of that file, or the whole line does. Everything
else about writes follows from this case distinction.
-/

namespace TelemetrySpool.FileSink

open Store

variable {sink : FileSink} {s s' : Store}

/-- The slot that a sink uses for a signal. -/
def key (sink : FileSink) (signal : Signal) : SlotKey := ⟨sink.directory, signal⟩

/-- The base path that a write settles on: the one that it finds first, or a new one if the file of
its stream has grown over the limit there. -/
inductive Settles (sink : FileSink) (signal : Signal) (s : Store) : Path → Store → Prop
  | found {base : Path} {s₁ : Store} : Finds (sink.key signal) s base s₁ →
      exceeds s₁.files (FileName.ofStream base sink.stream) sink.maxMb = false →
      Settles sink signal s base s₁
  | rotated {base : Path} {s₁ : Store} : Finds (sink.key signal) s base s₁ →
      exceeds s₁.files (FileName.ofStream base sink.stream) sink.maxMb = true →
      Settles sink signal s (rotated (sink.key signal) s₁) (afterRotation (sink.key signal) s₁)

/-- A sink settles on a base path, or its directory cannot be created. -/
theorem target_cases {signal : Signal} {outcome : Except SinkError Path}
    (h : (sink.target signal).Ends s outcome s') :
    (∃ base, outcome = .ok (FileName.ofStream base sink.stream) ∧ Settles sink signal s base s') ∨
      (s.rotation.active? (sink.key signal) = none ∧
        ∃ error, outcome = .error (.file sink.directory error) ∧
          s' = { s with files := (s.files.createDirectories sink.directory).1 }) := by
  rw [target, Task.ends_bind_iff] at h
  rcases h with ⟨base, s₁, hb, h⟩ | ⟨error, hb, rfl⟩
  · rcases activePath_cases hb with ⟨_, ho, hf⟩ | ⟨_, _, ho, _⟩
    · obtain rfl := Except.ok.inj ho
      rw [Task.ends_look_bind_iff] at h
      left
      split at h
      · next hx =>
        rw [Task.ends_bind_iff] at h
        simp only [ends_rotate_iff, Task.ends_pure_iff, Except.ok.injEq, reduceCtorEq, false_and,
          exists_false, or_false] at h
        obtain ⟨_, _, ⟨rfl, rfl⟩, rfl, rfl⟩ := h
        exact ⟨_, rfl, .rotated hf hx⟩
      · next hx =>
        obtain ⟨rfl, rfl⟩ := Task.ends_pure_iff.1 h
        exact ⟨base, rfl, .found hf (Bool.eq_false_iff.2 hx)⟩
    · cases ho
  · rcases activePath_cases hb with ⟨_, ho, _⟩ | ⟨ha, _, ho, hs⟩
    · cases ho
    · obtain rfl := Except.error.inj ho
      exact Or.inr ⟨ha, _, rfl, hs⟩

/-- Finding out the free space changes nothing, and it neither cancels nor shuts down. -/
theorem ensureSpace_cases {target : Path} {length : Nat} {outcome : Except SinkError Unit}
    (h : (sink.ensureSpace target length).Ends s outcome s') :
    s' = s ∧ (outcome = .ok () ∨
      ∃ error, outcome = .error error ∧ error ≠ .cancelled ∧ error ≠ .shutDown) := by
  rw [ensureSpace, Task.ends_look_bind_iff] at h
  split at h
  · obtain ⟨rfl, rfl⟩ := Task.ends_fail_iff.1 h
    exact ⟨rfl, Or.inr ⟨_, rfl, by simp, by simp⟩⟩
  · obtain ⟨rfl, rfl⟩ := Task.ends_fail_iff.1 h
    exact ⟨rfl, Or.inr ⟨_, rfl, by simp, by simp⟩⟩
  · obtain ⟨rfl, rfl⟩ := Task.ends_fail_iff.1 h
    exact ⟨rfl, Or.inr ⟨_, rfl, by simp, by simp⟩⟩
  · split at h
    · rw [Task.ends_report_bind_iff] at h
      obtain ⟨rfl, rfl⟩ := Task.ends_fail_iff.1 h
      exact ⟨rfl, Or.inr ⟨_, rfl, by simp, by simp⟩⟩
    · obtain ⟨rfl, rfl⟩ := Task.ends_pure_iff.1 h
      exact ⟨rfl, Or.inl rfl⟩

/-- How an append ends that finds these files. -/
inductive Appends (sink : FileSink) (path : Path) (bytes : Bytes) (files : FileTree) :
    Except SinkError Unit → FileTree → Prop
  /-- All octets stand at the end of the file. -/
  | whole {files' : FileTree} : sink.volume.breakOff? files path bytes = none →
      files.Grown files' path bytes → Appends sink path bytes files (.ok ()) files'
  /-- The volume has broken off, and has taken the beginning. -/
  | part {files' : FileTree} {count : Nat} {reason : String} :
      sink.volume.breakOff? files path bytes = some (count, reason) →
      files.Grown files' path (bytes.take count) →
      Appends sink path bytes files (.error (.device path reason)) files'
  /-- The file could not be opened. -/
  | none {files' : FileTree} {place : Path} {error : FileError} : files.SameFiles files' →
      Appends sink path bytes files (.error (.file place error)) files'

/-- An append opens its file and writes as much of the octets as the volume takes. -/
theorem appendOnce_cases {path : Path} {bytes : Bytes} {outcome : Except SinkError Unit}
    (h : (sink.appendOnce path bytes).Ends s outcome s') :
    s'.rotation = s.rotation ∧ s'.clock = s.clock ∧
      sink.Appends path bytes s.files outcome s'.files := by
  rw [appendOnce, Task.ends_look_bind_iff] at h
  cases hstep : s.files.append path (sink.volume.taken s.files path bytes) with
  | error error =>
    have hchange : (changeFiles path fun files =>
        files.append path (sink.volume.taken files path bytes)).Ends s
          (.error (.file path error)) s := by simp only [Task.Ends, changeFiles, hstep]
    obtain ⟨rfl, rfl⟩ := (Task.ends_bind_error hchange).1 h
    exact ⟨rfl, rfl, .none (.refl _)⟩
  | ok files =>
    have hchange : (changeFiles path fun files =>
        files.append path (sink.volume.taken files path bytes)).Ends s (.ok ())
          { s with files } := by simp only [Task.Ends, changeFiles, hstep]
    rw [Task.ends_bind_ok hchange] at h
    have hgrown := FileTree.grown_of_append hstep
    cases hbreak : sink.volume.breakOff? s.files path bytes with
    | none =>
      rw [hbreak] at h
      obtain ⟨rfl, rfl⟩ := Task.ends_pure_iff.1 h
      rw [Volume.taken, hbreak] at hgrown
      exact ⟨rfl, rfl, .whole hbreak hgrown⟩
    | some broken =>
      rw [hbreak] at h
      obtain ⟨rfl, rfl⟩ := Task.ends_fail_iff.1 h
      rw [Volume.taken, hbreak] at hgrown
      exact ⟨rfl, rfl, .part hbreak hgrown⟩

/-- An append may create the directories of its file first. -/
theorem append_cases {path : Path} {bytes : Bytes} {outcome : Except SinkError Unit}
    (h : (sink.append path bytes).Ends s outcome s') :
    s'.rotation = s.rotation ∧ s'.clock = s.clock ∧
      ∃ files, s.files.SameFiles files ∧ sink.Appends path bytes files outcome s'.files := by
  rw [append, Task.ends_look_bind_iff] at h
  have last : ∀ {s₁ : Store}, (sink.appendOnce path bytes).Ends s₁ outcome s' →
      s₁.rotation = s.rotation → s₁.clock = s.clock → s.files.SameFiles s₁.files →
      s'.rotation = s.rotation ∧ s'.clock = s.clock ∧
        ∃ files, s.files.SameFiles files ∧ sink.Appends path bytes files outcome s'.files := by
    intro s₁ ha hr hc hf
    obtain ⟨hr', hc', happends⟩ := appendOnce_cases ha
    exact ⟨hr'.trans hr, hc'.trans hc, _, hf, happends⟩
  split at h
  · split at h
    · next parent _ =>
      have hf := s.files.sameFiles_createDirectories parent
      rw [Task.ends_bind_iff] at h
      simp only [ends_createDirectories_iff] at h
      rcases h with ⟨_, _, ⟨_, rfl⟩, h⟩ | ⟨error, ⟨ho, rfl⟩, rfl⟩
      · exact last h rfl rfl hf
      · rcases hd : (s.files.createDirectories parent).2 with cause | _
        · rw [hd] at ho
          obtain rfl := Except.error.inj ho
          exact ⟨rfl, rfl, s.files, .refl _, .none hf⟩
        · rw [hd] at ho
          cases ho
    · exact last h rfl rfl (.refl _)
  · exact last h rfl rfl (.refl _)

/-- The ways in which a write ends. -/
inductive Writes (sink : FileSink) (record : Record) (cancelled : Bool) (s : Store) :
    Except SinkError Unit → Store → Prop
  | shutDown : s.rotation.closed = true → Writes sink record cancelled s (.error .shutDown) s
  | cancelled {s' : Store} : s.rotation.closed = false → cancelled = true → Opened s s' →
      Writes sink record cancelled s (.error .cancelled) s'
  | unnamed {s₁ : Store} {error : FileError} : s.rotation.closed = false → cancelled = false →
      Opened s s₁ → s₁.rotation.active? (sink.key record.signal) = none →
      Writes sink record cancelled s (.error (.file sink.directory error))
        { s₁ with files := (s₁.files.createDirectories sink.directory).1 }
  | unstored {s₁ s₂ s' : Store} {base : Path} {error : SinkError} :
      s.rotation.closed = false → cancelled = false → Opened s s₁ →
      Settles sink record.signal s₁ base s₂ →
      s'.rotation = s₂.rotation → s'.clock = s₂.clock → s₂.files.SameFiles s'.files →
      error ≠ .cancelled → error ≠ .shutDown → Writes sink record cancelled s (.error error) s'
  | broken {s₁ s₂ s' : Store} {base : Path} {files : FileTree} {count : Nat} {reason : String} :
      s.rotation.closed = false → cancelled = false → Opened s s₁ →
      Settles sink record.signal s₁ base s₂ →
      s'.rotation = s₂.rotation → s'.clock = s₂.clock → s₂.files.SameFiles files →
      sink.volume.breakOff? files (FileName.ofStream base sink.stream) (Bytes.ofText record.line) =
        some (count, reason) →
      files.Grown s'.files (FileName.ofStream base sink.stream)
        ((Bytes.ofText record.line).take count) →
      Writes sink record cancelled s
        (.error (.device (FileName.ofStream base sink.stream) reason)) s'
  | stored {s₁ s₂ s' : Store} {base : Path} {files : FileTree} :
      s.rotation.closed = false → cancelled = false → Opened s s₁ →
      Settles sink record.signal s₁ base s₂ →
      s'.rotation = s₂.rotation → s'.clock = s₂.clock → s₂.files.SameFiles files →
      files.Grown s'.files (FileName.ofStream base sink.stream) (Bytes.ofText record.line) →
      Writes sink record cancelled s (.ok ()) s'

/-- What a write does after its file has been settled on. -/
theorem writes_of_settled {record : Record} {s₁ s₂ : Store} {base : Path}
    {outcome : Except SinkError Unit} (hopen : s.rotation.closed = false) (hs₁ : Opened s s₁)
    (hset : Settles sink record.signal s₁ base s₂)
    (h : (do
      let line := Bytes.ofText record.line
      sink.ensureSpace (FileName.ofStream base sink.stream) line.length
      sink.append (FileName.ofStream base sink.stream) line
      Task.report .trace "Appended record"
        [("signal", .text record.signal.name),
          ("file", .text (FileName.ofStream base sink.stream)),
          ("bytes", .number line.length)]).Ends s₂ outcome s') :
    sink.Writes record false s outcome s' := by
  dsimp only at h
  rw [Task.ends_bind_iff] at h
  rcases h with ⟨_, s₃, hspace, h⟩ | ⟨error, hspace, rfl⟩
  · obtain ⟨rfl, -⟩ := ensureSpace_cases hspace
    rw [Task.ends_bind_iff] at h
    rcases h with ⟨_, s₄, ha, h⟩ | ⟨error, ha, rfl⟩
    · obtain ⟨rfl, rfl⟩ := Task.ends_report_iff.1 h
      obtain ⟨hr, hc, files, hf, happends⟩ := append_cases ha
      cases happends with
      | whole _ hg => exact .stored hopen rfl hs₁ hset hr hc hf hg
    · obtain ⟨hr, hc, files, hf, happends⟩ := append_cases ha
      cases happends with
      | part hb hg => exact .broken hopen rfl hs₁ hset hr hc hf hb hg
      | none hf' => exact .unstored hopen rfl hs₁ hset hr hc (hf.trans hf') (by simp) (by simp)
  · obtain ⟨rfl, ho | ⟨_, ho, hc, hd⟩⟩ := ensureSpace_cases hspace
    · cases ho
    · obtain rfl := Except.error.inj ho
      exact .unstored hopen rfl hs₁ hset rfl rfl (.refl _) hc hd

/-- A write ends in one of these ways. -/
theorem writes_of_ends {record : Record} {cancelled : Bool} {outcome : Except SinkError Unit}
    (h : (sink.write record cancelled).Ends s outcome s') :
    sink.Writes record cancelled s outcome s' := by
  rw [write, Task.ends_bind_iff] at h
  rcases h with ⟨_, s₁, he, h⟩ | ⟨error, he, rfl⟩
  · obtain ⟨_, ho, _⟩ | ⟨hopen, hs₁, ho⟩ := enter_cases record.signal_ne he
    · cases ho
    · cases cancelled with
      | true => cases ho
      | false =>
        rw [Task.ends_bind_iff] at h
        rcases h with ⟨_, s₂, ht, h⟩ | ⟨error, ht, rfl⟩
        · rcases target_cases ht with ⟨base, hb, hset⟩ | ⟨_, _, hb, _⟩
          · obtain rfl := Except.ok.inj hb
            exact writes_of_settled hopen hs₁ hset h
          · cases hb
        · rcases target_cases ht with ⟨_, hb, _⟩ | ⟨ha, _, hb, rfl⟩
          · cases hb
          · obtain rfl := Except.error.inj hb
            exact .unnamed hopen rfl hs₁ ha
  · obtain ⟨hclosed, ho, rfl⟩ | ⟨hopen, hs₁, ho⟩ := enter_cases record.signal_ne he
    · obtain rfl := Except.error.inj ho
      exact .shutDown hclosed
    · cases cancelled with
      | true =>
        obtain rfl := Except.error.inj ho
        exact .cancelled hopen rfl hs₁
      | false => cases ho

/-- Settling leaves the files. -/
theorem Settles.files {signal : Signal} {base : Path} (h : Settles sink signal s base s') :
    s.files.SameFiles s'.files := by
  cases h with
  | found hf _ => exact hf.files
  | rotated hf _ => exact hf.files

/-- What is settled on is active afterwards. -/
theorem Settles.active {signal : Signal} {base : Path} (h : Settles sink signal s base s') :
    s'.rotation.active? (sink.key signal) = some base := by
  cases h with
  | found hf _ => exact hf.active_eq
  | rotated hf _ =>
    rw [afterRotation, Rotation.active?_activate, if_pos rfl]

/-- It settles on paths named by instants. -/
theorem Settles.named {signal : Signal} {base : Path} (h : Settles sink signal s base s')
    (hn : s.rotation.Named) : s'.rotation.Named := by
  cases h with
  | found hf _ => exact hf.named hn
  | rotated hf _ =>
    exact (hf.named hn).activate (freshPath_eq_basePath _ _ _ _)

/-- It stays within the frame of its key. -/
theorem Settles.framed {signal : Signal} {base : Path} (h : Settles sink signal s base s') :
    Framed (sink.key signal) s s' := by
  cases h with
  | found hf _ => exact hf.framed
  | rotated hf _ => exact hf.framed.trans (framed_afterRotation _ _)

namespace Writes

variable {record : Record} {cancelled : Bool} {outcome : Except SinkError Unit}

/-- A write fails and changes no file, or it makes the file of the active base path longer by the
beginning of its line. That is the whole line exactly if the write succeeds. -/
theorem file?_cases (h : sink.Writes record cancelled s outcome s') :
    (outcome ≠ .ok () ∧ ∀ place, s'.files.file? place = s.files.file? place) ∨
      ∃ base part, s'.rotation.active? (sink.key record.signal) = some base ∧
        part <+: Bytes.ofText record.line ∧
        (outcome = .ok () ↔ part = Bytes.ofText record.line) ∧
        ∀ place, s'.files.file? place =
          if place = (FileName.ofStream base sink.stream).place then
            some ((s.files.file? place).getD [] ++ part)
          else s.files.file? place := by
  cases h with
  | shutDown _ => exact .inl ⟨by simp, fun _ => rfl⟩
  | cancelled _ _ hs => exact .inl ⟨by simp, fun place => by rw [hs.files]⟩
  | unnamed _ _ hs _ =>
    refine .inl ⟨by simp, fun place => ?_⟩
    rw [← hs.files]
    exact (FileTree.sameFiles_createDirectories _ _).file?_eq place
  | unstored _ _ hs hset _ _ hf _ _ =>
    exact .inl ⟨by simp, fun place => by rw [hf.file?_eq, hset.files.file?_eq, hs.files]⟩
  | @broken _ _ _ _ _ count _ _ _ hs hset hr _ hf hb hg =>
    refine .inr ⟨_, _, by rw [hr]; exact hset.active, List.take_prefix count _,
      iff_of_false (by simp) fun he => ?_, fun place => ?_⟩
    · have hshort := sink.volume.short _ _ _ _ _ hb
      have hlength := congrArg List.length he
      rw [List.length_take] at hlength
      omega
    · rw [hg.of_sameFiles hf, hset.files.file?_eq, hs.files]
  | stored _ _ hs hset hr _ hf hg =>
    refine .inr ⟨_, _, by rw [hr]; exact hset.active, List.prefix_refl _, iff_of_true rfl rfl,
      fun place => ?_⟩
    rw [hg.of_sameFiles hf, hset.files.file?_eq, hs.files]

/-- A write that changes a file has settled on the base path that is active afterwards. -/
theorem exists_settles (h : sink.Writes record cancelled s outcome s') {place : Place}
    (hp : s'.files.file? place ≠ s.files.file? place) :
    ∃ base s₁ s₂, Opened s s₁ ∧ sink.Settles record.signal s₁ base s₂ ∧
      s'.rotation.active? (sink.key record.signal) = some base := by
  cases h with
  | shutDown _ => exact absurd rfl hp
  | cancelled _ _ hs =>
    rw [hs.files] at hp
    exact absurd rfl hp
  | unnamed _ _ hs _ =>
    rw [(FileTree.sameFiles_createDirectories _ _).file?_eq place, hs.files] at hp
    exact absurd rfl hp
  | unstored _ _ hs hset _ _ hf _ _ =>
    rw [hf.file?_eq, hset.files.file?_eq, hs.files] at hp
    exact absurd rfl hp
  | broken _ _ hs hset hr _ _ _ _ => exact ⟨_, _, _, hs, hset, by rw [hr]; exact hset.active⟩
  | stored _ _ hs hset hr _ _ _ => exact ⟨_, _, _, hs, hset, by rw [hr]; exact hset.active⟩

/-- On a complete volume a write that fails changes no file. -/
theorem file?_of_error {error : SinkError} (hv : sink.volume.Complete)
    (h : sink.Writes record cancelled s (.error error) s') (place : Place) :
    s'.files.file? place = s.files.file? place := by
  cases h with
  | shutDown _ => rfl
  | cancelled _ _ hs => rw [hs.files]
  | unnamed _ _ hs _ =>
    rw [← hs.files]
    exact (FileTree.sameFiles_createDirectories _ _).file?_eq place
  | unstored _ _ hs hset _ _ hf _ _ =>
    rw [hf.file?_eq, hset.files.file?_eq, hs.files]
  | broken _ _ _ _ _ _ _ hb _ =>
    rw [hv] at hb
    cases hb

/-- A write that succeeds makes the file of the active base path longer by its line. -/
theorem file?_of_ok (h : sink.Writes record cancelled s (.ok ()) s') :
    ∃ base, s'.rotation.active? (sink.key record.signal) = some base ∧
      ∀ place, s'.files.file? place =
        if place = (FileName.ofStream base sink.stream).place then
          some ((s.files.file? place).getD [] ++ Bytes.ofText record.line)
        else s.files.file? place := by
  cases h with
  | stored _ _ hs hset hr _ hf hg =>
    refine ⟨_, by rw [hr]; exact hset.active, fun place => ?_⟩
    rw [hg.of_sameFiles hf, hset.files.file?_eq, hs.files]

/-- A write keeps every active path named by an instant. -/
theorem named (h : sink.Writes record cancelled s outcome s') (hn : s.rotation.Named) :
    s'.rotation.Named := by
  cases h with
  | shutDown _ => exact hn
  | cancelled _ _ hs => exact hn.of_agrees hs.rotation
  | unnamed _ _ hs _ => exact hn.of_agrees hs.rotation
  | unstored _ _ hs hset hr _ _ _ _ =>
    rw [hr]
    exact hset.named (hn.of_agrees hs.rotation)
  | broken _ _ hs hset hr _ _ _ _ =>
    rw [hr]
    exact hset.named (hn.of_agrees hs.rotation)
  | stored _ _ hs hset hr _ _ _ =>
    rw [hr]
    exact hset.named (hn.of_agrees hs.rotation)

/-- A write leaves alone what does not belong to its own signal. -/
theorem framed (h : sink.Writes record cancelled s outcome s') :
    Framed (sink.key record.signal) s s' := by
  have last : ∀ {s₁ s₂ : Store}, Framed (sink.key record.signal) s s₁ →
      s₂.rotation = s₁.rotation → s₂.clock = s₁.clock → s₁.files.Keeps s₂.files →
      Framed (sink.key record.signal) s s₂ := by
    intro s₁ s₂ hf hr hc hk
    refine hf.trans ⟨by rw [hc], Nat.le_of_eq (by rw [hc]), fun key' _ => ?_, hk⟩
    rw [hr]
  cases h with
  | shutDown _ => exact .refl _ _
  | cancelled _ _ hs => exact hs.framed _
  | unnamed _ _ hs _ =>
    exact last (hs.framed _) rfl rfl (FileTree.sameFiles_createDirectories _ _).toKeeps
  | unstored _ _ hs hset hr hc hf _ _ =>
    exact last ((hs.framed _).trans hset.framed) hr hc hf.toKeeps
  | broken _ _ hs hset hr hc hf _ hg =>
    exact last ((hs.framed _).trans hset.framed) hr hc (hf.toKeeps.trans hg.toKeeps)
  | stored _ _ hs hset hr hc hf hg =>
    exact last ((hs.framed _).trans hset.framed) hr hc (hf.toKeeps.trans hg.toKeeps)

/-- The file of an active base path is one of its signal and stream, in whichever way the directory
of the path is written. -/
theorem isFileOf_of_active {signal : Signal} {base : Path} (hn : s.rotation.Named)
    (ha : s.rotation.active? (sink.key signal) = some base) :
    FileName.isFileOf sink.directory signal sink.stream
      (FileName.ofStream base sink.stream).place := by
  obtain ⟨directory, time, hroute, rfl⟩ := hn _ _ ha
  have hplace : directory.place = sink.directory.place := Path.place_eq_of_route hroute
  rw [FileName.isFileOf, ← hplace]
  exact FileName.isFileOf_ofStream directory signal time sink.stream

/-- A write that succeeds makes one file of its signal and stream longer by its line. -/
theorem exists_place_of_ok (h : sink.Writes record cancelled s (.ok ()) s')
    (hn : s.rotation.Named) :
    ∃ path, FileName.isFileOf sink.directory record.signal sink.stream path ∧
      ∀ place, s'.files.file? place =
        if place = path then some ((s.files.file? place).getD [] ++ Bytes.ofText record.line)
        else s.files.file? place := by
  obtain ⟨base, hactive, hfiles⟩ := h.file?_of_ok
  exact ⟨_, isFileOf_of_active (h.named hn) hactive, hfiles⟩

/-- A write changes no file but one of its own signal and stream. -/
theorem file?_of_not_isFileOf (h : sink.Writes record cancelled s outcome s')
    (hn : s.rotation.Named) {place : Place}
    (hp : FileName.isFileOf sink.directory record.signal sink.stream place = false) :
    s'.files.file? place = s.files.file? place := by
  rcases h.file?_cases with ⟨-, hsame⟩ | ⟨base, part, hactive, -, -, hfiles⟩
  · exact hsame place
  · rw [hfiles, if_neg]
    rintro rfl
    rw [isFileOf_of_active (h.named hn) hactive] at hp
    cases hp

end Writes

end TelemetrySpool.FileSink
