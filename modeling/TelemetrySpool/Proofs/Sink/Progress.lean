import TelemetrySpool.Proofs.Sink.Write

/-!
# Writes that come to an end in a known way

The cases of a write tell what it left behind once it is known how it ended. Here it is told from
the store alone how a write will end, in two situations: every step of it finds what it needs, or
the free space cannot be asked about because there is no directory.
-/

namespace TelemetrySpool

namespace Store

variable {s s' : Store} {key : SlotKey}

/-- A store that is open is entered. -/
theorem exists_ends_enter (hs : key.signal ≠ .unspecified) (hopen : s.rotation.closed = false) :
    ∃ s', (enter key false).Ends s (.ok ()) s' ∧ Opened s s' := by
  have hends := Task.ends_self (enter key false) s
  rcases enter_cases hs hends with ⟨hclosed, -, -⟩ | ⟨-, hopened, ho⟩
  · rw [hopen] at hclosed
    cases hclosed
  · rw [ho] at hends
    exact ⟨_, hends, hopened⟩

/-- A path that is active, or can be named, is found. -/
theorem Finds.ends {base : Path} (h : Finds key s base s') :
    (activePath key).Ends s (.ok base) s' := by
  cases h with
  | active ha =>
    rw [activePath, Task.ends_look_bind_iff, ha]
    exact Task.ends_pure_iff.2 ⟨rfl, rfl⟩
  | new ha hd =>
    rw [activePath, Task.ends_look_bind_iff, ha]
    refine Task.ends_bind_ok_iff.2 ⟨(), _, ends_createDirectories_iff.2 ⟨?_, rfl⟩, ?_⟩
    · rw [hd]
      rfl
    · rw [hd]
      exact Task.ends_pure_iff.2 ⟨rfl, rfl⟩

/-- Finding a path closes nothing. -/
theorem Finds.closed_eq {base : Path} (h : Finds key s base s') :
    s'.rotation.closed = s.rotation.closed := by
  cases h <;> rfl

/-- Slots may be opened several times. -/
protected theorem Opened.trans {a b c : Store} (hab : Opened a b) (hbc : Opened b c) :
    Opened a c :=
  ⟨hbc.files.trans hab.files, hbc.clock.trans hab.clock,
    fun key => (hbc.rotation.active key).trans (hab.rotation.active key),
    hbc.rotation.closed.trans hab.rotation.closed⟩

/-- What is found does not depend on which slots are open. -/
theorem Finds.of_opened {s₁ : Store} {base : Path} (h : Finds key s base s')
    (ho : Opened s s₁) : ∃ s₁', Finds key s₁ base s₁' ∧ Opened s' s₁' := by
  cases h with
  | active ha => exact ⟨s₁, .active (by rw [ho.rotation.active]; exact ha), ho⟩
  | new ha hd =>
    rw [← ho.files] at hd
    rw [← ho.clock]
    refine ⟨_, .new (by rw [ho.rotation.active]; exact ha) hd, rfl, rfl, fun key' => ?_, ?_⟩
    · rw [Rotation.active?_activate, Rotation.active?_activate, ho.rotation.active]
    · exact ho.rotation.closed

/-- What replaces an active path does not depend on which slots are open. -/
theorem Opened.rotated_eq (h : Opened s s') : rotated key s' = rotated key s := by
  rw [rotated, rotated, h.rotation.active, h.clock]

/-- Slots opened before a rotation are open after it. -/
theorem Opened.afterRotation (h : Opened s s') :
    Opened (afterRotation key s) (afterRotation key s') := by
  refine ⟨h.files, congrArg Clock.tick h.clock, fun key' => ?_, h.rotation.closed⟩
  rw [Store.afterRotation, Store.afterRotation, h.rotated_eq, Rotation.active?_activate,
    Rotation.active?_activate, h.rotation.active]

/-- A path at whose place nothing stands is not too large. -/
theorem exceeds_eq_false {files : FileTree} {path : Path} (h : files.get? path.place = none)
    (maxMb : UInt64) : exceeds files path maxMb = false := by
  rw [exceeds, FileTree.size?_eq_none h]
  rfl

end Store

namespace FileSink

open Store

variable {sink : FileSink} {s s' : Store}

/-- The file of the base path that is settled on is the one that is written. -/
theorem Settles.ends {signal : Signal} {base : Path} (h : sink.Settles signal s base s') :
    (sink.target signal).Ends s (.ok (FileName.ofStream base sink.stream)) s' := by
  cases h with
  | found hfind hsmall =>
    refine Task.ends_bind_ok_iff.2 ⟨_, _, hfind.ends, ?_⟩
    rw [Task.ends_look_bind_iff, hsmall]
    exact Task.ends_pure_iff.2 ⟨rfl, rfl⟩
  | rotated hfind hlarge =>
    refine Task.ends_bind_ok_iff.2 ⟨_, _, hfind.ends, ?_⟩
    rw [Task.ends_look_bind_iff, hlarge]
    exact Task.ends_bind_ok_iff.2
      ⟨_, _, ends_rotate_iff.2 ⟨rfl, rfl⟩, Task.ends_pure_iff.2 ⟨rfl, rfl⟩⟩

/-- What is settled on does not depend on which slots are open. -/
theorem Settles.of_opened {signal : Signal} {base : Path} {s₁ : Store}
    (h : sink.Settles signal s base s') (ho : Opened s s₁) :
    ∃ s₁', sink.Settles signal s₁ base s₁' ∧ Opened s' s₁' := by
  cases h with
  | found hfind hsmall =>
    obtain ⟨s₂, hfind₂, ho₂⟩ := hfind.of_opened ho
    rw [← ho₂.files] at hsmall
    exact ⟨s₂, .found hfind₂ hsmall, ho₂⟩
  | rotated hfind hlarge =>
    obtain ⟨s₂, hfind₂, ho₂⟩ := hfind.of_opened ho
    rw [← ho₂.files] at hlarge
    rw [← ho₂.rotated_eq]
    exact ⟨_, .rotated hfind₂ hlarge, ho₂.afterRotation⟩

/-- A volume with enough octets free lets a line pass. -/
theorem ends_ensureSpace_of_available {target : Path} {length bytes : Nat}
    (h : sink.volume.space s.files (sink.directoryOf target) = .available bytes)
    (hb : required length ≤ bytes) : (sink.ensureSpace target length).Ends s (.ok ()) s := by
  rw [ensureSpace, Task.ends_look_bind_iff, h]
  dsimp only
  rw [if_neg (Nat.not_lt.2 hb)]
  exact Task.ends_pure_iff.2 ⟨rfl, rfl⟩

/-- A volume that cannot be asked is told as an error. -/
theorem ends_ensureSpace_of_unreachable {target : Path} {length : Nat} {error : FileError}
    (h : sink.volume.space s.files (sink.directoryOf target) = .unreachable error) :
    (sink.ensureSpace target length).Ends s (.error (.file (sink.directoryOf target) error)) s := by
  rw [ensureSpace, Task.ends_look_bind_iff, h]
  exact Task.ends_fail_iff.2 ⟨rfl, rfl⟩

/-- A volume that takes every octet appends what the files append. -/
theorem ends_append_of_ok {path : Path} {bytes : Bytes} {files : FileTree}
    (hv : sink.volume.Complete) (h : s.files.append path bytes = .ok files) :
    (sink.append path bytes).Ends s (.ok ()) { s with files } := by
  have hchange : (changeFiles path fun files =>
      files.append path (sink.volume.taken files path bytes)).Ends s (.ok ())
        { s with files } := by simp only [Task.Ends, changeFiles, hv.taken_eq, h]
  rw [append, Task.ends_look_bind_iff, h]
  dsimp only
  rw [appendOnce, Task.ends_look_bind_iff, Task.ends_bind_ok hchange, hv]
  exact Task.ends_pure_iff.2 ⟨rfl, rfl⟩

variable (sink) (record : Record) {base : Path} {s₁ : Store}

/-- Before the shutdown a lease is granted to a sink whose token has not fired. -/
theorem exists_ends_enter_key (hopen : s.rotation.closed = false) :
    ∃ s', (enter (sink.key record.signal) false).Ends s (.ok ()) s' ∧ Opened s s' :=
  exists_ends_enter record.signal_ne hopen

/-- A write stores its line if it settles on a base path, the space is free, and nothing stands in
the way of its file. -/
theorem ends_write_of_settles (hv : sink.volume.Complete) (hopen : s.rotation.closed = false)
    (hset : sink.Settles record.signal s base s₁)
    {bytes : Nat} (hspace : sink.volume.space s₁.files
      (sink.directoryOf (FileName.ofStream base sink.stream)) = .available bytes)
    (hbytes : required (Bytes.ofText record.line).length ≤ bytes) {files : FileTree}
    (happend : s₁.files.append (FileName.ofStream base sink.stream) (Bytes.ofText record.line) =
      .ok files) :
    ∃ s', (sink.write record false).Ends s (.ok ()) s' ∧ Opened { s₁ with files } s' := by
  obtain ⟨sₑ, henter, hopened⟩ := sink.exists_ends_enter_key record hopen
  obtain ⟨s₂, hset₂, hopened₂⟩ := hset.of_opened hopened
  rw [← hopened₂.files] at hspace happend
  refine ⟨{ s₂ with files }, ?_, rfl, hopened₂.clock, hopened₂.rotation⟩
  refine Task.ends_bind_ok_iff.2 ⟨(), sₑ, henter, ?_⟩
  refine Task.ends_bind_ok_iff.2 ⟨_, s₂, hset₂.ends, ?_⟩
  refine Task.ends_bind_ok_iff.2 ⟨(), s₂, ends_ensureSpace_of_available hspace hbytes, ?_⟩
  refine Task.ends_bind_ok_iff.2 ⟨(), _, ends_append_of_ok hv happend, ?_⟩
  exact Task.ends_report_iff.2 ⟨rfl, rfl⟩

/-- A write fails if its path is active and the free space cannot be asked about. -/
theorem ends_write_of_unreachable (hopen : s.rotation.closed = false)
    (hactive : s.rotation.active? (sink.key record.signal) = some base)
    (hsmall : exceeds s.files (FileName.ofStream base sink.stream) sink.maxMb = false)
    {error : FileError} (hspace : sink.volume.space s.files
      (sink.directoryOf (FileName.ofStream base sink.stream)) = .unreachable error) :
    ∃ s', (sink.write record false).Ends s
      (.error (.file (sink.directoryOf (FileName.ofStream base sink.stream)) error)) s' ∧
        Opened s s' := by
  obtain ⟨sₑ, henter, hopened⟩ := sink.exists_ends_enter_key record hopen
  rw [← hopened.rotation.active] at hactive
  rw [← hopened.files] at hsmall hspace
  refine ⟨sₑ, ?_, hopened⟩
  refine Task.ends_bind_iff.2 (.inl ⟨(), sₑ, henter, ?_⟩)
  refine Task.ends_bind_iff.2 (.inl ⟨_, sₑ, Settles.ends (.found (.active hactive) hsmall), ?_⟩)
  exact Task.ends_bind_iff.2 (.inr ⟨_, ends_ensureSpace_of_unreachable hspace, rfl⟩)

end FileSink

end TelemetrySpool
