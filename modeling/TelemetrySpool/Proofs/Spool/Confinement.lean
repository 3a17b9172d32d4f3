import TelemetrySpool.Proofs.Sink.Write
import TelemetrySpool.Proofs.Spool.Clearing

/-!
# Which base paths are in use

A base path of a slot is in use if it is active or has a file. As long as only the slot itself names
paths, those in use are named by readings that the clock has given before. This is kept by whatever
is done to the slot, whether it succeeds, fails or breaks off, so if the clock goes on, a base path
that is newly named has no file yet.
-/

namespace TelemetrySpool

/-- A clock that goes on by at least a millisecond with every reading. -/
def Clock.Increasing (c : Clock) : Prop :=
  ∀ i, (c.reading i).millis < (c.reading (i + 1)).millis

/-- Of two readings the later one is greater. -/
theorem Clock.Increasing.lt {c : Clock} (h : c.Increasing) {i j : Nat} (hij : i < j) :
    (c.reading i).millis < (c.reading j).millis := by
  induction j with
  | zero => omega
  | succ j ih =>
    have hj := h j
    by_cases hi : i = j
    · rw [hi]
      exact hj
    · have := ih (by omega)
      omega

/-- What works under a key does not change the clock. -/
theorem Clock.Increasing.of_framed {s s' : Store} {key : SlotKey} (h : s.clock.Increasing)
    (hf : Store.Framed key s s') : s'.clock.Increasing := by
  rw [Clock.Increasing, hf.reading]
  exact h

/-- A clock that goes on by a millisecond with every reading, from the start of 1970. -/
def Clock.everyMilli : Clock := ⟨fun i => .ofNanos (i * 1000000), 0⟩

/-- A clock that ticks once a millisecond never repeats a name. -/
theorem Clock.increasing_everyMilli : everyMilli.Increasing := by
  intro i
  simp only [everyMilli, Instant.millis, Instant.ofNanos]
  omega

namespace SlotKey

/-- The base path of a key for an instant. -/
def basePath (key : SlotKey) (time : Instant) : Path :=
  FileName.basePath key.directory key.signal time

/-- The file of a stream that belongs to it. -/
def file (key : SlotKey) (time : Instant) (stream : Stream) : Path :=
  FileName.ofStream (key.basePath time) stream

/-- A base path that an earlier reading has named. -/
def Past (key : SlotKey) (c : Clock) (base : Path) : Prop :=
  ∃ i, i < c.next ∧ base = key.basePath (c.reading i)

/-- What is past stays so. -/
theorem Past.mono {key : SlotKey} {c c' : Clock} {base : Path} (h : key.Past c base)
    (hr : c'.reading = c.reading) (hn : c.next ≤ c'.next) : key.Past c' base := by
  obtain ⟨i, hi, hb⟩ := h
  exact ⟨i, by omega, by rw [hr]; exact hb⟩

/-- The next reading names none of them. -/
theorem Past.ne {key : SlotKey} {c : Clock} (hc : c.Increasing) {base : Path}
    (h : key.Past c base) : base ≠ key.basePath c.now := by
  rintro rfl
  obtain ⟨i, hi, hb⟩ := h
  have heq := FileName.millis_eq_of_basePath hb
  have hlt := hc.lt hi
  rw [Clock.now] at heq
  omega

/-- A reading that has been taken names a base path that is past. -/
theorem past_now {key : SlotKey} (c : Clock) : key.Past c.tick (key.basePath c.now) :=
  ⟨c.next, Nat.lt_succ_self _, rfl⟩

/-- Keys with the same directory are the same key, or lead to different slots. -/
theorem eq_or_id_ne {key key' : SlotKey} (hd : key'.directory = key.directory) :
    key = key' ∨ key.id ≠ key'.id := by
  obtain ⟨directory, signal⟩ := key
  obtain ⟨directory', signal'⟩ := key'
  obtain rfl : directory' = directory := hd
  by_cases hs : signal = signal'
  · exact .inl (by rw [hs])
  · exact .inr fun he => hs (SlotId.mk.inj he).2

end SlotKey

namespace Store

/-- Every base path of a key that is active, and every one that has a file, is past. -/
structure Confined (key : SlotKey) (s : Store) : Prop where
  proper : s.files.Proper
  named : s.rotation.Named
  active : ∀ base, s.rotation.active? key = some base → key.Past s.clock base
  occupied : ∀ time stream, (s.files.file? (key.file time stream).place).isSome →
    key.Past s.clock (key.basePath time)
  reaches : ∀ time stream, Reaches s.files (key.file time stream)

namespace Confined

variable {key key' : SlotKey} {s s' : Store}

/-- Work that brings no file of the key about, and activates no path but one that a reading has
named, keeps to what is past. -/
theorem of_framed (h : Confined key s) (hf : Framed key' s s') (hn : s'.rotation.Named)
    (ha : ∀ base, s'.rotation.active? key = some base → key.Past s'.clock base)
    (hfile : ∀ time stream, (s'.files.file? (key.file time stream).place).isSome →
      (s.files.file? (key.file time stream).place).isSome) : Confined key s' where
  proper := hf.files.proper h.proper
  named := hn
  active := ha
  occupied time stream hsome :=
    (h.occupied time stream (hfile time stream hsome)).mono hf.reading hf.next
  reaches time stream content hc := by
    have hsome := hfile time stream (by rw [hc]; rfl)
    obtain ⟨before, hbefore⟩ := Option.isSome_iff_exists.1 hsome
    exact FileTree.resolve_mono hf.files.directory (h.reaches time stream before hbefore)

/-- Work that changes neither files nor the active path of the key. -/
theorem of_sameFiles (h : Confined key s) (hf : Framed key' s s') (hn : s'.rotation.Named)
    (ha : s'.rotation.active? key = s.rotation.active? key)
    (hfiles : s.files.SameFiles s'.files) : Confined key s' := by
  refine h.of_framed hf hn (fun base hb => ?_) fun time stream hsome => ?_
  · rw [ha] at hb
    exact (h.active base hb).mono hf.reading hf.next
  · rwa [hfiles.file?_eq] at hsome

/-- Opening a slot changes nothing that is told. -/
theorem of_opened (h : Confined key s) (ho : Opened s s') : Confined key s' := by
  refine h.of_sameFiles (ho.framed key) (h.named.of_agrees ho.rotation) (ho.rotation.active key) ?_
  rw [ho.files]
  exact .refl _

/-- Directories may be created. -/
theorem of_createDirectories (h : Confined key s) (path : Path) :
    Confined key { s with files := (s.files.createDirectories path).1 } := by
  have hfiles := s.files.sameFiles_createDirectories path
  have hframed : Framed key s { s with files := (s.files.createDirectories path).1 } :=
    ⟨rfl, Nat.le_refl _, fun _ _ => rfl, hfiles.toKeeps⟩
  exact h.of_sameFiles hframed h.named rfl hfiles

/-- A base path that is found is one that a reading has named. -/
theorem of_finds (h : Confined key s) {base : Path} (hf : Finds key s base s') :
    Confined key s' ∧ key.Past s'.clock base := by
  have hpast : key.Past s'.clock base := by
    cases hf with
    | active ha => exact h.active base ha
    | new _ _ => exact SlotKey.past_now s.clock
  refine ⟨h.of_framed hf.framed (hf.named h.named) (fun base' hb => ?_) fun time stream hsome => ?_,
    hpast⟩
  · rw [hf.active_eq] at hb
    obtain rfl := Option.some.inj hb
    exact hpast
  · rwa [hf.files.file?_eq] at hsome

/-- While the clock goes on, an active path is replaced by what the next reading names. -/
theorem rotated_eq (h : Confined key s) (hc : s.clock.Increasing) :
    rotated key s = key.basePath s.clock.now := by
  refine freshPath_of_ne _ fun hroute => ?_
  obtain ⟨base, ha, hbase⟩ := Option.map_eq_some_iff.1 hroute
  refine (h.active base ha).ne hc ?_
  obtain ⟨i, -, rfl⟩ := h.active base ha
  exact FileName.basePath_eq_of_route hbase

/-- A rotation confines the files to names that have been read. -/
theorem of_afterRotation (h : Confined key s) (hc : s.clock.Increasing) :
    Confined key (afterRotation key s) := by
  refine h.of_framed (framed_afterRotation key s)
    (h.named.activate (freshPath_eq_basePath _ _ _ _)) (fun base hb => ?_) fun _ _ => id
  rw [afterRotation, Rotation.active?_activate, if_pos rfl, h.rotated_eq hc] at hb
  obtain rfl := Option.some.inj hb
  exact SlotKey.past_now s.clock

/-- A base path that has just been named has no file. -/
theorem file?_rotated (h : Confined key s) (hc : s.clock.Increasing) (stream : Stream) :
    s.files.file? (FileName.ofStream (rotated key s) stream).place = none := by
  rw [h.rotated_eq hc, Option.eq_none_iff_forall_ne_some]
  intro content hcontent
  have hsome : (s.files.file? (key.file s.clock.now stream).place).isSome :=
    Option.isSome_iff_exists.2 ⟨content, hcontent⟩
  exact (h.occupied s.clock.now stream hsome).ne hc rfl

/-- What a file that is not over the limit holds is not. -/
theorem length_le_of_not_exceeds (h : Confined key s) {maxMb : UInt64} {time : Instant}
    {stream : Stream} (hx : exceeds s.files (key.file time stream) maxMb = false) :
    ((s.files.file? (key.file time stream).place).getD []).length ≤ sizeLimit maxMb := by
  cases hfile : s.files.file? (key.file time stream).place with
  | none => exact Nat.zero_le _
  | some content =>
    have hr := h.reaches time stream content hfile
    have hg := FileTree.file?_eq_some_iff.1 hfile
    rw [exceeds, FileTree.size?_eq hr hg, Option.any_some, decide_eq_false_iff_not,
      Nat.not_lt] at hx
    exact hx

/-- What a write settles on: a base path that a reading has named, under which the file of its own
stream is not over the limit yet. -/
theorem of_settles (h : Confined key s) (hc : s.clock.Increasing) {sink : FileSink} {base : Path}
    (hkey : sink.key key.signal = key) (hset : FileSink.Settles sink key.signal s base s') :
    Confined key s' ∧ key.Past s'.clock base ∧
      ((s'.files.file? (FileName.ofStream base sink.stream).place).getD []).length ≤
        sizeLimit sink.maxMb := by
  cases hset with
  | found hf hx =>
    rw [hkey] at hf
    obtain ⟨hs', hp⟩ := h.of_finds hf
    refine ⟨hs', hp, ?_⟩
    obtain ⟨i, -, rfl⟩ := hp
    exact hs'.length_le_of_not_exceeds hx
  | @rotated base₁ s₁ hf hx =>
    rw [hkey] at hf ⊢
    obtain ⟨hs₁, -⟩ := h.of_finds hf
    have hc₁ : s₁.clock.Increasing := hc.of_framed hf.framed
    refine ⟨hs₁.of_afterRotation hc₁, ?_, ?_⟩
    · rw [hs₁.rotated_eq hc₁]
      exact SlotKey.past_now s₁.clock
    · have hnone := hs₁.file?_rotated hc₁ sink.stream
      rw [afterRotation, hnone]
      exact Nat.zero_le _

/-- A file may grow, or come into being, under a base path that is past. -/
theorem of_grown (h : Confined key s) {base : Path} {stream : Stream} {bytes : Bytes}
    {files : FileTree} (hp : key.Past s.clock base) (hf : s.files.SameFiles files)
    (hr : s'.rotation = s.rotation) (hc : s'.clock = s.clock)
    (hg : files.Grown s'.files (FileName.ofStream base stream) bytes) : Confined key s' := by
  have hkeeps := hf.toKeeps.trans hg.toKeeps
  have hfile := hg.of_sameFiles hf
  -- The place of a file tells its base path.
  have hgrown : ∀ time other,
      (key.file time other).place = (FileName.ofStream base stream).place →
        key.basePath time = base ∧ key.file time other = FileName.ofStream base stream := by
    obtain ⟨i, -, rfl⟩ := hp
    intro time other hplace
    obtain ⟨hb, rfl⟩ := FileName.place_ofStream_inj hplace
    exact ⟨hb, congrArg (FileName.ofStream · other) hb⟩
  constructor
  · exact hkeeps.proper h.proper
  · rw [hr]
    exact h.named
  · intro base' hb
    rw [hr] at hb
    rw [hc]
    exact h.active base' hb
  · intro time other hsome
    rw [hfile] at hsome
    rw [hc]
    split at hsome
    · next hplace =>
      rw [(hgrown time other hplace).1]
      exact hp
    · exact h.occupied time other hsome
  · intro time other content hcontent
    rw [hfile] at hcontent
    split at hcontent
    · next hplace =>
      rw [(hgrown time other hplace).2]
      exact FileTree.resolve_mono hg.directory hg.resolve_eq
    · exact FileTree.resolve_mono hkeeps.directory (h.reaches time other content hcontent)

/-- A write of the signal keeps to what is past, in whichever way it ends. -/
theorem of_writes (h : Confined key s) (hc : s.clock.Increasing) {sink : FileSink}
    {record : Record} {cancelled : Bool} {outcome : Except SinkError Unit}
    (hkey : sink.key record.signal = key) (hw : sink.Writes record cancelled s outcome s') :
    Confined key s' := by
  have hsignal : record.signal = key.signal := by rw [← hkey]; rfl
  have settled : ∀ {s₁ s₂ : Store} {base : Path}, Opened s s₁ →
      FileSink.Settles sink record.signal s₁ base s₂ →
        Confined key s₂ ∧ key.Past s₂.clock base := by
    intro s₁ s₂ base ho hset
    rw [hsignal] at hset hkey
    have hc₁ : s₁.clock.Increasing := by rw [ho.clock]; exact hc
    obtain ⟨hs₂, hp, -⟩ := (h.of_opened ho).of_settles hc₁ hkey hset
    exact ⟨hs₂, hp⟩
  cases hw with
  | shutDown _ => exact h
  | cancelled _ _ ho => exact h.of_opened ho
  | unnamed _ _ ho _ => exact (h.of_opened ho).of_createDirectories _
  | unstored _ _ ho hset hr hclock hf _ _ =>
    obtain ⟨hs₂, -⟩ := settled ho hset
    have hframed : Framed key _ s' := ⟨congrArg Clock.reading hclock,
      Nat.le_of_eq (congrArg Clock.next hclock).symm, fun _ _ => by rw [hr], hf.toKeeps⟩
    exact hs₂.of_sameFiles hframed (by rw [hr]; exact hs₂.named) (by rw [hr]) hf
  | broken _ _ ho hset hr hclock hf _ hg =>
    obtain ⟨hs₂, hp⟩ := settled ho hset
    exact hs₂.of_grown hp hf hr hclock hg
  | stored _ _ ho hset hr hclock hf hg =>
    obtain ⟨hs₂, hp⟩ := settled ho hset
    exact hs₂.of_grown hp hf hr hclock hg

/-- The file that a write changes was within the limit of its sink. -/
theorem length_le_of_writes (h : Confined key s) (hc : s.clock.Increasing) {sink : FileSink}
    {record : Record} {cancelled : Bool} {outcome : Except SinkError Unit} {base : Path}
    {place : Place} (hkey : sink.key record.signal = key)
    (hw : sink.Writes record cancelled s outcome s') (ha : s'.rotation.active? key = some base)
    (hp : s'.files.file? place ≠ s.files.file? place) :
    ((s.files.file? (FileName.ofStream base sink.stream).place).getD []).length ≤
      sizeLimit sink.maxMb := by
  have hsignal : record.signal = key.signal := by rw [← hkey]; rfl
  obtain ⟨base', s₁, s₂, ho, hset, ha'⟩ := hw.exists_settles hp
  rw [hkey] at ha'
  obtain rfl := Option.some.inj (ha.symm.trans ha')
  rw [hsignal] at hset hkey
  have hc₁ : s₁.clock.Increasing := by rw [ho.clock]; exact hc
  obtain ⟨-, -, hle⟩ := (h.of_opened ho).of_settles hc₁ hkey hset
  rwa [hset.files.file?_eq, ho.files] at hle

/-- A write of another signal leaves the key alone. -/
theorem of_writes_of_ne (h : Confined key s) {sink : FileSink} {record : Record}
    {cancelled : Bool} {outcome : Except SinkError Unit} (hs : record.signal ≠ key.signal)
    (hw : sink.Writes record cancelled s outcome s') :
    Confined key s' ∧ ∀ time stream,
      s'.files.file? (key.file time stream).place = s.files.file? (key.file time stream).place := by
  have hne : key.id ≠ (sink.key record.signal).id := fun he => hs (SlotId.mk.inj he).2.symm
  have hfile : ∀ time stream,
      s'.files.file? (key.file time stream).place = s.files.file? (key.file time stream).place := by
    intro time stream
    refine hw.file?_of_not_isFileOf h.named ?_
    rw [Bool.eq_false_iff]
    intro hp
    exact hs (FileName.isFileOf_unique hp
      (FileName.isFileOf_ofStream key.directory key.signal time stream)).1
  refine ⟨h.of_framed hw.framed (hw.named h.named) (fun base hb => ?_) fun time stream hsome => ?_,
    hfile⟩
  · rw [hw.framed.active key hne] at hb
    exact (h.active base hb).mono hw.framed.reading hw.framed.next
  · rwa [hfile] at hsome

/-- Files may go, and paths may be forgotten. -/
theorem of_swept (h : Confined key s) {directory : Path} {signals : List Signal}
    (hs : Swept directory signals s s') : Confined key s' := by
  have hsh := hs.files h.proper
  constructor
  · exact hsh.proper h.proper
  · intro key' base hb
    exact h.named key' base (hs.active key' base hb)
  · intro base hb
    rw [hs.clock]
    exact h.active base (hs.active key base hb)
  · intro time stream hsome
    rw [hs.clock]
    rcases hsh.file?_eq (key.file time stream).place with he | ⟨-, he⟩
    · rw [he] at hsome
      exact h.occupied time stream hsome
    · rw [he] at hsome
      cases hsome
  · intro time stream
    exact (h.reaches time stream).of_shrunk hsh

/-- Work under another key that changes no file keeps to what is past. -/
theorem of_other (h : Confined key s) (hk : key.id ≠ key'.id) (hf : Framed key' s s')
    (hn : s'.rotation.Named) (hfiles : s.files.SameFiles s'.files) : Confined key s' :=
  h.of_sameFiles hf hn (hf.active key hk) hfiles

/-- So does the first request for a path. -/
theorem of_activePath (h : Confined key s) (hd : key'.directory = key.directory)
    {outcome : Except SinkError Path} (he : (activePath key').Ends s outcome s') :
    Confined key s' := by
  rcases activePath_cases he with ⟨base, -, hf⟩ | ⟨-, error, -, rfl⟩
  · rcases SlotKey.eq_or_id_ne hd with rfl | hk
    · exact (h.of_finds hf).1
    · exact h.of_other hk hf.framed (hf.named h.named) hf.files
  · exact h.of_createDirectories _

/-- And a rotation by hand. -/
theorem of_rotate (h : Confined key s) (hd : key'.directory = key.directory)
    (hc : s.clock.Increasing) {outcome : Except SinkError Path}
    (he : (rotate key').Ends s outcome s') : Confined key s' := by
  obtain ⟨-, rfl⟩ := ends_rotate_iff.1 he
  rcases SlotKey.eq_or_id_ne hd with rfl | hk
  · exact h.of_afterRotation hc
  · have hnamed : (afterRotation key' s).rotation.Named :=
      h.named.activate (freshPath_eq_basePath _ _ _ _)
    exact h.of_other hk (framed_afterRotation key' s) hnamed (.refl _)

/-- A request that gets no further than its slot, or none at all, changes nothing that is told. -/
theorem of_enter_bind {α : Type} (h : Confined key s) {cancelled : Bool} {next : StoreTask α}
    {outcome : Except SinkError α}
    (he : (enter key' cancelled >>= fun _ => next).Ends s outcome s')
    (hnext : ∀ {s₁ : Store}, Confined key s₁ → s₁.clock = s.clock →
      next.Ends s₁ outcome s' → Confined key s') : Confined key s' := by
  rcases Task.ends_bind_iff.1 he with ⟨_, s₁, hent, hn⟩ | ⟨error, hent, -⟩
  · have ho := opened_of_enter hent
    exact hnext (h.of_opened ho) ho.clock hn
  · exact h.of_opened (opened_of_enter hent)

end Confined

end Store

end TelemetrySpool
