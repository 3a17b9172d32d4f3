import TelemetrySpool.Proofs.Spool.Company
import TelemetrySpool.Proofs.Spool.Room
import TelemetrySpool.Proofs.Text.Utf8

/-!
# Errors that cross

Two errors of a signal may both be written among all records before either is written among the
errors. If the first line is over the limit, the second error leaves the active base path for a new
one in between. The first line then stands among the errors of a base path that has not seen it
among all records, although every write has been stored and both dispatches have come to their end.
-/

namespace TelemetrySpool

/-- Readings of a clock that goes on name different base paths. -/
theorem Clock.Increasing.basePath_ne {c : Clock} (h : c.Increasing) (key : SlotKey) {i j : Nat}
    (hij : i < j) : key.basePath (c.reading j) ≠ key.basePath (c.reading i) := by
  intro he
  have heq := FileName.millis_eq_of_basePath he
  have hlt := h.lt hij
  omega

namespace Store

variable {key : SlotKey} {sink : FileSink} {record : Record} {i : Nat} {s s' : Store}

/-- A store that is open, with a base path that a reading has named and that is active for a key,
and no file under any that a later one may name. -/
structure Standing (key : SlotKey) (i : Nat) (s : Store) : Prop extends Confined key s where
  increasing : s.clock.Increasing
  closed_eq : s.rotation.closed = false
  active_eq : s.rotation.active? key = some (key.basePath (s.clock.reading i))
  taken : i < s.clock.next
  stands : s.files.stat key.directory = .ok .directory
  ahead : ∀ n, s.clock.next ≤ n → ∀ stream,
    s.files.get? (key.file (s.clock.reading n) stream).place = none

/-- What a write leaves that has filed a line under the base path that is active. -/
theorem Confined.standing_filed (h : Confined key s) (hc : s.clock.Increasing)
    (hkey : sink.key record.signal = key) (hends : (sink.write record false).Ends s (.ok ()) s')
    {s₁ : Store} {stream : Stream} {line : Bytes}
    (ho : Opened { s₁ with files := key.filed s₁.files (s₁.clock.reading i) stream line } s')
    (hclosed : s₁.rotation.closed = false)
    (hactive : s₁.rotation.active? key = some (key.basePath (s₁.clock.reading i)))
    (htaken : i < s₁.clock.next) (hroom : key.Room s₁.files (s₁.clock.reading i) stream)
    (hahead : ∀ n, s₁.clock.next ≤ n → ∀ stream,
      s₁.files.get? (key.file (s₁.clock.reading n) stream).place = none) :
    Standing key i s' := by
  have hw := FileSink.writes_of_ends hends
  have hclock : s'.clock = s₁.clock := ho.clock
  have hc' := hc.of_framed hw.framed
  refine ⟨h.of_writes hc hkey hw, hc', ho.rotation.closed.trans hclosed, ?_, ?_, ?_, ?_⟩
  · rw [hclock]
    exact (ho.rotation.active key).trans hactive
  · rw [hclock]
    exact htaken
  · rw [ho.files]
    exact hroom.stat_filed line
  · intro n hn other
    rw [hclock] at hn hc' ⊢
    rw [ho.files]
    have hbase := hc'.basePath_ne key (Nat.lt_of_lt_of_le htaken hn)
    exact (SlotKey.get?_filed_of_ne _ _ (.inl hbase)).trans (hahead n hn other)

/-- A line is stored in the first file of a key, in a directory that can be created. -/
theorem Confined.exists_filed_first (h : Confined key s) (hc : s.clock.Increasing)
    (hopen : s.rotation.closed = false) (hnone : s.rotation.active? key = none)
    {files : FileTree} (hcreate : s.files.createDirectories key.directory = (files, .ok ()))
    (hstat : files.stat key.directory = .ok .directory)
    (hfree : ∀ time stream, files.get? (key.file time stream).place = none)
    (hkey : sink.key record.signal = key)
    (hv : sink.volume.Takes (Bytes.ofText record.line).length) (hfits : key.Fits s.clock.now) :
    ∃ s', (sink.write record false).Ends s (.ok ()) s' ∧ Standing key s.clock.next s' ∧
      s'.clock = s.clock.tick ∧ s'.files = key.filed files (s'.clock.reading s.clock.next)
        sink.stream (Bytes.ofText record.line) := by
  subst hkey
  have hroom : (sink.key record.signal).Room files s.clock.now sink.stream :=
    ⟨hstat, hfree _ _⟩
  have hfind : Finds (sink.key record.signal) s _ _ := .new hnone hcreate
  have hset := FileSink.Settles.found hfind (exceeds_eq_false hroom.free sink.maxMb)
  obtain ⟨s', hends, ho⟩ := FileSink.exists_filed hv hopen hset hroom hfits
  refine ⟨s', hends, h.standing_filed hc rfl hends ho hopen hfind.active_eq (Nat.lt_succ_self _)
    hroom fun _ _ _ => hfree _ _, ho.clock, ?_⟩
  rw [ho.clock]
  exact ho.files

/-- A line is stored in a new file under the base path that is active. -/
theorem Standing.exists_filed (h : Standing key i s) (hkey : sink.key record.signal = key)
    (hv : sink.volume.Takes (Bytes.ofText record.line).length)
    (hfree : s.files.get? (key.file (s.clock.reading i) sink.stream).place = none)
    (hfits : key.Fits (s.clock.reading i)) :
    ∃ s', (sink.write record false).Ends s (.ok ()) s' ∧ Standing key i s' ∧
      s'.clock = s.clock ∧ s'.files = key.filed s.files (s'.clock.reading i) sink.stream
        (Bytes.ofText record.line) := by
  subst hkey
  have hroom : (sink.key record.signal).Room s.files (s.clock.reading i) sink.stream :=
    ⟨h.stands, hfree⟩
  have hset := FileSink.Settles.found (.active h.active_eq) (exceeds_eq_false hfree sink.maxMb)
  obtain ⟨s', hends, ho⟩ := FileSink.exists_filed hv h.closed_eq hset hroom hfits
  refine ⟨s', hends, h.standing_filed h.increasing rfl hends ho h.closed_eq h.active_eq h.taken
    hroom h.ahead, ho.clock, ?_⟩
  rw [ho.clock]
  exact ho.files

/-- A line is stored in a new file under a base path that replaces the active one, if the file of
that is over the limit. -/
theorem Standing.exists_filed_anew (h : Standing key i s) (hkey : sink.key record.signal = key)
    (hv : sink.volume.Takes (Bytes.ofText record.line).length)
    (hlarge : exceeds s.files (key.file (s.clock.reading i) sink.stream) sink.maxMb = true)
    (hfits : key.Fits s.clock.now) :
    ∃ s', (sink.write record false).Ends s (.ok ()) s' ∧ Standing key s.clock.next s' ∧
      s'.clock = s.clock.tick ∧ s'.files = key.filed s.files (s'.clock.reading s.clock.next)
        sink.stream (Bytes.ofText record.line) := by
  subst hkey
  have hbase := h.rotated_eq h.increasing
  have hroom : (sink.key record.signal).Room s.files s.clock.now sink.stream :=
    ⟨h.stands, h.ahead _ (Nat.le_refl _) _⟩
  have hset := FileSink.Settles.rotated (.active h.active_eq) hlarge
  have hactive := hset.active
  rw [hbase] at hset hactive
  obtain ⟨s', hends, ho⟩ := FileSink.exists_filed hv h.closed_eq hset hroom hfits
  refine ⟨s', hends, h.standing_filed h.increasing rfl hends ho h.closed_eq hactive
    (Nat.lt_succ_self _) hroom fun n hn => h.ahead n (Nat.le_of_succ_le hn), ho.clock, ?_⟩
  rw [ho.clock]
  exact ho.files

/-- The file of a line that is over the limit is too large. -/
theorem Standing.exceeds_of_filed (h : Standing key i s) {files : FileTree} {stream : Stream}
    {line : Bytes} (hf : s.files = key.filed files (s.clock.reading i) stream line)
    (hfits : key.Fits (s.clock.reading i)) {maxMb : UInt64}
    (hsize : sizeLimit maxMb < line.length) :
    exceeds s.files (key.file (s.clock.reading i) stream) maxMb = true := by
  have hg := key.get?_filed_self files (s.clock.reading i) stream line
  rw [← hf] at hg
  exact (SlotKey.exceeds_eq h.stands hfits hg maxMb).trans (decide_eq_true hsize)

end Store

namespace Member

variable {spool : Spool} {volume : Volume} {record : Record} {cancelled : Bool} {o : Outlets}
  {outcome : Except SinkError Unit} {s' : Store}

/-- How the file sink of all records writes, on all outlets. -/
theorem all_value (h : ((spool.sink .all volume).write record cancelled).Ends o.store outcome s') :
    (((all (spool.maxMb .all) []).registered spool.directory volume).sink.write record cancelled
      o).value = (outcome, { o with store := s' }) :=
  congrArg (fun p : Except SinkError Unit × Store => (p.1, { o with store := p.2 })) h

/-- How the file sink of errors writes, on all outlets. -/
theorem errors_value
    (h : ((spool.sink .errors volume).write record cancelled).Ends o.store outcome s') :
    (((errors (spool.maxMb .errors) []).registered spool.directory volume).sink.write record
      cancelled o).value = (outcome, { o with store := s' }) :=
  congrArg (fun p : Except SinkError Unit × Store => (p.1, { o with store := p.2 })) h

end Member

namespace Spool

variable {spool : Spool} {signal : Signal} {health : Health} {o : Outlets} {first second : Record}

/-- Two flights that take turns at either sink, and then come to their ends. -/
def crossing (cancelled : Nat → Bool) (volume : Nat → Volume) : List Turn :=
  [⟨0, cancelled 0, volume 0⟩, ⟨1, cancelled 1, volume 1⟩, ⟨0, cancelled 2, volume 2⟩,
    ⟨1, cancelled 3, volume 3⟩, ⟨0, cancelled 4, volume 4⟩, ⟨0, cancelled 5, volume 5⟩]

/-- What two errors that cross come to: each is written among all records, and then each among the
errors. -/
theorem run_crossing {cancelled : Nat → Bool} {volume : Nat → Volume}
    (he₁ : first.isError = true) (he₂ : second.isError = true)
    {r₁ r₂ r₃ r₄ : Except SinkError Unit} {s₁ s₂ s₃ s₄ : Store}
    (h₁ : ((spool.sink .all (volume 0)).write first (cancelled 0)).Ends o.store r₁ s₁)
    (h₂ : ((spool.sink .all (volume 1)).write second (cancelled 1)).Ends s₁ r₂ s₂)
    (h₃ : ((spool.sink .errors (volume 2)).write first (cancelled 2)).Ends s₂ r₃ s₃)
    (h₄ : ((spool.sink .errors (volume 3)).write second (cancelled 3)).Ends s₃ r₄ s₄) :
    let done := (spool.departures [] [first, second] health o).run spool.directory
      (crossing cancelled volume)
    done.1.flights = [] ∧ done.1.outlets.store = s₄ ∧
      done.2 = [⟨.all, first, r₁⟩, ⟨.all, second, r₂⟩, ⟨.errors, first, r₃⟩,
        ⟨.errors, second, r₄⟩] := by
  have hw₁ := Member.all_value h₁
  have hw₂ := @Member.all_value spool _ _ _ { o with store := s₁ } _ _ h₂
  have hw₃ := @Member.errors_value spool _ _ _ { o with store := s₂ } _ _ h₃
  have hw₄ := @Member.errors_value spool _ _ _ { o with store := s₃ } _ _ h₄
  refine ⟨?_, ?_, ?_⟩
  · simp [departures, members, crossing, Traffic.start, Traffic.run, Traffic.step]
  · simp [departures, members, crossing, Traffic.start, Traffic.run, Traffic.step,
      Registered.offer_state, Member.admits_all, Member.admits_errors, he₁, he₂, hw₁, hw₂, hw₃, hw₄]
  · simp [departures, members, crossing, Traffic.start, Traffic.run, Traffic.step,
      Traffic.attempts, Member.stream?, Registered.offer_state, Member.admits_all,
      Member.admits_errors, he₁, he₂, hw₁, hw₂, hw₃, hw₄]

/-- The first line is over the limit, so the second error replaces the active path, and the first
one follows it there. -/
theorem exists_stray_of_writes {s s₁ s₂ s₃ s₄ : Store} {cancelled : Nat → Bool}
    {volume : Nat → Volume} (h : Store.Tracks (spool.key signal) (fun _ => []) s)
    (hc : s.clock.Increasing) (hs₁ : first.signal = signal) (hs₂ : second.signal = signal)
    (hsize : Store.sizeLimit (spool.maxMb .all) < (Bytes.ofText first.line).length)
    (hmax : spool.maxMb .errors ≠ 0)
    (hw₁ : (spool.sink .all (volume 0)).Writes first (cancelled 0) s (.ok ()) s₁)
    (hw₂ : (spool.sink .all (volume 1)).Writes second (cancelled 1) s₁ (.ok ()) s₂)
    (hw₃ : (spool.sink .errors (volume 2)).Writes first (cancelled 2) s₂ (.ok ()) s₃)
    (hw₄ : (spool.sink .errors (volume 3)).Writes second (cancelled 3) s₃ (.ok ()) s₄) :
    ∃ time later,
      s₄.files.file? ((spool.key signal).file time .all).place =
        some (Bytes.ofText second.line) ∧
      s₄.files.file? ((spool.key signal).file time .errors).place =
        some (Bytes.ofText first.line ++ later) := by
  have hkey₁ := fun stream volume => spool.key_sink stream volume hs₁
  have hkey₂ := fun stream volume => spool.key_sink stream volume hs₂
  have hc₁ := hc.of_framed hw₁.framed
  have hc₂ := hc₁.of_framed hw₂.framed
  have hc₃ := hc₂.of_framed hw₃.framed
  obtain ⟨base₁, -, -, ht₁⟩ := h.of_writes hc (hkey₁ _ _) hw₁
  obtain ⟨base₂, hactive, hle, ht₂⟩ := ht₁.of_writes hc₁ (hkey₂ _ _) hw₂
  have hne : base₁ ≠ base₂ := by
    rintro rfl
    simp [Store.enter?, sizeUnder, linesUnder, recordsUnder, sink] at hle
    omega
  obtain ⟨hactive', -⟩ := ht₂.rotation_of_writes (hkey₁ _ _) hw₃ hmax hactive (Nat.zero_le _)
  obtain ⟨base₃, hbase, -, ht₃⟩ := ht₂.of_writes hc₂ (hkey₁ _ _) hw₃
  obtain rfl := Option.some.inj (hactive'.symm.trans hbase)
  obtain ⟨base₄, -, -, ht₄⟩ := ht₃.of_writes hc₃ (hkey₂ _ _) hw₄
  obtain ⟨i, -, rfl⟩ := ht₂.active _ hactive
  refine ⟨s₂.clock.reading i,
    if base₄ = (spool.key signal).basePath (s₂.clock.reading i) then Bytes.ofText second.line
    else [], ?_, ?_⟩
  · rw [ht₄.file?_eq]
    simp [Store.enter?, linesUnder, recordsUnder, sink, hne, FileTree.extended]
  · rw [ht₄.file?_eq]
    by_cases hb : base₄ = (spool.key signal).basePath (s₂.clock.reading i)
    · simp [Store.enter?, linesUnder, recordsUnder, sink, hb, FileTree.extended]
    · simp [Store.enter?, linesUnder, recordsUnder, sink, hb, FileTree.extended]

/-- Two errors that cross both come to their end. If the first line is over the limit and every
write is stored, it stands among the errors of a base path whose other file holds the second line
alone. -/
theorem Unused.exists_stray (h : spool.Unused signal o.store) (hs₁ : first.signal = signal)
    (hs₂ : second.signal = signal) (he₁ : first.isError = true) (he₂ : second.isError = true)
    (hsize : Store.sizeLimit (spool.maxMb .all) < (Bytes.ofText first.line).length)
    (hmax : spool.maxMb .errors ≠ 0) (cancelled : Nat → Bool) (volume : Nat → Volume) :
    let done := (spool.departures [] [first, second] health o).run spool.directory
      (crossing cancelled volume)
    (∀ attempt ∈ done.2, attempt.stored) →
      ∃ time later,
        done.1.outlets.store.files.file? ((spool.key signal).file time .all).place =
          some (Bytes.ofText second.line) ∧
        done.1.outlets.store.files.file? ((spool.key signal).file time .errors).place =
          some (Bytes.ofText first.line ++ later) := by
  intro done hstored
  obtain ⟨-, hstore, hattempts⟩ := @run_crossing spool health o first second cancelled volume
    he₁ he₂ _ _ _ _ _ _ _ _ (Task.ends_self _ _) (Task.ends_self _ _) (Task.ends_self _ _)
    (Task.ends_self _ _)
  rw [hattempts] at hstored
  simp only [List.forall_mem_cons] at hstored
  obtain ⟨h₁, h₂, h₃, h₄, -⟩ := hstored
  rw [hstore]
  exact exists_stray_of_writes h.tracks h.increasing hs₁ hs₂ hsize hmax
    (FileSink.writes_of_stored h₁) (FileSink.writes_of_stored h₂) (FileSink.writes_of_stored h₃)
    (FileSink.writes_of_stored h₄)

/-- In a directory without a file of the signal every write of two errors that cross is stored, if
the first line is over the one limit of both sinks and the volume takes both lines. -/
theorem Unused.exists_writes_crossing {s : Store} (h : spool.Unused signal s)
    (hs₁ : first.signal = signal) (hs₂ : second.signal = signal)
    (hone : spool.maxMb .errors = spool.maxMb .all)
    (hsize : Store.sizeLimit (spool.maxMb .all) < (Bytes.ofText first.line).length)
    (hopen : s.rotation.closed = false) (hnone : s.rotation.active? (spool.key signal) = none)
    {files : FileTree} (hcreate : s.files.createDirectories spool.directory = (files, .ok ()))
    (hstat : files.stat spool.directory = .ok .directory)
    (hfree : ∀ time stream, files.get? ((spool.key signal).file time stream).place = none)
    (hfits : ∀ n < 3, (spool.key signal).Fits (s.clock.reading (s.clock.next + n)))
    {volume : Volume} (hv₁ : volume.Takes (Bytes.ofText first.line).length)
    (hv₂ : volume.Takes (Bytes.ofText second.line).length) :
    ∃ s₁ s₂ s₃ s₄,
      ((spool.sink .all volume).write first false).Ends s (.ok ()) s₁ ∧
      ((spool.sink .all volume).write second false).Ends s₁ (.ok ()) s₂ ∧
      ((spool.sink .errors volume).write first false).Ends s₂ (.ok ()) s₃ ∧
      ((spool.sink .errors volume).write second false).Ends s₃ (.ok ()) s₄ := by
  have hkey₁ := fun stream => spool.key_sink stream volume hs₁
  have hkey₂ := fun stream => spool.key_sink stream volume hs₂
  have hsizeₑ := hsize
  rw [← hone] at hsizeₑ
  -- The first write names a base path, and files the first line under it.
  have hfits₀ : (spool.key signal).Fits s.clock.now := hfits 0 (by omega)
  obtain ⟨s₁, hends₁, h₁, hclock₁, hfiles₁⟩ := h.confined.exists_filed_first h.increasing hopen
    hnone hcreate hstat hfree (hkey₁ .all) hv₁ hfits₀
  -- The second one finds that file too large, and files its line under the next name.
  have hlarge₁ := h₁.exceeds_of_filed hfiles₁ (by rw [hclock₁]; exact hfits₀) hsize
  have hfits₁ : (spool.key signal).Fits s₁.clock.now := by
    rw [hclock₁]
    exact hfits 1 (by omega)
  obtain ⟨s₂, hends₂, h₂, hclock₂, hfiles₂⟩ :=
    h₁.exists_filed_anew (hkey₂ .all) hv₂ hlarge₁ hfits₁
  -- The third one follows it there.
  have hfits₂ : (spool.key signal).Fits (s₂.clock.reading s₁.clock.next) := by
    rw [hclock₂]
    exact hfits₁
  have hfree₂ : s₂.files.get? ((spool.key signal).file (s₂.clock.reading s₁.clock.next)
      .errors).place = none := by
    rw [hfiles₂, hclock₂]
    exact (SlotKey.get?_filed_of_ne _ _ (.inr (show Stream.errors ≠ .all by decide))).trans
      (h₁.ahead _ (Nat.le_refl _) _)
  obtain ⟨s₃, hends₃, h₃, hclock₃, hfiles₃⟩ :=
    h₂.exists_filed (hkey₁ .errors) hv₁ hfree₂ hfits₂
  -- The fourth one finds the first line over the limit again.
  have hlarge₃ := h₃.exceeds_of_filed hfiles₃ (by rw [hclock₃]; exact hfits₂) hsizeₑ
  have hfits₃ : (spool.key signal).Fits s₃.clock.now := by
    rw [hclock₃, hclock₂, hclock₁]
    exact hfits 2 (by omega)
  obtain ⟨s₄, hends₄, -, -, -⟩ := h₃.exists_filed_anew (hkey₂ .errors) hv₂ hlarge₃ hfits₃
  exact ⟨s₁, s₂, s₃, s₄, hends₁, hends₂, hends₃, hends₄⟩

/-- So two errors that cross always leave a stray line, if the first line is over the one limit of
both sinks: both come to their end, every write is stored, and the first line stands among the
errors of a base path whose other file holds the second line alone. -/
theorem Unused.exists_crossing (h : spool.Unused signal o.store) (hs₁ : first.signal = signal)
    (hs₂ : second.signal = signal) (he₁ : first.isError = true) (he₂ : second.isError = true)
    (hone : spool.maxMb .errors = spool.maxMb .all) (hmax : spool.maxMb .all ≠ 0)
    (hsize : Store.sizeLimit (spool.maxMb .all) < (Bytes.ofText first.line).length)
    (hopen : o.store.rotation.closed = false)
    (hnone : o.store.rotation.active? (spool.key signal) = none) {files : FileTree}
    (hcreate : o.store.files.createDirectories spool.directory = (files, .ok ()))
    (hstat : files.stat spool.directory = .ok .directory)
    (hfree : ∀ time stream, files.get? ((spool.key signal).file time stream).place = none)
    (hfits : ∀ n < 3, (spool.key signal).Fits (o.store.clock.reading (o.store.clock.next + n)))
    {volume : Volume} (hv₁ : volume.Takes (Bytes.ofText first.line).length)
    (hv₂ : volume.Takes (Bytes.ofText second.line).length) :
    let done := (spool.departures [] [first, second] health o).run spool.directory
      (crossing (fun _ => false) fun _ => volume)
    done.1.flights = [] ∧ (∀ attempt ∈ done.2, attempt.stored) ∧
      ∃ time later,
        done.1.outlets.store.files.file? ((spool.key signal).file time .all).place =
          some (Bytes.ofText second.line) ∧
        done.1.outlets.store.files.file? ((spool.key signal).file time .errors).place =
          some (Bytes.ofText first.line ++ later) := by
  intro done
  obtain ⟨s₁, s₂, s₃, s₄, h₁, h₂, h₃, h₄⟩ := h.exists_writes_crossing hs₁ hs₂ hone hsize hopen
    hnone hcreate hstat hfree hfits hv₁ hv₂
  obtain ⟨hflights, -, hattempts⟩ := @run_crossing spool health o first second (fun _ => false)
    (fun _ => volume) he₁ he₂ _ _ _ _ _ _ _ _ h₁ h₂ h₃ h₄
  have hstored : ∀ attempt ∈ done.2, attempt.stored := by
    rw [hattempts]
    simp [Attempt.stored_iff]
  rw [← hone] at hmax
  exact ⟨hflights, hstored, h.exists_stray hs₁ hs₂ he₁ he₂ hsize hmax _ _ hstored⟩

/-- A line of so many letters. -/
def longLine (length : Nat) : String := String.ofList (List.replicate length 'a' ++ ['\n'])

/-- Every character is one octet, and the line end is one more. -/
theorem length_longLine (length : Nat) :
    (Bytes.ofText (longLine length)).length = length + 1 := by
  have hascii : ∀ c ∈ List.replicate length 'a' ++ ['\n'], c.toNat < 128 := by
    intro c hc
    rcases List.mem_append.1 hc with hc | hc
    · rw [(List.mem_replicate.1 hc).2]
      decide
    · rw [List.mem_singleton.1 hc]
      decide
  rw [longLine, Utf8.ofText_ofList, Utf8.octets_of_lt hascii, List.length_map, List.length_append,
    List.length_replicate]
  rfl

/-- An error need not stand among all records of its base path. With one limit of a mebibyte for
both sinks, in a directory that is not there yet, on a volume with room for everything and at a
clock that goes on, two errors that cross are stored and come to their end. But under one base path
the line of the first stands among the errors, and that of the second alone among all records. -/
theorem not_subset_crossing :
    let spool : Spool := ⟨"out", fun _ => 1⟩
    let o : Outlets := { store := { clock := .everyMilli } }
    let record (line : String) : Record := ⟨.logs, line, true, .epoch, by decide⟩
    let done := (spool.departures [] [record (longLine 1048576), record "b\n"] {} o).run
      spool.directory (crossing (fun _ => false) fun _ => .ofFree (UInt64.size - 1))
    done.1.flights = [] ∧ (∀ attempt ∈ done.2, attempt.stored) ∧
      ∃ time later,
        done.1.outlets.store.files.file? ((spool.key .logs).file time .all).place =
          some (Bytes.ofText "b\n") ∧
        done.1.outlets.store.files.file? ((spool.key .logs).file time .errors).place =
          some (Bytes.ofText (longLine 1048576) ++ later) := by
  have hcreate : (({} : FileTree).createDirectories "out").2 = .ok () := rfl
  have hstat := (FileTree.stands_of_createDirectories hcreate).resolve_left (by decide)
  have hfree : ∀ time stream, (({} : FileTree).createDirectories "out").1.get?
      ((SlotKey.mk "out" .logs).file time stream).place = none := by
    intro time stream
    have hplain := FileName.isPlain_ofTime .logs time stream
    have hstraight : Path.Straight "out" := Path.straight_of_notMem (by decide +kernel)
    rw [SlotKey.file, SlotKey.basePath, FileName.place_ofStream]
    exact @FileTree.get?_recreated {} "out" hstraight _ hplain
  have hfits : ∀ n < 3, (SlotKey.mk "out" .logs).Fits (Clock.everyMilli.reading (0 + n)) := by
    intro n hn stream
    obtain rfl | rfl | rfl : n = 0 ∨ n = 1 ∨ n = 2 := by omega
    all_goals cases stream <;> decide +kernel
  intro spool o record
  have hunused : spool.Unused .logs o.store :=
    unused_empty spool .logs Clock.increasing_everyMilli
  have hsize : Store.sizeLimit (spool.maxMb .all) <
      (Bytes.ofText (record (longLine 1048576)).line).length := by
    rw [length_longLine]
    decide
  have htakes (line : String) :
      (Volume.ofFree (UInt64.size - 1)).Takes (Bytes.ofText line).length :=
    Volume.takes_ofFree (Nat.min_le_right _ _)
  exact @Unused.exists_crossing spool .logs {} o (record (longLine 1048576)) (record "b\n") hunused
    rfl rfl rfl rfl rfl (by decide) hsize rfl rfl _ (Prod.ext rfl hcreate) hstat hfree hfits _
    (htakes _) (htakes _)

end Spool

end TelemetrySpool
