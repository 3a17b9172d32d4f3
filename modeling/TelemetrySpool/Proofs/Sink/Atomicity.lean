import TelemetrySpool.Proofs.Sink.Write

/-!
# Writes are all or nothing

A write moves rotation and creates directories before it knows whether the line can be stored. Files
are another matter: a write that succeeds has made one file longer by its line, and one that fails,
for whatever reason, has changed none, as long as the volume takes every append as a whole. How much
space was free decides between the two once a file has been settled on.
-/

namespace TelemetrySpool.FileSink

variable {sink : FileSink} {s s' : Store}

/-- What a write does before it asks for free space. -/
def settle (sink : FileSink) (signal : Signal) (cancelled : Bool) : StoreTask Path := do
  Store.enter (sink.key signal) cancelled
  sink.target signal

/-- Enough space is free exactly if the query has found what is required. -/
theorem ensureSpace_ok_iff {target : Path} {length : Nat} :
    (sink.ensureSpace target length).Ends s (.ok ()) s' ↔ s' = s ∧
      ∃ bytes, sink.volume.space s.files (sink.directoryOf target) = .available bytes ∧
        required length ≤ bytes := by
  rw [ensureSpace, Task.ends_look_bind_iff]
  cases sink.volume.space s.files (sink.directoryOf target) with
  | available bytes =>
    dsimp only
    split
    · next hlow => simp [Task.ends_report_bind_iff, Task.ends_fail_iff, hlow]
    · next hlow => simp [Task.ends_pure_iff, Nat.not_lt.1 hlow]
  | _ => simp [Task.ends_fail_iff]

/-- Too little space is refused with what is free and what is required. -/
theorem ensureSpace_refused {target : Path} {length bytes : Nat}
    (hspace : sink.volume.space s.files (sink.directoryOf target) = .available bytes)
    (hlow : bytes < required length) :
    (sink.ensureSpace target length).Ends s
      (.error (.insufficientSpace target bytes (required length))) s := by
  rw [ensureSpace, Task.ends_look_bind_iff, hspace]
  dsimp only
  rw [if_pos hlow, Task.ends_report_bind_iff, Task.ends_fail_iff]
  exact ⟨rfl, rfl⟩

/-- What has to be free for a line of less than 2^63 octets is a number of sixty-four bits anyway.
-/
theorem required_eq {length : Nat} (h : length < Nat.pow 2 63) :
    required length = length + safetyBuffer := by
  rw [show Nat.pow 2 63 = 9223372036854775808 from rfl] at h
  rw [required, safetyBuffer, UInt64.size]
  omega

/-- What it means for a write that it is all or nothing. -/
structure Atomic (sink : FileSink) (record : Record) (cancelled : Bool) (s : Store)
    (outcome : Except SinkError Unit) (s' : Store) : Prop where
  /-- What has been stored is the line, at the end of the file of the active base path, where enough
  space was free. -/
  stored : outcome = .ok () → ∃ base s₁ bytes,
    (sink.settle record.signal cancelled).Ends s (.ok (FileName.ofStream base sink.stream)) s₁ ∧
    sink.volume.space s₁.files (sink.directoryOf (FileName.ofStream base sink.stream)) =
      .available bytes ∧
    (Bytes.ofText record.line).length + safetyBuffer ≤ bytes ∧
    s'.rotation.active? (sink.key record.signal) = some base ∧
    ∀ place, s'.files.file? place =
      if place = (FileName.ofStream base sink.stream).place then
        some ((s.files.file? place).getD [] ++ Bytes.ofText record.line)
      else s.files.file? place
  /-- A failure changes no file, if the volume takes every append as a whole. -/
  unchanged : sink.volume.Complete → ∀ error, outcome = .error error →
    ∀ place, s'.files.file? place = s.files.file? place
  /-- Too little space for a file that has been settled on is always refused. -/
  refused : ∀ target s₁ bytes, (sink.settle record.signal cancelled).Ends s (.ok target) s₁ →
    sink.volume.space s₁.files (sink.directoryOf target) = .available bytes →
    bytes < (Bytes.ofText record.line).length + safetyBuffer →
    outcome = .error (.insufficientSpace target bytes
      ((Bytes.ofText record.line).length + safetyBuffer))
  /-- A write that has not begun leaves everything as it is. -/
  untouched : outcome = .error .cancelled ∨ outcome = .error .shutDown →
    (∀ key, s'.rotation.active? key = s.rotation.active? key) ∧ s'.files = s.files

section Write

variable {record : Record} {cancelled : Bool}

/-- What a write that succeeds has gone through. -/
theorem exists_of_write_ok (h : (sink.write record cancelled).Ends s (.ok ()) s') :
    ∃ base s₁ bytes,
      (sink.settle record.signal cancelled).Ends s (.ok (FileName.ofStream base sink.stream)) s₁ ∧
      sink.volume.space s₁.files (sink.directoryOf (FileName.ofStream base sink.stream)) =
        .available bytes ∧
      required (Bytes.ofText record.line).length ≤ bytes ∧
      s'.rotation.active? (sink.key record.signal) = some base := by
  rw [write, Task.ends_bind_ok_iff] at h
  obtain ⟨_, s₀, henter, h⟩ := h
  rw [Task.ends_bind_ok_iff] at h
  obtain ⟨target, s₁, htarget, h⟩ := h
  dsimp only at h
  rw [Task.ends_bind_ok_iff] at h
  obtain ⟨_, s₂, hspace, h⟩ := h
  rw [Task.ends_bind_ok_iff] at h
  obtain ⟨_, s₃, happend, h⟩ := h
  obtain ⟨rfl, bytes, hbytes, hrequired⟩ := ensureSpace_ok_iff.1 hspace
  obtain ⟨-, rfl⟩ := Task.ends_report_iff.1 h
  obtain ⟨base, hbase, hset⟩ | ⟨_, _, hbase, _⟩ := target_cases htarget
  · obtain rfl := Except.ok.inj hbase
    refine ⟨base, s₂, bytes, Task.ends_bind_ok_iff.2 ⟨(), s₀, henter, htarget⟩, hbytes, hrequired,
      ?_⟩
    rw [(append_cases happend).1, hset.active]
  · cases hbase

/-- A write that finds too little space refuses the line. -/
theorem write_refused {target : Path} {s₁ : Store} {bytes : Nat}
    (hsettle : (sink.settle record.signal cancelled).Ends s (.ok target) s₁)
    (hspace : sink.volume.space s₁.files (sink.directoryOf target) = .available bytes)
    (hlow : bytes < required (Bytes.ofText record.line).length) :
    (sink.write record cancelled).Ends s (.error (.insufficientSpace target bytes
      (required (Bytes.ofText record.line).length))) s₁ := by
  obtain ⟨_, s₀, henter, htarget⟩ := Task.ends_bind_ok_iff.1 hsettle
  rw [write, Task.ends_bind_iff]
  refine .inl ⟨_, s₀, henter, ?_⟩
  rw [Task.ends_bind_iff]
  refine .inl ⟨target, s₁, htarget, ?_⟩
  dsimp only
  rw [Task.ends_bind_iff]
  exact .inr ⟨_, ensureSpace_refused hspace hlow, rfl⟩

/-- A write that was given up, or that comes after the shutdown, has opened a slot at most. -/
theorem Writes.untouched {error : SinkError} (h : sink.Writes record cancelled s (.error error) s')
    (herror : error = .cancelled ∨ error = .shutDown) :
    (∀ key, s'.rotation.active? key = s.rotation.active? key) ∧ s'.files = s.files := by
  cases h with
  | shutDown _ => exact ⟨fun _ => rfl, rfl⟩
  | cancelled _ _ hs => exact ⟨hs.rotation.active, hs.files⟩
  | unnamed _ _ _ _ => simp at herror
  | unstored _ _ _ _ _ _ _ hc hd => exact absurd herror (not_or.2 ⟨hc, hd⟩)
  | broken _ _ _ _ _ _ _ _ _ => simp at herror

end Write

/-- Every write is all or nothing. -/
theorem write_atomic (sink : FileSink) (record : Record) (cancelled : Bool) (s : Store)
    (hline : (Bytes.ofText record.line).length < Nat.pow 2 63) :
    let done := (sink.write record cancelled s).value
    Atomic sink record cancelled s done.1 done.2 := by
  intro done
  have hends : (sink.write record cancelled).Ends s done.1 done.2 := Task.ends_self _ s
  have hwrites := writes_of_ends hends
  constructor
  · intro hok
    rw [hok] at hends hwrites
    obtain ⟨base, s₁, bytes, hsettle, hspace, hbytes, hactive⟩ := exists_of_write_ok hends
    rw [required_eq hline] at hbytes
    refine ⟨base, s₁, bytes, hsettle, hspace, hbytes, hactive, ?_⟩
    obtain ⟨base', hactive', hfiles⟩ := hwrites.file?_of_ok
    obtain rfl := Option.some.inj (hactive.symm.trans hactive')
    exact hfiles
  · intro hv error herror
    rw [herror] at hwrites
    exact hwrites.file?_of_error hv
  · intro target s₁ bytes hsettle hspace hlow
    rw [← required_eq hline] at hlow ⊢
    exact congrArg Prod.fst (write_refused hsettle hspace hlow)
  · intro herror
    cases houtcome : done.1 with
    | ok _ =>
      rw [houtcome] at herror
      simp at herror
    | error error =>
      rw [houtcome] at herror hwrites
      exact hwrites.untouched (by simpa using herror)

/-- With exactly enough space a line is stored, and with one octet less it is not. -/
theorem write_atomic_edge :
    let record : Record := ⟨.logs, "[]\n", false, .epoch, by decide⟩
    let s : Store := { clock := .still .epoch }
    let sink (bytes : Nat) : FileSink := ⟨.all, "out", 100, .constant (.available bytes)⟩
    let done (bytes : Nat) := ((sink bytes).write record false s).value
    (Bytes.ofText record.line).length < Nat.pow 2 63 ∧
      (done 104857603).1.toOption = some () ∧ (done 104857602).1.toOption = none ∧
      ∀ bytes, Atomic (sink bytes) record false s (done bytes).1 (done bytes).2 := by
  intro record s sink done
  have hline : (Bytes.ofText record.line).length < Nat.pow 2 63 := by decide
  exact ⟨hline, by decide +kernel, by decide +kernel, fun bytes => write_atomic _ _ _ _ hline⟩

end TelemetrySpool.FileSink
