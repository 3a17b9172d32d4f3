import TelemetrySpool.Proofs.Spool.Ledger

/-!
# What is done to a spool

A spool is a directory with the two sinks that fill it. Whatever is done to it (asking for a base
path, replacing it, writing a record, clearing) is one step on the store, in any order and with any
outcome. Each step keeps to base paths that the clock has named, and only writes and clears change
files.
-/

namespace TelemetrySpool

/-- A directory, and the size limits of the sinks that write its two streams. -/
structure Spool where
  directory : Path
  maxMb : Stream → UInt64

/-- What is done to a spool in one step. -/
inductive Deed where
  /-- Asking for the active base path of a signal. -/
  | path (signal : Signal)
  /-- Replacing the active base path of a signal. -/
  | rotate (signal : Signal)
  /-- Writing a record to a stream, on a volume as it is found then, by a request that may have been
  cancelled. -/
  | write (stream : Stream) (volume : Volume) (record : Record) (cancelled : Bool)
  /-- Clearing one signal, or all. -/
  | clear (signal : Option Signal)

namespace Spool

variable (spool : Spool)

/-- The slot of a signal. -/
def key (signal : Signal) : SlotKey := ⟨spool.directory, signal⟩

/-- The sink of a stream. -/
def sink (stream : Stream) (volume : Volume) : FileSink :=
  ⟨stream, spool.directory, spool.maxMb stream, volume⟩

/-- For the records of a signal a sink uses the slot of the signal. -/
theorem key_sink (stream : Stream) (volume : Volume) {record : Record} {signal : Signal}
    (hs : record.signal = signal) :
    (spool.sink stream volume).key record.signal = spool.key signal := by
  rw [hs]
  rfl

/-- The store after a deed, whether that succeeds or fails. -/
def perform (s : Store) : Deed → Store
  | .path signal => (Store.requestPath (spool.key signal) s).value.2
  | .rotate signal => (Store.requestRotation (spool.key signal) s).value.2
  | .write stream volume record cancelled =>
    ((spool.sink stream volume).write record cancelled s).value.2
  | .clear signal => (Store.clear spool.directory signal s).value.2

/-- The store after deeds that are done one after the other. -/
def run (s : Store) (deeds : List Deed) : Store := deeds.foldl spool.perform s

/-- The last deed of a run is performed on what the others leave. -/
theorem run_concat (s : Store) (deeds : List Deed) (deed : Deed) :
    spool.run s (deeds ++ [deed]) = spool.perform (spool.run s deeds) deed := by
  rw [run, List.foldl_append]
  rfl

end Spool

/-- A clock after some more readings have been taken. -/
structure Clock.GoesOn (c c' : Clock) : Prop where
  reading : c'.reading = c.reading
  next : c.next ≤ c'.next

namespace Spool

variable {spool : Spool} {signal : Signal} {s : Store}

/-- What is written to a spool ends as a write does. -/
theorem writes_of_perform (stream : Stream) (volume : Volume) (record : Record)
    (cancelled : Bool) :
    (spool.sink stream volume).Writes record cancelled s
      ((spool.sink stream volume).write record cancelled s).value.1
      (spool.perform s (.write stream volume record cancelled)) :=
  FileSink.writes_of_ends (Task.ends_self _ _)

/-- Work on base paths changes no file. -/
theorem file?_of_enter_bind {α : Type} {key : SlotKey} {next : StoreTask α} {s' : Store}
    {outcome : Except SinkError α}
    (h : (Store.enter key false >>= fun _ => next).Ends s outcome s')
    (hnext : ∀ {s₁ s₂ : Store} {o : Except SinkError α}, next.Ends s₁ o s₂ →
      s₁.files.SameFiles s₂.files) (place : Place) :
    s'.files.file? place = s.files.file? place := by
  have hfiles : s.files.SameFiles s'.files := by
    refine Task.rel_of_ends_bind (fun a b => a.files.SameFiles b.files)
      FileTree.SameFiles.trans h (fun he => ?_) hnext
    rw [(Store.opened_of_enter he).files]
    exact .refl _
  exact hfiles.file?_eq place

/-- Asking for a base path changes no file. -/
theorem file?_path (spool : Spool) (s : Store) (other : Signal) (place : Place) :
    (spool.perform s (.path other)).files.file? place = s.files.file? place := by
  refine file?_of_enter_bind (Task.ends_self _ _) (fun hp => ?_) place
  rcases Store.activePath_cases hp with ⟨_, -, hf⟩ | ⟨-, _, -, rfl⟩
  · exact hf.files
  · exact FileTree.sameFiles_createDirectories _ _

/-- Replacing a base path changes no file. -/
theorem file?_rotate (spool : Spool) (s : Store) (other : Signal) (place : Place) :
    (spool.perform s (.rotate other)).files.file? place = s.files.file? place := by
  refine file?_of_enter_bind (Task.ends_self _ _) (fun hr => ?_) place
  obtain ⟨-, rfl⟩ := Store.ends_rotate_iff.1 hr
  exact .refl _

/-- The clock is read, and not changed otherwise. -/
theorem clock_perform (spool : Spool) (s : Store) (deed : Deed) :
    s.clock.GoesOn (spool.perform s deed).clock := by
  let GoesOn (a b : Store) : Prop := a.clock.GoesOn b.clock
  have trans : ∀ {a b c : Store}, GoesOn a b → GoesOn b c → GoesOn a c := fun hab hbc =>
    ⟨hbc.reading.trans hab.reading, Nat.le_trans hab.next hbc.next⟩
  have framed : ∀ {key : SlotKey} {a b : Store}, Store.Framed key a b → GoesOn a b := fun h =>
    ⟨h.reading, h.next⟩
  have enter : ∀ {key : SlotKey} {cancelled : Bool} {o : Except SinkError Unit} {a b : Store},
      (Store.enter key cancelled).Ends a o b → GoesOn a b := fun {key} {_ _ _ _} he =>
    framed ((Store.opened_of_enter he).framed key)
  cases deed with
  | path other =>
    refine Task.rel_of_ends_bind GoesOn trans (Task.ends_self _ _) enter fun hp => ?_
    rcases Store.activePath_cases hp with ⟨_, -, hf⟩ | ⟨-, _, -, rfl⟩
    · exact framed hf.framed
    · exact ⟨rfl, Nat.le_refl _⟩
  | rotate other =>
    refine Task.rel_of_ends_bind GoesOn trans (Task.ends_self _ _) enter fun hr => ?_
    obtain ⟨-, rfl⟩ := Store.ends_rotate_iff.1 hr
    exact framed (Store.framed_afterRotation _ _)
  | write stream volume record cancelled =>
    exact framed (spool.writes_of_perform stream volume record cancelled).framed
  | clear cleared =>
    have hclock := (Store.Swept.of_clear
      (Task.ends_self (Store.clear spool.directory cleared) s)).clock
    exact ⟨congrArg Clock.reading hclock, Nat.le_of_eq (congrArg Clock.next hclock).symm⟩

/-- Every deed keeps to base paths that are past. -/
theorem confined_perform (h : Store.Confined (spool.key signal) s) (hc : s.clock.Increasing)
    (deed : Deed) : Store.Confined (spool.key signal) (spool.perform s deed) := by
  have hd : ∀ other, (spool.key other).directory = (spool.key signal).directory := fun _ => rfl
  cases deed with
  | path other =>
    exact h.of_enter_bind (Task.ends_self _ _) fun hs₁ _ he => hs₁.of_activePath (hd other) he
  | rotate other =>
    refine h.of_enter_bind (Task.ends_self _ _) fun hs₁ hclock he => ?_
    have hc₁ := hc
    rw [← hclock] at hc₁
    exact hs₁.of_rotate (hd other) hc₁ he
  | write stream volume record cancelled =>
    have hw := spool.writes_of_perform (s := s) stream volume record cancelled
    by_cases hs : record.signal = signal
    · exact h.of_writes hc (spool.key_sink stream volume hs) hw
    · exact (h.of_writes_of_ne hs hw).1
  | clear cleared => exact h.of_swept (Store.Swept.of_clear (Task.ends_self _ _))

/-- A store without a file of a signal in the directory of a spool. A path may be active already, if
a reading of the clock has named it. -/
structure Unused (spool : Spool) (signal : Signal) (s : Store) : Prop where
  increasing : s.clock.Increasing
  proper : s.files.Proper
  named : s.rotation.Named
  active : ∀ base, s.rotation.active? (spool.key signal) = some base →
    (spool.key signal).Past s.clock base
  file?_eq : ∀ name, FileName.belongsTo signal name →
    s.files.file? (spool.directory.place ++ [name]) = none

/-- No base path has a file. -/
theorem Unused.file?_file (h : spool.Unused signal s) (time : Instant) (stream : Stream) :
    s.files.file? ((spool.key signal).file time stream).place = none := by
  rw [SlotKey.file, SlotKey.basePath, FileName.place_ofStream]
  exact h.file?_eq _ (FileName.belongsToStream_iff.1
    (FileName.belongsToStream_ofTime signal time stream)).1

/-- In a store without a file nothing is in use but what is active. -/
theorem Unused.confined (h : spool.Unused signal s) : Store.Confined (spool.key signal) s := by
  have hfile := h.file?_file
  refine ⟨h.proper, h.named, h.active, fun time stream hsome => ?_,
    fun time stream content hc => ?_⟩
  · rw [hfile] at hsome
    cases hsome
  · rw [hfile] at hc
    cases hc

/-- A store without a file tracks empty ledgers. -/
theorem Unused.tracks (h : spool.Unused signal s) :
    Store.Tracks (spool.key signal) (fun _ => []) s :=
  ⟨h.confined, fun _ _ hf => absurd hf List.not_mem_nil, h.file?_file⟩

/-- In the beginning there is no file. -/
theorem unused_empty (spool : Spool) (signal : Signal) {clock : Clock} (hc : clock.Increasing) :
    spool.Unused signal { clock } where
  increasing := hc
  proper _ h := absurd h List.not_mem_nil
  named := Rotation.named_empty
  active _ h := by cases h
  file?_eq name _ := by
    have hnone : ∀ place, ({} : FileTree).file? place = none := by
      intro place
      simp only [FileTree.file?, FileTree.get?]
      cases FileTree.alwaysExists place <;> rfl
    exact hnone _

end Spool

end TelemetrySpool
