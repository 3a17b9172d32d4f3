import TelemetrySpool.Proofs.Files.Growth
import TelemetrySpool.Proofs.Files.Route
import TelemetrySpool.Proofs.Outcome
import TelemetrySpool.Spool.Store

/-!
# Which base path is active

A store is entered, an active path is looked up or named by the clock, and an active path is
replaced. Each of these operations is described once by what it leaves behind: no file changes, no
other key loses its active path, and the clock is read once for each name.
-/

namespace TelemetrySpool

namespace Rotation

variable {r r' : Rotation} {key : SlotKey}

/-- Two rotations agree on the active paths and on being closed. -/
structure Agrees (r r' : Rotation) : Prop where
  active : ∀ key, r'.active? key = r.active? key
  closed : r'.closed = r.closed

/-- Activating a path changes what is active for its key. -/
theorem active?_activate (r : Rotation) (key key' : SlotKey) (path : Option Path) :
    (r.activate key path).active? key' = if key'.id = key.id then path else r.active? key' := by
  rw [active?, activate, slot_set]
  split <;> rfl

/-- What is active depends on the slot that a key leads to. -/
theorem active?_eq_of_id {key' : SlotKey} (r : Rotation) (h : key'.id = key.id) :
    r.active? key' = r.active? key := by
  rw [active?, active?, Rotation.slot, Rotation.slot, h]

/-- Every active path is the base path of its signal at some instant, in the directory of its slot
as one of its keys writes it. -/
def Named (r : Rotation) : Prop :=
  ∀ key path, r.active? key = some path →
    ∃ directory time, directory.route = key.directory.route ∧
      path = FileName.basePath directory key.signal time

/-- Without slots nothing is active. -/
theorem named_empty : ({} : Rotation).Named := fun _ _ h => nomatch h

theorem Named.of_agrees (h : r.Named) (ha : r.Agrees r') : r'.Named := fun key path hp =>
  h key path (by rw [← ha.active]; exact hp)

/-- Base paths are named by instants, so making one active keeps the names. -/
theorem Named.activate (h : r.Named) {path : Path}
    (hp : ∃ time, path = FileName.basePath key.directory key.signal time) :
    (r.activate key (some path)).Named := by
  intro key' path' ha
  rw [active?_activate] at ha
  split at ha
  · next hk =>
    obtain rfl := Option.some.inj ha
    obtain ⟨hroute, hsignal⟩ := SlotId.mk.inj hk
    obtain ⟨time, rfl⟩ := hp
    exact ⟨key.directory, time, hroute.symm, by rw [hsignal]⟩
  · exact h key' path' ha

/-- A slot that is opened is the one that was there. -/
theorem agrees_of_open? (h : r.open? key = .ok r') : r.Agrees r' := by
  unfold open? at h
  split at h
  · cases h
  · split at h
    · cases h
    · obtain rfl := Except.ok.inj h
      refine ⟨fun key' => ?_, rfl⟩
      rw [active?, slot_set]
      split
      · next hk => exact (r.active?_eq_of_id hk).symm
      · rfl

/-- A slot of a concrete signal can be opened unless the rotation has been closed. -/
theorem open?_cases (r : Rotation) (hs : key.signal ≠ .unspecified) :
    (r.closed = true ∧ r.open? key = .error .shutDown) ∨
      (r.closed = false ∧ ∃ r', r.open? key = .ok r' ∧ r.Agrees r') := by
  cases hc : r.closed with
  | true => exact Or.inl ⟨rfl, by rw [open?, if_neg hs, if_pos hc]⟩
  | false =>
    have ho : r.open? key = .ok (r.set key (r.slot key)) := by
      rw [open?, if_neg hs, if_neg (by rw [hc]; decide)]
    exact Or.inr ⟨rfl, _, ho, agrees_of_open? ho⟩

end Rotation

namespace Store

variable {s s' : Store} {key : SlotKey}

/-- A reading of the clock moves it on by one. -/
theorem ends_takeReading_bind_iff {α : Type} {next : Instant → StoreTask α}
    {outcome : Except SinkError α} :
    (takeReading >>= next).Ends s outcome s' ↔
      (next s.clock.now).Ends { s with clock := s.clock.tick } outcome s' := Iff.rfl

/-- What was created stays, also if a directory further down fails. -/
theorem ends_createDirectories_iff {path : Path} {outcome : Except SinkError Unit} :
    (createDirectories path).Ends s outcome s' ↔
      outcome = (s.files.createDirectories path).2.mapError (.file path) ∧
        s' = { s with files := (s.files.createDirectories path).1 } := by
  simp only [Task.Ends, createDirectories, Prod.mk.injEq]
  exact and_congr eq_comm eq_comm

/-- A change of the rotation comes before what follows it. -/
theorem ends_changeRotation_bind_iff {α : Type} {step : Rotation → Rotation}
    {next : Unit → StoreTask α} {outcome : Except SinkError α} :
    (changeRotation step >>= next).Ends s outcome s' ↔
      (next ()).Ends { s with rotation := step s.rotation } outcome s' := Iff.rfl

/-- What work under a key leaves alone: the clock goes on and does not change, no other slot gets
another active path, and no directory goes. -/
structure Framed (key : SlotKey) (s s' : Store) : Prop where
  reading : s'.clock.reading = s.clock.reading
  next : s.clock.next ≤ s'.clock.next
  active : ∀ key', key'.id ≠ key.id → s'.rotation.active? key' = s.rotation.active? key'
  files : s.files.Keeps s'.files

protected theorem Framed.refl (key : SlotKey) (s : Store) : Framed key s s :=
  ⟨rfl, Nat.le_refl _, fun _ _ => rfl, .refl _⟩

protected theorem Framed.trans {a b c : Store} (hab : Framed key a b) (hbc : Framed key b c) :
    Framed key a c :=
  ⟨hbc.reading.trans hab.reading, Nat.le_trans hab.next hbc.next,
    fun key' hk => (hbc.active key' hk).trans (hab.active key' hk), hab.files.trans hbc.files⟩

/-- Two stores differ in the slots that have been opened at most. -/
structure Opened (s s' : Store) : Prop where
  files : s'.files = s.files
  clock : s'.clock = s.clock
  rotation : s.rotation.Agrees s'.rotation

protected theorem Opened.refl (s : Store) : Opened s s := ⟨rfl, rfl, fun _ => rfl, rfl⟩

/-- Opening slots is within the frame of any key. -/
theorem Opened.framed (h : Opened s s') (key : SlotKey) : Framed key s s' where
  reading := by rw [h.clock]
  next := Nat.le_of_eq (by rw [h.clock])
  active key' _ := h.rotation.active key'
  files := by rw [h.files]; exact .refl _

/-- A request is refused after the shutdown, and opens slots before. -/
theorem request_cases (hs : key.signal ≠ .unspecified) {outcome : Except SinkError Unit}
    (h : (request key).Ends s outcome s') :
    (s.rotation.closed = true ∧ outcome = .error .shutDown ∧ s' = s) ∨
      (s.rotation.closed = false ∧ outcome = .ok () ∧ Opened s s') := by
  unfold Task.Ends request at h
  rcases s.rotation.open?_cases hs with ⟨hc, ho⟩ | ⟨hc, r', ho, ha⟩
  · rw [ho] at h
    obtain ⟨rfl, rfl⟩ := Prod.mk.inj h
    exact Or.inl ⟨hc, rfl, rfl⟩
  · rw [ho] at h
    obtain ⟨rfl, rfl⟩ := Prod.mk.inj h
    exact Or.inr ⟨hc, rfl, rfl, rfl, ha⟩

/-- A store is entered unless it has been shut down or the request was cancelled. -/
theorem enter_cases (hs : key.signal ≠ .unspecified) {cancelled : Bool}
    {outcome : Except SinkError Unit} (h : (enter key cancelled).Ends s outcome s') :
    (s.rotation.closed = true ∧ outcome = .error .shutDown ∧ s' = s) ∨
      (s.rotation.closed = false ∧ Opened s s' ∧
        outcome = if cancelled then .error .cancelled else .ok ()) := by
  rw [enter, Task.ends_bind_iff] at h
  rcases h with ⟨_, s₁, hr, hc⟩ | ⟨error, hr, rfl⟩
  · rcases request_cases hs hr with ⟨_, ho, _⟩ | ⟨hopen, _, hs₁⟩
    · cases ho
    · cases cancelled with
      | true =>
        obtain ⟨rfl, rfl⟩ := Task.ends_fail_iff.1 hc
        exact Or.inr ⟨hopen, hs₁, rfl⟩
      | false =>
        obtain ⟨rfl, rfl⟩ := Task.ends_pure_iff.1 hc
        exact Or.inr ⟨hopen, hs₁, rfl⟩
  · rcases request_cases hs hr with ⟨hclosed, ho, hs₁⟩ | ⟨_, ho, _⟩
    · exact Or.inl ⟨hclosed, ho, hs₁⟩
    · cases ho

/-- Whoever asks for a slot opens one at most; there is none of the unspecified signal. -/
theorem opened_of_enter {cancelled : Bool} {outcome : Except SinkError Unit}
    (h : (enter key cancelled).Ends s outcome s') : Opened s s' := by
  by_cases hs : key.signal = .unspecified
  · rw [enter, Task.ends_bind_iff] at h
    have hr : request key s = ⟨(.error .unspecifiedSignal, s), []⟩ := by
      rw [request, Rotation.open?, if_pos hs]
    rcases h with ⟨_, _, hreq, _⟩ | ⟨_, hreq, _⟩
    · rw [Task.Ends, hr] at hreq
      cases (Prod.mk.inj hreq).1
    · rw [Task.Ends, hr] at hreq
      obtain rfl := (Prod.mk.inj hreq).2
      exact .refl s
  · rcases enter_cases hs h with ⟨_, _, rfl⟩ | ⟨_, ho, _⟩
    · exact .refl s'
    · exact ho

/-- A base path that is active, or that the clock has named for a key without one. -/
inductive Finds (key : SlotKey) (s : Store) : Path → Store → Prop
  | active {base : Path} : s.rotation.active? key = some base → Finds key s base s
  | new {files : FileTree} : s.rotation.active? key = none →
      s.files.createDirectories key.directory = (files, .ok ()) →
      Finds key s (FileName.basePath key.directory key.signal s.clock.now)
        { files
          rotation := s.rotation.activate key
            (some (FileName.basePath key.directory key.signal s.clock.now))
          clock := s.clock.tick }

namespace Finds

variable {base : Path}

/-- Finding a base path leaves all files, and may create directories. -/
theorem files (h : Finds key s base s') : s.files.SameFiles s'.files := by
  cases h with
  | active _ => exact .refl _
  | new _ hd =>
    have hf := s.files.sameFiles_createDirectories key.directory
    rw [hd] at hf
    exact hf

/-- What is found is active afterwards. -/
theorem active_eq (h : Finds key s base s') : s'.rotation.active? key = some base := by
  cases h with
  | active ha => exact ha
  | new _ _ => rw [Rotation.active?_activate, if_pos rfl]

/-- A base path that is found is named by an instant. -/
theorem named (h : Finds key s base s') (hn : s.rotation.Named) : s'.rotation.Named := by
  cases h with
  | active _ => exact hn
  | new _ _ => exact hn.activate ⟨_, rfl⟩

/-- Finding a base path stays within the frame of its key. -/
theorem framed (h : Finds key s base s') : Framed key s s' := by
  have hfiles := h.files.toKeeps
  cases h with
  | active _ => exact .refl key s
  | new _ _ =>
    refine ⟨rfl, Nat.le_succ _, fun key' hk => ?_, hfiles⟩
    rw [Rotation.active?_activate, if_neg hk]

/-- What is found depends on the files, the clock and the active path alone. -/
theorem unique {t t' : Store} {base' : Path} (h : Finds key s base s') (h' : Finds key t base' t')
    (hf : s.files = t.files) (hc : s.clock = t.clock)
    (ha : s.rotation.active? key = t.rotation.active? key) :
    base = base' ∧ s'.files = t'.files := by
  cases h with
  | active hs =>
    cases h' with
    | active ht => exact ⟨Option.some.inj (hs.symm.trans (ha.trans ht)), hf⟩
    | new ht _ =>
      rw [hs, ht] at ha
      cases ha
  | new hs hd =>
    cases h' with
    | active ht =>
      rw [hs, ht] at ha
      cases ha
    | new _ hd' =>
      rw [hf, hd'] at hd
      exact ⟨by rw [hc], (Prod.mk.inj hd).1.symm⟩

end Finds

/-- An active path is found or named, unless the directory for it cannot be created. -/
theorem activePath_cases {outcome : Except SinkError Path}
    (h : (activePath key).Ends s outcome s') :
    (∃ base, outcome = .ok base ∧ Finds key s base s') ∨
      (s.rotation.active? key = none ∧
        ∃ error, outcome = .error (.file key.directory error) ∧
          s' = { s with files := (s.files.createDirectories key.directory).1 }) := by
  rw [activePath, Task.ends_look_bind_iff] at h
  cases ha : s.rotation.active? key with
  | some path =>
    rw [ha] at h
    obtain ⟨rfl, rfl⟩ := Task.ends_pure_iff.1 h
    exact Or.inl ⟨path, rfl, .active ha⟩
  | none =>
    rw [ha] at h
    dsimp only at h
    rcases hd : s.files.createDirectories key.directory with ⟨files, done⟩
    rw [Task.ends_bind_iff] at h
    simp only [ends_createDirectories_iff, hd] at h
    cases done with
    | error error =>
      rcases h with ⟨_, _, ⟨ho, _⟩, _⟩ | ⟨_, ⟨ho, rfl⟩, rfl⟩
      · cases ho
      · obtain rfl := Except.error.inj ho
        exact Or.inr ⟨rfl, error, rfl, rfl⟩
    | ok _ =>
      rcases h with ⟨_, _, ⟨_, rfl⟩, h⟩ | ⟨_, ⟨ho, _⟩, _⟩
      · simp only [ends_takeReading_bind_iff, Task.ends_report_bind_iff,
          ends_changeRotation_bind_iff, Task.ends_pure_iff] at h
        obtain ⟨rfl, rfl⟩ := h
        exact Or.inl ⟨_, rfl, .new ha hd⟩
      · cases ho

/-- The path that replaces an active one when the clock is read. -/
def rotated (key : SlotKey) (s : Store) : Path :=
  freshPath key (s.rotation.active? key) freshPathSteps s.clock.now

/-- The store after its active path has been replaced. -/
def afterRotation (key : SlotKey) (s : Store) : Store :=
  { s with rotation := s.rotation.activate key (some (rotated key s)), clock := s.clock.tick }

/-- So does a rotation. -/
theorem framed_afterRotation (key : SlotKey) (s : Store) : Framed key s (afterRotation key s) := by
  refine ⟨rfl, Nat.le_succ _, fun key' hk => ?_, .refl _⟩
  rw [afterRotation, Rotation.active?_activate, if_neg hk]

/-- A rotation never fails. -/
theorem ends_rotate_iff {outcome : Except SinkError Path} :
    (rotate key).Ends s outcome s' ↔ outcome = .ok (rotated key s) ∧ s' = afterRotation key s := by
  rw [rotate, Task.ends_look_bind_iff, ends_takeReading_bind_iff, Task.ends_report_bind_iff,
    ends_changeRotation_bind_iff, Task.ends_pure_iff]
  rfl

/-- A path that replaces an active one is named by some instant. -/
theorem freshPath_eq_basePath (key : SlotKey) (active : Option Path) (fuel : Nat) (time : Instant) :
    ∃ t, freshPath key active fuel time = FileName.basePath key.directory key.signal t := by
  induction fuel generalizing time with
  | zero => exact ⟨time, rfl⟩
  | succ fuel ih =>
    rw [freshPath]
    split
    · exact ih _
    · exact ⟨time, rfl⟩

/-- Without a clash the reading itself names the path. -/
theorem freshPath_of_ne {active : Option Path} {time : Instant} (fuel : Nat)
    (h : active.map Path.route ≠
      some (FileName.basePath key.directory key.signal time).route) :
    freshPath key active fuel time = FileName.basePath key.directory key.signal time := by
  cases fuel with
  | zero => rfl
  | succ fuel => rw [freshPath, if_neg h]

end Store

end TelemetrySpool
