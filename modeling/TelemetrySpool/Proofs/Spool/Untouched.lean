import TelemetrySpool.Proofs.Files.Ancestry
import TelemetrySpool.Proofs.Spool.Twins

/-!
# What commands leave alone

A command works under the keys that it names. The active path and the files of a key of another
signal, or in another place, are the same after it, however it ends. The directories need not be
there before: a command that creates them leaves the files of the key alone too, unless the way to
its directory leads through the place of one of them.
-/

namespace TelemetrySpool

namespace Path

/-- No directory on the way to a path is in the place of a file of a key. -/
def Bypasses (path : Path) (key : SlotKey) : Prop :=
  ∀ names, names <+: components path → key.owns (names.foldl step (FileTree.start path)) = false

/-- What leads to the path is not in the place of such a file either. -/
theorem Bypasses.of_leadsTo {path up : Path} {key : SlotKey} (h : path.Bypasses key)
    (hup : LeadsTo up path) : key.owns up.place = false := by
  rw [place, hup.start]
  exact h _ hup.components

/-- In whichever way a path is written, the way to it is the same. -/
theorem Bypasses.of_route {path path' : Path} {key : SlotKey} (h : path.Bypasses key)
    (hr : path'.route = path.route) : path'.Bypasses key := by
  rintro names ⟨rest, hrest⟩
  have hfilter := components_filter_of_route hr
  rw [← hrest, List.filter_append] at hfilter
  obtain ⟨names', rest', hcomponents, hnames, -⟩ := List.filter_eq_append_iff.1 hfilter.symm
  have hprefix : names' <+: components path := ⟨rest', hcomponents.symm⟩
  rw [← foldl_step_filter, ← hnames, foldl_step_filter, start_of_route hr]
  exact h names' hprefix

/-- A way that never leads back does not lead through the files of its directory. -/
theorem Straight.bypasses {key : SlotKey} (h : Straight key.directory) :
    Bypasses key.directory key := by
  intro names hnames
  rw [SlotKey.owns, Bool.and_eq_false_imp, decide_eq_true_iff]
  intro hplace
  have hlength := (h names hnames).length_le
  rw [← hplace, List.length_dropLast] at hlength
  have hnil : names.foldl step (FileTree.start key.directory) = [] :=
    List.length_eq_zero_iff.1 (by omega)
  rw [hnil]
  rfl

end Path

namespace SlotKey

variable {key key' : SlotKey} {path : Path} {place : Place}

/-- Two keys are of different signals, or in different places. -/
def Elsewhere (key' key : SlotKey) : Prop :=
  key'.signal ≠ key.signal ∨ key'.directory.place ≠ key.directory.place

/-- They have different slots. -/
theorem Elsewhere.id_ne (h : key'.Elsewhere key) : key'.id ≠ key.id := by
  intro he
  obtain ⟨hroute, hsignal⟩ := SlotId.mk.inj he
  exact h.elim (fun hs => hs hsignal) fun hd => hd (Path.place_eq_of_route hroute)

/-- What belongs to one of them does not belong to the other. -/
theorem Elsewhere.owns_eq_false (h : key'.Elsewhere key) (hp : key'.owns place = true) :
    key.owns place = false := by
  cases ho : key.owns place with
  | false => rfl
  | true =>
    refine h.elim (fun hs => absurd (signal_eq_of_owns hp ho) hs) fun hd => ?_
    rw [owns, Bool.and_eq_true, decide_eq_true_iff] at hp ho
    exact absurd (hp.1.symm.trans ho.1) hd

end SlotKey

namespace Store

variable {key key' : SlotKey} {s₀ s s' : Store} {path : Path}

/-- Whether a path is that of a file in a slot, as one of its keys writes it. -/
def FileOf (id : SlotId) (path : Path) : Prop := ∃ key : SlotKey, key.id = id ∧ OwnPath key path

/-- Whether a path is a base path of a slot, as one of its keys writes it. -/
def BaseOf (id : SlotId) (path : Path) : Prop := ∃ key : SlotKey, key.id = id ∧ IsBase key path

/-- Both streams of a base path have files in the slot. -/
theorem BaseOf.fileOf {id : SlotId} {base : Path} (h : BaseOf id base) (stream : Stream) :
    FileOf id (FileName.ofStream base stream) := by
  obtain ⟨key, hk, hb⟩ := h
  exact ⟨key, hk, hb.ownPath stream⟩

/-- What is active for a key is a base path of its slot. -/
theorem baseOf_of_active {r : Rotation} (h : r.Named) {base : Path}
    (hb : r.active? key = some base) : BaseOf key.id base := by
  obtain ⟨directory, time, hroute, rfl⟩ := h key base hb
  exact ⟨⟨directory, key.signal⟩, by rw [SlotKey.id, hroute]; rfl, time, rfl⟩

/-- The place of such a path belongs to all keys of the slot. -/
theorem FileOf.owns_place (h : FileOf key.id path) : key.owns path.place = true := by
  obtain ⟨other, hid, hown⟩ := h
  rw [← SlotKey.owns_eq_of_id hid]
  exact hown.owns_place

/-- What leads to a file of a key leads to its directory, or is in the place of the file. -/
theorem FileOf.owns_eq_false_of_leadsTo (h : FileOf key'.id path) (hk : key'.Elsewhere key)
    (hb : key'.directory.Bypasses key) {up : Path} (hup : Path.LeadsTo up path) :
    key.owns up.place = false := by
  have hplace := hk.owns_eq_false h.owns_place
  obtain ⟨other, hid, name, hn, -, rfl⟩ := h
  have hb' : other.directory.Bypasses key := hb.of_route (congrArg SlotId.route hid)
  have hstart : FileTree.start up = FileTree.start other.directory := by
    rw [hup.start, FileTree.start, FileTree.start, Path.isAbsolute_join _ hn]
  have hcomponents := hup.components
  rw [Path.components_join _ hn] at hcomponents
  rcases List.prefix_concat_iff.1 hcomponents with heq | hinit
  · have hsame : up.place = (Path.join other.directory name).place := by
      rw [Path.place, Path.place, hup.start, heq, Path.components_join _ hn]
    rw [hsame]
    exact hplace
  · exact hb'.of_leadsTo ⟨hinit, hstart⟩

/-- The active path and the files of a key are as they were in `s₀`. No directory has gone, and
names and active paths are as they should be. -/
structure Untouched (key : SlotKey) (s₀ s : Store) : Prop where
  active : s.rotation.active? key = s₀.rotation.active? key
  get?_eq : ∀ place, key.owns place = true → s.files.get? place = s₀.files.get? place
  keeps : s₀.files.Keeps s.files
  proper : s.files.Proper
  named : s.rotation.Named

namespace Untouched

/-- Nothing is touched where nothing is done. -/
protected theorem refl (key : SlotKey) (hp : s.files.Proper) (hn : s.rotation.Named) :
    Untouched key s s :=
  ⟨rfl, fun _ _ => rfl, .refl _, hp, hn⟩

/-- A rotation that keeps the path of the key touches nothing of it. -/
theorem changeRotation (h : Untouched key s₀ s) {r : Rotation} (hn : r.Named)
    (ha : r.active? key = s.rotation.active? key) : Untouched key s₀ { s with rotation := r } :=
  ⟨ha.trans h.active, h.get?_eq, h.keeps, h.proper, hn⟩

/-- Nor do files that keep those of the key. -/
theorem changeFiles (h : Untouched key s₀ s) {files : FileTree} (hk : s.files.Keeps files)
    (hg : ∀ place, key.owns place = true → files.get? place = s.files.get? place) :
    Untouched key s₀ { s with files } :=
  ⟨h.active, fun place hp => (hg place hp).trans (h.get?_eq place hp), h.keeps.trans hk,
    hk.proper h.proper, h.named⟩

/-- Opening slots touches nothing. -/
theorem of_opened (h : Untouched key s₀ s) (ho : Opened s s') : Untouched key s₀ s' where
  active := (ho.rotation.active key).trans h.active
  get?_eq place hp := by
    rw [ho.files]
    exact h.get?_eq place hp
  keeps := by
    rw [ho.files]
    exact h.keeps
  proper := by
    rw [ho.files]
    exact h.proper
  named := h.named.of_agrees ho.rotation

end Untouched

/-! ## Tasks under another key -/

/-- Asking for a lease touches no key. -/
theorem maintains_enter (key' : SlotKey) (cancelled : Bool) :
    (enter key' cancelled).Maintains (Untouched key s₀) fun _ => True :=
  Task.maintains_iff.2 fun _ _ _ h he => ⟨h.of_opened (opened_of_enter he), fun _ _ => trivial⟩

theorem maintains_takeReading : takeReading.Maintains (Untouched key s₀) fun _ => True := by
  refine Task.maintains_iff.2 fun s outcome s' h he => ?_
  obtain ⟨-, rfl⟩ := Prod.mk.inj he
  exact ⟨⟨h.active, h.get?_eq, h.keeps, h.proper, h.named⟩, fun _ _ => trivial⟩

/-- Directories are created beside the files of a key. -/
theorem maintains_createDirectories
    (hup : ∀ up ∈ Path.ancestors path, key.owns up.place = false) :
    (createDirectories path).Maintains (Untouched key s₀) fun _ => True := by
  refine Task.maintains_iff.2 fun s outcome s' h he => ?_
  obtain ⟨-, rfl⟩ := ends_createDirectories_iff.1 he
  have hk := (s.files.sameFiles_createDirectories path).toKeeps
  refine ⟨h.changeFiles hk fun place hp => ?_, fun _ _ => trivial⟩
  refine FileTree.get?_createAlong fun up hm hplace => ?_
  rw [hplace, hup up hm] at hp
  cases hp

/-- A path made active for another key touches nothing. -/
theorem maintains_activate (hk : key'.id ≠ key.id) {base : Option Path}
    (hb : ∀ path, base = some path → IsBase key' path) :
    (changeRotation fun r => r.activate key' base).Maintains (Untouched key s₀)
      fun _ => True := by
  refine Task.maintains_change fun s h => h.changeRotation ?_ ?_
  · cases base with
    | some path => exact h.named.activate (hb path rfl)
    | none =>
      intro other path hp
      rw [Rotation.active?_activate] at hp
      split at hp
      · cases hp
      · exact h.named other path hp
  · rw [Rotation.active?_activate, if_neg hk.symm]

/-- What is found active is a base path of its own key. -/
theorem maintains_look_active (key' : SlotKey) :
    (Task.look (·.rotation.active? key') : StoreTask (Option Path)).Maintains (Untouched key s₀)
      fun active => ∀ base, active = some base → BaseOf key'.id base :=
  Task.maintains_look fun _ h _ hb => baseOf_of_active h.named hb

theorem maintains_ensureSpace (sink : FileSink) (target : Path) (length : Nat) :
    (sink.ensureSpace target length).Maintains (Untouched key s₀) fun _ => True :=
  Task.maintains_iff.2 fun _ _ _ h he =>
    ⟨(FileSink.ensureSpace_cases he).1 ▸ h, fun _ _ => trivial⟩

/-- A step of the files that spares the key may fail or succeed. -/
theorem maintains_changeFiles {step : FileTree → Except FileError FileTree}
    (h : ∀ files files', step files = .ok files' → files.Keeps files' ∧
      ∀ place, key.owns place = true → files'.get? place = files.get? place) :
    (changeFiles path step).Maintains (Untouched key s₀) fun _ => True := by
  refine Task.maintains_iff.2 fun s outcome s' hs he => ⟨?_, fun _ _ => trivial⟩
  unfold Task.Ends changeFiles at he
  split at he
  · next files hf =>
    obtain ⟨-, rfl⟩ := Prod.mk.inj he
    exact hs.changeFiles (h _ _ hf).1 (h _ _ hf).2
  · obtain ⟨-, rfl⟩ := Prod.mk.inj he
    exact hs

section Elsewhere

variable (hk : key'.Elsewhere key)
include hk

/-- A base path is requested without touching another key. -/
theorem maintains_activePath (hb : key'.directory.Bypasses key) :
    (activePath key').Maintains (Untouched key s₀) (BaseOf key'.id) := by
  refine Task.respects_bind (maintains_look_active key') fun active ha => ?_
  cases active with
  | some base => exact Task.respects_pure (ha base rfl)
  | none =>
    refine Task.respects_bind (maintains_createDirectories fun up hm =>
      hb.of_leadsTo (Path.leadsTo_of_mem_ancestors hm)) fun _ _ => ?_
    refine Task.respects_bind maintains_takeReading fun time _ => ?_
    refine Task.respects_bind (Task.respects_report _ _ _) fun _ _ => ?_
    have hbase : IsBase key' (FileName.basePath key'.directory key'.signal time) := ⟨time, rfl⟩
    refine Task.respects_bind (maintains_activate hk.id_ne fun path hp => ?_) fun _ _ => ?_
    · exact Option.some.inj hp ▸ hbase
    · exact Task.respects_pure ⟨key', rfl, hbase⟩

/-- So is a rotation. -/
theorem maintains_rotate : (rotate key').Maintains (Untouched key s₀) (BaseOf key'.id) := by
  refine Task.respects_bind (maintains_look_active key') fun active _ => ?_
  refine Task.respects_bind maintains_takeReading fun time _ => ?_
  refine Task.respects_bind (Task.respects_report _ _ _) fun _ _ => ?_
  have hbase : IsBase key' (freshPath key' active freshPathSteps time) :=
    freshPath_eq_basePath key' active freshPathSteps time
  refine Task.respects_bind (maintains_activate hk.id_ne fun path hp => ?_) fun _ _ => ?_
  · exact Option.some.inj hp ▸ hbase
  · exact Task.respects_pure ⟨key', rfl, hbase⟩

/-! ### Writing -/

/-- The file to write to lies under the sink's key. -/
theorem maintains_target {sink : FileSink} {signal : Signal} (hkey : sink.key signal = key')
    (hb : key'.directory.Bypasses key) :
    (sink.target signal).Maintains (Untouched key s₀) (FileOf key'.id) := by
  subst hkey
  refine Task.respects_bind (maintains_activePath hk hb) fun base hbase => ?_
  refine Task.respects_bind (Task.maintains_read _) fun exceeds _ => ?_
  cases exceeds with
  | true =>
    refine Task.respects_bind (maintains_rotate hk) fun base hbase => ?_
    exact Task.respects_pure (hbase.fileOf sink.stream)
  | false => exact Task.respects_pure (hbase.fileOf sink.stream)

/-- Octets are appended under one key, all of them or some. -/
theorem maintains_appendOnce (sink : FileSink) (hp : FileOf key'.id path) (bytes : Bytes) :
    (sink.appendOnce path bytes).Maintains (Untouched key s₀) fun _ => True := by
  refine Task.respects_bind (Task.maintains_read _) fun broken _ => ?_
  refine Task.respects_bind (maintains_changeFiles fun files files' hf => ?_) fun _ _ => ?_
  · refine ⟨(FileTree.grown_of_append hf).toKeeps, fun place ho => ?_⟩
    refine FileTree.get?_append hf fun hplace => ?_
    rw [hplace, hk.owns_eq_false hp.owns_place] at ho
    cases ho
  · cases broken with
    | some fault => exact Task.respects_fail _
    | none => exact Task.respects_pure trivial

/-- A file is appended to, or created with its directory, under one key. -/
theorem maintains_append (sink : FileSink) (hp : FileOf key'.id path)
    (hb : key'.directory.Bypasses key) (bytes : Bytes) :
    (sink.append path bytes).Maintains (Untouched key s₀) fun _ => True := by
  refine Task.respects_bind (Task.maintains_read _) fun found _ => ?_
  split
  · split
    · next parent hparent =>
      refine Task.respects_bind (maintains_createDirectories fun up hm => ?_)
        fun _ _ => maintains_appendOnce hk sink hp bytes
      have hne : parent ≠ "" := by
        rintro rfl
        exact absurd hm List.not_mem_nil
      exact hp.owns_eq_false_of_leadsTo hk hb
        ((Path.leadsTo_of_mem_ancestors hm).trans (Path.leadsTo_of_parent? hparent hne))
    · exact maintains_appendOnce hk sink hp bytes
  · exact maintains_appendOnce hk sink hp bytes

/-- A write touches nothing of another key, whatever becomes of it. -/
theorem maintains_write {sink : FileSink} {record : Record}
    (hkey : sink.key record.signal = key') (hb : key'.directory.Bypasses key)
    (cancelled : Bool) :
    (sink.write record cancelled).Maintains (Untouched key s₀) fun _ => True := by
  refine Task.respects_bind (maintains_enter _ cancelled) fun _ _ => ?_
  refine Task.respects_bind (maintains_target hk hkey hb) fun target ht => ?_
  refine Task.respects_bind (maintains_ensureSpace sink target _) fun _ _ => ?_
  refine Task.respects_bind (maintains_append hk sink ht hb _) fun _ _ => ?_
  exact Task.respects_report _ _ _

/-! ### Clearing -/

/-- A removal takes a file of its own key. -/
theorem maintains_tryRemove (hp : OwnPath key' path) :
    (tryRemove path).Maintains (Untouched key s₀) fun _ => True := by
  refine Task.maintains_iff.2 fun s outcome s' h he => ⟨?_, fun _ _ => trivial⟩
  rcases ends_tryRemove_iff.1 he with ⟨hr, -, hs⟩ | ⟨rfl, -⟩
  · rw [hs]
    obtain ⟨-, ⟨content, hg⟩, hfiles⟩ := FileTree.remove_eq_ok_iff.1 hr
    have hne : s.files.get? path.place ≠ some .directory := by simp [hg]
    refine h.changeFiles (FileTree.shrunk_of_remove hr).1.toKeeps fun place ho => ?_
    rw [hfiles, FileTree.get?_erase _ _ (FileTree.alwaysExists_eq_false hne), if_neg]
    rintro rfl
    rw [hk.owns_eq_false hp.owns_place] at ho
    cases ho
  · exact h

/-- Clearing one signal spares the others. -/
theorem maintains_clearSignal :
    (clearSignal key'.directory key'.signal).Maintains (Untouched key s₀) fun _ => True := by
  refine Task.respects_bind (maintains_enter key' false) fun _ _ => ?_
  refine Task.respects_bind (maintains_activate hk.id_ne fun _ hb => by cases hb) fun _ _ => ?_
  refine Task.respects_bind (P := fun listed =>
    ∀ paths, listed = .ok paths → ∀ path ∈ paths, OwnPath key' path)
    (Task.maintains_look fun _ h _ hl _ hm => exists_of_mem_list hl h.proper hm) fun _ hl => ?_
  refine Task.respects_bind (Task.respects_ofExcept hl) fun paths hp => ?_
  exact respects_removeAll fun path hm => maintains_tryRemove hk (hp path hm)

end Elsewhere

/-- Clearing several signals spares the rest. -/
theorem maintains_clearSignals {directory : Path} {signals : List Signal}
    (hk : ∀ signal ∈ signals, (SlotKey.mk directory signal).Elsewhere key) :
    (clearSignals directory signals).Maintains (Untouched key s₀) fun _ => True := by
  induction signals with
  | nil => exact Task.respects_pure trivial
  | cons signal signals ih =>
    obtain ⟨hsignal, hsignals⟩ := List.forall_mem_cons.1 hk
    refine Task.respects_bind (maintains_clearSignal hsignal) fun _ _ => ?_
    refine Task.respects_bind (ih hsignals) fun _ _ => ?_
    exact Task.respects_pure trivial

end Store

/-! ## Commands under other keys -/

namespace Command

open Store

/-- The keys that a command works under. -/
def keys : Command → List SlotKey
  | write sink record _ => [sink.key record.signal]
  | path key => [key]
  | rotate key => [key]
  | list _ _ => []
  | clear directory signal => (clearedSignals signal).map (SlotKey.mk directory)

/-- A command works elsewhere, and the way to another directory of its own does not lead through
the files of the key. -/
def Spares (command : Command) (key : SlotKey) : Prop :=
  ∀ key' ∈ command.keys, key'.Elsewhere key ∧
    (key'.directory ≠ key.directory → key'.directory.Bypasses key)

variable {key : SlotKey} {s₀ s : Store}

/-- A command that spares a key creates no directory in the place of its files. -/
theorem Spares.bypasses {command : Command} (h : command.Spares key)
    (hd : key.directory.Bypasses key) {key' : SlotKey} (hm : key' ∈ command.keys) :
    key'.directory.Bypasses key := by
  by_cases he : key'.directory = key.directory
  · rw [he]
    exact hd
  · exact (h key' hm).2 he

/-- A command that spares a key touches nothing of it. -/
theorem maintains_task {command : Command} (h : command.Spares key)
    (hd : key.directory.Bypasses key) :
    command.task.Maintains (Untouched key s₀) fun _ => True := by
  cases command with
  | write sink record cancelled =>
    have hm := List.mem_singleton_self (sink.key record.signal)
    exact Task.respects_bind (maintains_write (h _ hm).1 rfl (h.bypasses hd hm) cancelled)
      fun _ _ => Task.respects_pure trivial
  | path key' =>
    have hm := List.mem_singleton_self key'
    refine Task.respects_bind (Task.respects_bind (maintains_enter _ false) fun _ _ =>
      maintains_activePath (h _ hm).1 (h.bypasses hd hm)) fun _ _ => ?_
    exact Task.respects_pure trivial
  | rotate key' =>
    have hm := List.mem_singleton_self key'
    refine Task.respects_bind (Task.respects_bind (maintains_enter _ false) fun _ _ =>
      maintains_rotate (h _ hm).1) fun _ _ => ?_
    exact Task.respects_pure trivial
  | list directory signal =>
    refine Task.respects_bind (Task.maintains_read _) fun _ _ => ?_
    exact Task.respects_ofExcept fun _ _ => trivial
  | clear directory signal =>
    have hsignals : ∀ other ∈ clearedSignals signal,
        (SlotKey.mk directory other).Elsewhere key := fun other hm =>
      (h _ (List.mem_map_of_mem hm)).1
    refine Task.respects_bind (P := fun _ => True) ?_ fun _ _ => Task.respects_pure trivial
    refine Task.respects_bind (maintains_clearSignals hsignals) fun _ _ => ?_
    refine Task.respects_bind (Task.respects_report _ _ _) fun _ _ => ?_
    exact Task.respects_pure trivial

/-- The store that commands leave which are done one after the other. -/
def after (commands : List Command) (s : Store) : Store :=
  commands.foldl (fun s command => (command.task s).value.2) s

/-- Commands that spare a key leave its active path and its files alone. -/
theorem untouched_after {commands : List Command} (h : ∀ command ∈ commands, command.Spares key)
    (hd : key.directory.Bypasses key) (hs : Untouched key s₀ s) :
    Untouched key s₀ (after commands s) := by
  induction commands generalizing s with
  | nil => exact hs
  | cons command commands ih =>
    obtain ⟨hcommand, hcommands⟩ := List.forall_mem_cons.1 h
    exact ih hcommands
      (Task.maintains_iff.1 (maintains_task hcommand hd) s _ _ hs (Task.ends_self _ s)).1

end Command

end TelemetrySpool
