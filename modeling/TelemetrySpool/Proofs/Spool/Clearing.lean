import TelemetrySpool.Proofs.Files.Removal
import TelemetrySpool.Proofs.Spool.Base
import TelemetrySpool.Proofs.Spool.Naming

/-!
# What clearing leaves behind

A signal that has been cleared has no active path and no file that could be reached, while other
signals keep their active paths and every file of another name stays as it was. The clock is not
read. A clear that fails has done a part of this: it may have left files, but it has changed none.
-/

namespace TelemetrySpool.Store

open FileTree (Removals Shrunk)

variable {s s' s'' : Store} {directory : Path}

/-- A removal succeeds, or its error is kept for later, and nothing is changed then. -/
theorem ends_tryRemove_iff {path : Path} {outcome : Except SinkError (Option FileError)} :
    (tryRemove path).Ends s outcome s' ↔
      (s.files.remove path = .ok s'.files ∧ outcome = .ok none ∧
        s' = { s with files := s'.files }) ∨
      (s' = s ∧ ∃ error, s.files.remove path = .error error ∧
        outcome = .ok (if error = .notFound then none else some error)) := by
  unfold Task.Ends tryRemove
  cases hr : s.files.remove path with
  | ok files =>
    simp only [Prod.mk.injEq, Except.ok.injEq, reduceCtorEq, false_and, exists_false, and_false,
      or_false]
    constructor
    · rintro ⟨rfl, rfl⟩
      exact ⟨rfl, rfl, rfl⟩
    · rintro ⟨rfl, rfl, hs⟩
      exact ⟨rfl, hs.symm⟩
  | error error =>
    cases error <;> simp [eq_comm, and_comm]

/-- A file that is gone has been removed, or was not there. -/
def Gone (path : Path) (s s' : Store) : Prop :=
  (s.files.remove path = .ok s'.files ∧ s' = { s with files := s'.files }) ∨
    (s.files.remove path = .error .notFound ∧ s' = s)

/-- A try that finds no failure leaves the file gone, and any other changes nothing. -/
theorem tryRemove_cases {path : Path} {found : Option FileError}
    (h : (tryRemove path).Ends s (.ok found) s') :
    (found = none ∧ Gone path s s') ∨ (s' = s ∧ ∃ error, found = some error) := by
  rcases ends_tryRemove_iff.1 h with ⟨hr, ho, hs⟩ | ⟨rfl, error, hr, ho⟩
  · exact .inl ⟨Except.ok.inj ho, .inl ⟨hr, hs⟩⟩
  · by_cases he : error = .notFound
    · rw [if_pos he] at ho
      exact .inl ⟨Except.ok.inj ho, .inr ⟨he ▸ hr, rfl⟩⟩
    · rw [if_neg he] at ho
      exact .inr ⟨rfl, error, Except.ok.inj ho⟩

/-- A file whose removal has succeeded is gone. -/
theorem gone_of_removeFrom {path : Path} {left : Nat}
    (h : (removeFrom path left).Ends s (.ok ()) s') : Gone path s s' := by
  induction left with
  | zero =>
    rw [removeFrom, Task.ends_bind_ok_iff] at h
    obtain ⟨found, s₁, ht, h⟩ := h
    rcases tryRemove_cases ht with ⟨rfl, hg⟩ | ⟨-, error, rfl⟩
    · obtain ⟨-, rfl⟩ := Task.ends_pure_iff.1 h
      exact hg
    · cases (Task.ends_fail_iff.1 h).1
  | succ left ih =>
    rw [removeFrom, Task.ends_bind_ok_iff] at h
    obtain ⟨found, s₁, ht, h⟩ := h
    rcases tryRemove_cases ht with ⟨rfl, hg⟩ | ⟨rfl, error, rfl⟩
    · obtain ⟨-, rfl⟩ := Task.ends_pure_iff.1 h
      exact hg
    · exact ih (Task.ends_report_bind_iff.1 h)

/-- Whether a file that is found can be reached by a path. -/
def Reaches (files : FileTree) (path : Path) : Prop :=
  ∀ content, files.file? path.place = some content → files.resolve path = .ok path.place

/-- A path still reaches its directory when files are gone. -/
theorem Reaches.of_shrunk {files files' : FileTree} {gone : Place → Prop} {path : Path}
    (h : Reaches files path) (hs : Shrunk files files' gone) : Reaches files' path := by
  intro content hc
  rcases hs.file?_eq path.place with he | ⟨-, he⟩
  · exact FileTree.resolve_mono hs.directory (h content (he ▸ hc))
  · rw [he] at hc
    cases hc

/-- A file that is gone cannot be found any more, if it could be reached. -/
theorem Gone.shrunk {path : Path} (h : Gone path s s') :
    s' = { s with files := s'.files } ∧ Shrunk s.files s'.files (· = path.place) ∧
      (Reaches s.files path → s'.files.file? path.place = none) := by
  rcases h with ⟨hrem, hs⟩ | ⟨hrem, rfl⟩
  · obtain ⟨hsh, hn⟩ := FileTree.shrunk_of_remove hrem
    exact ⟨hs, hsh, fun _ => hn⟩
  · refine ⟨rfl, .refl _ _, fun hreach => ?_⟩
    cases hf : s'.files.file? path.place with
    | none => rfl
    | some content =>
      rw [← hf]
      exact FileTree.file?_of_remove_notFound hrem (hreach content hf)

/-- Of files that are removed one after the other none is left. -/
theorem removeAll_cases {paths : List Path} {count : Nat}
    (h : (removeAll paths).Ends s (.ok count) s') :
    s' = { s with files := s'.files } ∧
      Shrunk s.files s'.files (fun place => ∃ path ∈ paths, place = path.place) ∧
      ∀ path ∈ paths, Reaches s.files path → s'.files.file? path.place = none := by
  induction paths generalizing s count with
  | nil =>
    obtain ⟨-, rfl⟩ := Task.ends_pure_iff.1 h
    exact ⟨rfl, .refl _ _, fun _ hp => absurd hp List.not_mem_nil⟩
  | cons path paths ih =>
    rw [removeAll, Task.ends_bind_ok_iff] at h
    obtain ⟨_, s₁, hr, h⟩ := h
    rw [Task.ends_bind_ok_iff] at h
    obtain ⟨_, s₂, ha, h⟩ := h
    obtain ⟨-, rfl⟩ := Task.ends_pure_iff.1 h
    obtain ⟨hs, hshrunk, hgone⟩ := ih ha
    obtain ⟨hs₁, hsh, hn⟩ := (gone_of_removeFrom hr).shrunk
    refine ⟨?_, ?_, ?_⟩
    · rw [hs, hs₁]
    · refine Shrunk.trans (hsh.mono fun place hp => ?_) (hshrunk.mono fun place hp => ?_)
      · exact ⟨path, List.mem_cons_self, hp⟩
      · obtain ⟨other, hm, hp⟩ := hp
        exact ⟨other, List.mem_cons_of_mem _ hm, hp⟩
    · intro other hm hreach
      rcases List.mem_cons.1 hm with rfl | hm
      · exact hshrunk.file?_eq_none (hn hreach)
      · exact hgone other hm (hreach.of_shrunk hsh)

/-- The places of the files of some signals in a directory. -/
def OwnPlace (directory : Path) (signals : List Signal) (place : Place) : Prop :=
  ∃ signal ∈ signals, ∃ name, FileName.belongsTo signal name ∧ place = directory.place ++ [name]

/-- What is left after some signals have been cleared. -/
structure Cleared (directory : Path) (signals : List Signal) (s s' : Store) : Prop where
  clock : s'.clock = s.clock
  active : ∀ key, s'.rotation.active? key =
    if key.directory.route = directory.route ∧ key.signal ∈ signals then none
    else s.rotation.active? key
  files : s.files.Proper → Shrunk s.files s'.files (OwnPlace directory signals)
  gone : s.files.Proper → directory ≠ "" → ∀ signal ∈ signals, ∀ name, Path.IsPlain name →
    FileName.belongsTo signal name → Reaches s.files (Path.join directory name) →
      s'.files.file? (directory.place ++ [name]) = none

namespace Cleared

/-- Nothing is cleared without a signal. -/
theorem nil (directory : Path) (s : Store) : Cleared directory [] s s :=
  ⟨rfl, fun key => by simp, fun _ => .refl _ _, fun _ _ _ hs => absurd hs List.not_mem_nil⟩

/-- Signals are cleared one after the other. -/
theorem append {signals signals' : List Signal} (h : Cleared directory signals s s')
    (h' : Cleared directory signals' s' s'') : Cleared directory (signals ++ signals') s s'' where
  clock := h'.clock.trans h.clock
  active key := by
    rw [h'.active, h.active]
    by_cases hd : key.directory.route = directory.route
    · by_cases ha : key.signal ∈ signals
      · simp [hd, ha]
      · simp [hd, ha]
    · simp [hd]
  files hp := by
    refine Shrunk.trans ((h.files hp).mono ?_) ((h'.files ((h.files hp).proper hp)).mono ?_)
    · rintro place ⟨signal, hs, hn⟩
      exact ⟨signal, List.mem_append_left _ hs, hn⟩
    · rintro place ⟨signal, hs, hn⟩
      exact ⟨signal, List.mem_append_right _ hs, hn⟩
  gone hp hd signal hs name hn hb hr := by
    have hsh := h.files hp
    rcases List.mem_append.1 hs with hs | hs
    · exact (h'.files (hsh.proper hp)).file?_eq_none (h.gone hp hd signal hs name hn hb hr)
    · exact h'.gone (hsh.proper hp) hd signal hs name hn hb (hr.of_shrunk hsh)

end Cleared

/-- A name of a signal that is listed in a proper tree is plain. -/
theorem isPlain_of_listed {files : FileTree} (hp : files.Proper) {signal : Signal} {name : String}
    (hb : FileName.belongsTo signal name)
    (hm : name ∈ files.entries.filterMap (FileTree.childName? directory.place)) :
    Path.IsPlain name := by
  obtain ⟨entry, he⟩ := FileTree.mem_childNames_iff.1 hm
  exact FileName.isPlain_of_belongsTo hb
    ((hp _ he).noSlash (FileName.ne_of_belongsTo hb (by decide)))

/-- What is listed are the names that belong to the signal, behind the directory. -/
theorem mem_list_iff {files : FileTree} {signal : Signal} {paths : List Path}
    (h : list files directory signal = .ok paths) (path : Path) :
    path ∈ paths ↔ ∃ names, files.list directory = .ok names ∧
      ∃ name ∈ names, FileName.belongsTo signal name ∧ Path.join directory name = path := by
  unfold list at h
  cases hl : files.list directory with
  | error error =>
    rw [hl] at h
    cases error with
    | notFound =>
      obtain rfl := Except.ok.inj h
      simp
    | _ => cases h
  | ok names =>
    rw [hl] at h
    obtain rfl := Except.ok.inj h
    simp only [List.mem_map, List.mem_mergeSort, List.mem_filter, Except.ok.injEq,
      exists_eq_left', and_assoc]

/-- What is listed for a signal in a proper tree are plain names of it. -/
theorem exists_of_mem_list {files : FileTree} {signal : Signal} {paths : List Path}
    (h : list files directory signal = .ok paths) (hp : files.Proper) {path : Path}
    (hm : path ∈ paths) : ∃ name, Path.IsPlain name ∧ FileName.belongsTo signal name ∧
      path = Path.join directory name := by
  obtain ⟨names, hn, name, hmem, hb, rfl⟩ := (mem_list_iff h path).1 hm
  rw [(FileTree.list_eq_ok_iff.1 hn).2] at hmem
  exact ⟨name, isPlain_of_listed hp hb hmem, hb, rfl⟩

/-- The files that are listed for a signal are its own. -/
theorem ownPlace_of_mem_list {files : FileTree} {signal : Signal} {paths : List Path}
    (h : list files directory signal = .ok paths) (hp : files.Proper) {path : Path}
    (hm : path ∈ paths) : OwnPlace directory [signal] path.place := by
  obtain ⟨name, hn, hb, rfl⟩ := exists_of_mem_list h hp hm
  exact ⟨signal, List.mem_singleton_self _, name, hb, Path.place_join _ hn⟩

/-- A file of a signal is listed if it can be reached. -/
theorem mem_list_of_file? {files : FileTree} {signal : Signal} {paths : List Path}
    (h : list files directory signal = .ok paths) (hd : directory ≠ "") {name : String}
    (hn : Path.IsPlain name) (hb : FileName.belongsTo signal name) {content : Bytes}
    (hf : files.file? (Path.join directory name).place = some content)
    (hr : Reaches files (Path.join directory name)) : Path.join directory name ∈ paths := by
  have hstat := FileTree.stat_eq_ok_iff.2
    (FileTree.resolve_directory_of_join hn hd (hr content hf))
  refine (mem_list_iff h _).2 ⟨_, FileTree.list_eq_ok_iff.2 ⟨hstat, rfl⟩, name, ?_, hb, rfl⟩
  refine FileTree.mem_childNames_iff.2 ⟨.file content, ?_⟩
  rw [← Path.place_join directory hn]
  exact FileTree.mem_entries_of_file? hf

/-- Clearing a signal that succeeds takes the files that its listing selects. -/
theorem clearSignal_cases {signal : Signal} {count : Nat}
    (h : (clearSignal directory signal).Ends s (.ok count) s') :
    Cleared directory [signal] s s' := by
  rw [clearSignal] at h
  rw [Task.ends_bind_ok_iff] at h
  obtain ⟨_, s₁, he, h⟩ := h
  rw [ends_changeRotation_bind_iff, Task.ends_look_bind_iff, Task.ends_bind_ok_iff] at h
  obtain ⟨paths, s₂, hlook, h⟩ := h
  obtain ⟨hlist, rfl⟩ := Task.ends_ofExcept_iff.1 hlook
  obtain ⟨hs', hshrunk, hgone⟩ := removeAll_cases h
  have hopened := opened_of_enter he
  have hfiles : s₁.files = s.files := hopened.files
  dsimp only at hlist hshrunk hgone hs'
  rw [hfiles] at hlist hshrunk hgone
  refine ⟨?_, fun key => ?_, fun hp => ?_, fun hp hd signal' hs name hn hb hr => ?_⟩
  · rw [hs']
    exact hopened.clock
  · rw [hs']
    dsimp only
    rw [Rotation.active?_activate, hopened.rotation.active]
    obtain ⟨d, c⟩ := key
    simp [SlotKey.id, SlotId.mk.injEq]
  · refine hshrunk.mono ?_
    rintro place ⟨path, hm, rfl⟩
    exact ownPlace_of_mem_list hlist.symm hp hm
  · obtain rfl := List.mem_singleton.1 hs
    rw [← Path.place_join directory hn]
    cases hf : s.files.file? (Path.join directory name).place with
    | none => exact hshrunk.file?_eq_none hf
    | some content => exact hgone _ (mem_list_of_file? hlist.symm hd hn hb hf hr) hr

/-- Clearing signals one after the other takes what their listings select together. -/
theorem clearSignals_cases {signals : List Signal} {count : Nat}
    (h : (clearSignals directory signals).Ends s (.ok count) s') :
    Cleared directory signals s s' := by
  induction signals generalizing s count with
  | nil =>
    obtain ⟨-, rfl⟩ := Task.ends_pure_iff.1 h
    exact .nil directory s'
  | cons signal signals ih =>
    rw [clearSignals, Task.ends_bind_ok_iff] at h
    obtain ⟨_, s₁, hc, h⟩ := h
    rw [Task.ends_bind_ok_iff] at h
    obtain ⟨_, s₂, ha, h⟩ := h
    obtain ⟨-, rfl⟩ := Task.ends_pure_iff.1 h
    exact (clearSignal_cases hc).append (ih ha)

/-- The signals that are cleared when one is asked for, or all. -/
def clearedSignals (signal : Option Signal) : List Signal :=
  signal.elim Signal.concrete fun signal => [signal]

/-- A clear that succeeds has cleared what it was asked for. -/
theorem clear_cases {signal : Option Signal} {count : Nat}
    (h : (clear directory signal).Ends s (.ok count) s') :
    Cleared directory (clearedSignals signal) s s' := by
  rw [clear, Task.ends_bind_ok_iff] at h
  obtain ⟨_, s₁, hc, h⟩ := h
  rw [Task.ends_report_bind_iff] at h
  obtain ⟨-, rfl⟩ := Task.ends_pure_iff.1 h
  exact clearSignals_cases hc

/-! ## Clears that may fail -/

/-- Files have been removed in some places, and nothing else has changed. -/
def Removed (gone : Place → Prop) (s s' : Store) : Prop :=
  s' = { s with files := s'.files } ∧ Removals gone s.files s'.files

namespace Removed

variable {gone gone' : Place → Prop}

protected theorem refl (gone : Place → Prop) (s : Store) : Removed gone s s := ⟨rfl, .refl⟩

protected theorem trans (h : Removed gone s s') (h' : Removed gone s' s'') : Removed gone s s'' :=
  ⟨by rw [h'.1, h.1], h.2.trans h'.2⟩

/-- What has been removed within some places has been so within any larger set. -/
theorem mono (h : Removed gone s s') (hg : ∀ place, gone place → gone' place) :
    Removed gone' s s' := ⟨h.1, h.2.mono hg⟩

/-- A single removal takes one place at most. -/
theorem of_tryRemove {path : Path} {outcome : Except SinkError (Option FileError)}
    (h : (tryRemove path).Ends s outcome s') : Removed (· = path.place) s s' := by
  rcases ends_tryRemove_iff.1 h with ⟨hr, -, hs⟩ | ⟨rfl, -⟩
  · exact ⟨hs, .single ⟨path, rfl, hr⟩⟩
  · exact .refl _ _

/-- So do repeated ones. -/
theorem of_removeFrom {path : Path} {left : Nat} {outcome : Except SinkError Unit}
    (h : (removeFrom path left).Ends s outcome s') : Removed (· = path.place) s s' := by
  induction left generalizing s s' outcome with
  | zero =>
    refine Task.rel_of_ends_bind (Removed _) Removed.trans h of_tryRemove
      fun {found _ _ _} hf => ?_
    cases found with
    | none => exact (Task.ends_pure_iff.1 hf).2 ▸ .refl _ _
    | some error => exact (Task.ends_fail_iff.1 hf).2 ▸ .refl _ _
  | succ left ih =>
    refine Task.rel_of_ends_bind (Removed _) Removed.trans h of_tryRemove
      fun {found _ _ _} hf => ?_
    cases found with
    | none => exact (Task.ends_pure_iff.1 hf).2 ▸ .refl _ _
    | some error => exact ih (Task.ends_report_bind_iff.1 hf)

/-- Removing paths takes their places at most. -/
theorem of_removeAll {paths : List Path} {outcome : Except SinkError Nat}
    (h : (removeAll paths).Ends s outcome s') :
    Removed (fun place => ∃ path ∈ paths, place = path.place) s s' := by
  induction paths generalizing s s' outcome with
  | nil => exact (Task.ends_pure_iff.1 h).2 ▸ .refl _ _
  | cons path paths ih =>
    refine Task.rel_of_ends_bind (Removed _) Removed.trans h
      (fun hr => (of_removeFrom hr).mono ?_) fun ha => ?_
    · exact fun place hp => ⟨path, List.mem_cons_self, hp⟩
    refine Task.rel_of_ends_bind (Removed _) Removed.trans ha (fun hr => (ih hr).mono ?_)
      fun hp => ?_
    · rintro place ⟨other, hm, hp⟩
      exact ⟨other, List.mem_cons_of_mem _ hm, hp⟩
    · exact (Task.ends_pure_iff.1 hp).2 ▸ .refl _ _

end Removed

/-- Nothing but files has gone, and none that does not satisfy `gone`. -/
def Lost (gone : Place → Prop) (s s' : Store) : Prop :=
  s' = { s with files := s'.files } ∧ Shrunk s.files s'.files gone

/-- What is lost by a removal of paths lies in their places. -/
theorem Lost.of_removeAll {paths : List Path} {outcome : Except SinkError Nat}
    (h : (removeAll paths).Ends s outcome s') :
    Lost (fun place => ∃ path ∈ paths, place = path.place) s s' :=
  ⟨(Removed.of_removeAll h).1, (Removed.of_removeAll h).2.shrunk⟩

/-- What the clear of one signal keeps to, and what can be said of several clears in a row. -/
structure Sweeping (directory : Path) (r : List Signal → Store → Store → Prop) : Prop where
  refl : ∀ signals s, r signals s s
  trans : ∀ {signals s s' s''}, r signals s s' → r signals s' s'' → r signals s s''
  mono : ∀ {signals signals' s s'}, r signals s s' → (∀ signal ∈ signals, signal ∈ signals') →
    r signals' s s'
  clearSignal : ∀ {signal s outcome s'}, (clearSignal directory signal).Ends s outcome s' →
    r [signal] s s'

namespace Sweeping

variable {r : List Signal → Store → Store → Prop}

/-- What holds of clearing a signal holds of clearing several. -/
theorem clearSignals (h : Sweeping directory r) {signals : List Signal}
    {outcome : Except SinkError Nat}
    (hends : (Store.clearSignals directory signals).Ends s outcome s') : r signals s s' := by
  induction signals generalizing s s' outcome with
  | nil => exact (Task.ends_pure_iff.1 hends).2 ▸ h.refl _ _
  | cons signal signals ih =>
    refine Task.rel_of_ends_bind (r _) h.trans hends
      (fun hc => h.mono (h.clearSignal hc) ?_) fun ha => ?_
    · exact fun _ hm => List.mem_singleton.1 hm ▸ List.mem_cons_self
    refine Task.rel_of_ends_bind (r _) h.trans ha (fun hc => h.mono (ih hc) ?_) fun hp => ?_
    · exact fun _ hm => List.mem_cons_of_mem _ hm
    · exact (Task.ends_pure_iff.1 hp).2 ▸ h.refl _ _

/-- However a clear ends, it keeps to what the clears of its signals keep to. -/
theorem clear (h : Sweeping directory r) {target : Option Signal}
    {outcome : Except SinkError Nat} (hends : (Store.clear directory target).Ends s outcome s') :
    r (clearedSignals target) s s' := by
  refine Task.rel_of_ends_bind (r _) h.trans hends h.clearSignals fun hr => ?_
  rw [Task.ends_report_bind_iff] at hr
  exact (Task.ends_pure_iff.1 hr).2 ▸ h.refl _ _

end Sweeping

/-- What a clear keeps to, however it ends: the clock is not read, no path becomes active, and
nothing goes but files of the signals. -/
structure Swept (directory : Path) (signals : List Signal) (s s' : Store) : Prop where
  clock : s'.clock = s.clock
  active : ∀ key base, s'.rotation.active? key = some base → s.rotation.active? key = some base
  files : s.files.Proper → Shrunk s.files s'.files (OwnPlace directory signals)

namespace Swept

variable {signals signals' : List Signal}

protected theorem refl (directory : Path) (signals : List Signal) (s : Store) :
    Swept directory signals s s := ⟨rfl, fun _ _ h => h, fun _ => .refl _ _⟩

protected theorem trans (h : Swept directory signals s s') (h' : Swept directory signals s' s'') :
    Swept directory signals s s'' where
  clock := h'.clock.trans h.clock
  active key base hb := h.active key base (h'.active key base hb)
  files hp := (h.files hp).trans (h'.files ((h.files hp).proper hp))

/-- A sweep of some signals is one of any more. -/
theorem mono (h : Swept directory signals s s') (hs : ∀ signal ∈ signals, signal ∈ signals') :
    Swept directory signals' s s' where
  clock := h.clock
  active := h.active
  files hp := (h.files hp).mono fun _ ⟨signal, hm, hn⟩ => ⟨signal, hs signal hm, hn⟩

/-- Opening slots sweeps nothing. -/
theorem of_opened (h : Opened s s') : Swept directory signals s s' where
  clock := h.clock
  active key base hb := by rwa [h.rotation.active] at hb
  files _ := by rw [h.files]; exact .refl _ _

/-- Clearing one signal sweeps it, also if it fails half way. -/
theorem of_clearSignal {signal : Signal} {outcome : Except SinkError Nat}
    (h : (clearSignal directory signal).Ends s outcome s') :
    Swept directory [signal] s s' := by
  refine Task.rel_of_ends_bind (Swept _ _) Swept.trans h (fun he => .of_opened (opened_of_enter he))
    fun {_ _ s₁ s₂} hc => ?_
  rw [ends_changeRotation_bind_iff, Task.ends_look_bind_iff, Task.ends_bind_iff] at hc
  have hforget : ∀ key base,
      (s₁.rotation.activate ⟨directory, signal⟩ none).active? key = some base →
        s₁.rotation.active? key = some base := by
    intro key base hb
    rw [Rotation.active?_activate] at hb
    split at hb
    · cases hb
    · exact hb
  rcases hc with ⟨paths, _, hl, hr⟩ | ⟨_, hl, -⟩
  · obtain ⟨hlist, rfl⟩ := Task.ends_ofExcept_iff.1 hl
    obtain ⟨hs, hsh⟩ := Lost.of_removeAll hr
    refine ⟨by rw [hs], fun key base hb => ?_, fun hp => hsh.mono ?_⟩
    · rw [hs] at hb
      exact hforget key base hb
    · rintro place ⟨path, hm, rfl⟩
      exact ownPlace_of_mem_list hlist.symm hp hm
  · obtain ⟨-, rfl⟩ := Task.ends_ofExcept_iff.1 hl
    exact ⟨rfl, hforget, fun _ => .refl _ _⟩

/-- A clear that succeeds sweeps. -/
theorem of_cleared (h : Cleared directory signals s s') : Swept directory signals s s' where
  clock := h.clock
  active key base hb := by
    rw [h.active] at hb
    split at hb
    · cases hb
    · exact hb
  files := h.files

/-- Sweeps follow each other. -/
theorem sweeping (directory : Path) : Sweeping directory (Swept directory) :=
  ⟨.refl directory, .trans, .mono, of_clearSignal⟩

/-- A clear sweeps the signals it is for. -/
theorem of_clear {target : Option Signal} {outcome : Except SinkError Nat}
    (h : (clear directory target).Ends s outcome s') :
    Swept directory (clearedSignals target) s s' :=
  Sweeping.clear (sweeping directory) h

end Swept

end TelemetrySpool.Store
