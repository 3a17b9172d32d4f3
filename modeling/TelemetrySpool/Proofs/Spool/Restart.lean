import Mathlib.Algebra.Ring.Nat
import TelemetrySpool.Proofs.Sink.Progress
import TelemetrySpool.Proofs.Spool.Founding
import TelemetrySpool.Proofs.Spool.Untouched

/-!
# Starting afresh

A clear whose files can all be listed and removed succeeds. It removes exactly these files and
counts them, and it forgets the active paths of its signals. The next line of such a signal then
starts a new base path, named by the clock, in a file of its own, also if the clock gives a name
again that has just been removed. For this the files have to be in sight of the listing: a directory
that is not found counts as empty, but one whose path leads back over a directory that is missing
can hold files all the same, and these are found when the missing directory has been created.
-/

namespace TelemetrySpool

namespace Store

variable {s s' : Store} {directory : Path} {key : SlotKey}

/-! ## A clear that succeeds -/

/-- A file that can be removed is removed. -/
theorem ends_remove {path : Path} (h : s.files.Removable path) :
    (remove path).Ends s (.ok ()) { s with files := s.files.erase path.place } := by
  refine Task.ends_bind_ok_iff.2 ⟨none, _, ends_tryRemove_iff.2 ?_, Task.ends_pure_iff.2 ⟨rfl, rfl⟩⟩
  cases hg : s.files.get? path.place with
  | none =>
    refine .inr ⟨by rw [FileTree.erase_of_get?_none hg], .notFound, ?_, by simp⟩
    simp only [FileTree.remove, h.1, bind, Except.bind, hg]
  | some entry =>
    cases entry with
    | directory => exact absurd hg h.2
    | file content => exact .inl ⟨FileTree.remove_eq_ok_iff.2 ⟨h.1, ⟨content, hg⟩, rfl⟩, rfl, rfl⟩

/-- Files that can be removed are removed and counted. -/
theorem ends_removeAll {paths : List Path} (h : ∀ path ∈ paths, s.files.Removable path) :
    (removeAll paths).Ends s (.ok paths.length)
      { s with files := s.files.without (paths.map Path.place) } := by
  induction paths generalizing s with
  | nil =>
    rw [List.map_nil, FileTree.without_nil]
    exact Task.ends_pure_iff.2 ⟨rfl, rfl⟩
  | cons path paths ih =>
    obtain ⟨hpath, hpaths⟩ := List.forall_mem_cons.1 h
    have hfirst : ∀ place ∈ [path.place], s.files.get? place ≠ some .directory := by
      simpa using hpath.2
    have htrees : s.files.without ((path :: paths).map Path.place) =
        (s.files.erase path.place).without (paths.map Path.place) := by
      rw [← FileTree.without_singleton, FileTree.without_append, List.map_cons,
        List.singleton_append]
    rw [htrees]
    refine Task.ends_bind_ok_iff.2 ⟨(), _, ends_remove hpath, ?_⟩
    refine Task.ends_bind_ok_iff.2 ⟨paths.length, _, ih fun other hm => ?_, ?_⟩
    · rw [← FileTree.without_singleton]
      exact (hpaths other hm).without hfirst
    · exact Task.ends_pure_iff.2 ⟨rfl, rfl⟩

/-- The listing of a signal does not change when the listed files of another one go. -/
theorem list_without {files : FileTree} (hp : files.Proper) {signal other : Signal}
    (hne : other ≠ signal) {paths : List Path} (hl : list files directory signal = .ok paths)
    (hr : ∀ path ∈ paths, files.Removable path) :
    list (files.without (paths.map Path.place)) directory other = list files directory other := by
  cases hd : files.list directory with
  | error error =>
    -- Nothing was listed, so nothing goes.
    obtain rfl : paths = [] := List.eq_nil_iff_forall_not_mem.2 fun path hm => by
      obtain ⟨names, hn, -⟩ := (mem_list_iff hl path).1 hm
      rw [hd] at hn
      cases hn
    rw [List.map_nil, FileTree.without_nil]
  | ok names =>
    have hstands : files.Stands (SlotKey.mk directory other).directory :=
      .inr (FileTree.list_eq_ok_iff.1 hd).1
    have hdirs : ∀ place ∈ paths.map Path.place, files.get? place ≠ some .directory := by
      intro place hm
      obtain ⟨path, hpath, rfl⟩ := List.mem_map.1 hm
      exact (hr path hpath).2
    have hother : ∀ place, (SlotKey.mk directory other).owns place = true →
        decide (place ∉ paths.map Path.place) = true := by
      intro place ho
      rw [decide_eq_true_iff]
      intro hm
      obtain ⟨path, hpath, rfl⟩ := List.mem_map.1 hm
      obtain ⟨c, hc, name, hb, hplace⟩ := ownPlace_of_mem_list hl hp hpath
      rw [hplace, SlotKey.owns_concat (SlotKey.mk directory other)] at ho
      rw [List.mem_singleton.1 hc] at hb
      exact hne (FileName.signal_unique (FileName.belongsTo_iff.1 ho).1
        (FileName.belongsTo_iff.1 hb).1)
    have hpart := FileTree.part_part files hother
    have hbefore := list_of_stands hstands
    have hafter := list_of_stands (hstands.mono (FileTree.keeps_without hdirs).directory)
    rw [FileTree.without, hpart, ← FileTree.without] at hafter
    exact hafter.trans hbefore.symm

/-- The signal of a directory is cleared if its files can be listed and removed. -/
theorem ends_clearSignal {signal : Signal} (hs : signal ≠ .unspecified)
    (hopen : s.rotation.closed = false) {paths : List Path}
    (hl : list s.files directory signal = .ok paths)
    (hr : ∀ path ∈ paths, s.files.Removable path) :
    ∃ s', (clearSignal directory signal).Ends s (.ok paths.length) s' ∧
      s'.files = s.files.without (paths.map Path.place) ∧ s'.rotation.closed = false := by
  have hkey : (SlotKey.mk directory signal).signal ≠ .unspecified := hs
  obtain ⟨s₁, henter, hopened⟩ := exists_ends_enter hkey hopen
  rw [← hopened.files] at hl hr ⊢
  have hremove := ends_removeAll
    (s := { s₁ with rotation := s₁.rotation.activate ⟨directory, signal⟩ none }) hr
  have hlisted := Task.ends_bind_ok_iff.2
    ⟨paths, _, Task.ends_ofExcept_iff.2 ⟨hl.symm, rfl⟩, hremove⟩
  exact ⟨_, Task.ends_bind_ok_iff.2 ⟨(), s₁, henter, hlisted⟩, rfl,
    hopened.rotation.closed.trans hopen⟩

/-- The files of signals are listed, and each of them can be removed. -/
structure Selects (files : FileTree) (directory : Path) (signals : List Signal)
    (paths : Signal → List Path) : Prop where
  listed : ∀ signal ∈ signals, list files directory signal = .ok (paths signal)
  removable : ∀ signal ∈ signals, ∀ path ∈ paths signal, files.Removable path

namespace Selects

variable {files : FileTree} {signal : Signal} {signals : List Signal} {paths : Signal → List Path}

/-- The files of the other signals after those of the first have gone. -/
theorem tail (h : Selects files directory (signal :: signals) paths) (hp : files.Proper)
    (hd : signal ∉ signals) :
    Selects (files.without ((paths signal).map Path.place)) directory signals paths := by
  have hl := h.listed signal List.mem_cons_self
  have hr := h.removable signal List.mem_cons_self
  have hdirs : ∀ place ∈ (paths signal).map Path.place, files.get? place ≠ some .directory := by
    intro place hm
    obtain ⟨path, hpath, rfl⟩ := List.mem_map.1 hm
    exact (hr path hpath).2
  constructor
  · intro other ho
    have hne : other ≠ signal := fun he => hd (he ▸ ho)
    rw [list_without hp hne hl hr]
    exact h.listed other (List.mem_cons_of_mem _ ho)
  · intro other ho path hm
    exact (h.removable other (List.mem_cons_of_mem _ ho) path hm).without hdirs

end Selects

/-- Clearing signals one after the other removes all that their listings select. -/
theorem ends_clearSignals {signals : List Signal} (hnodup : signals.Nodup)
    (hs : ∀ signal ∈ signals, signal ≠ .unspecified) (hopen : s.rotation.closed = false)
    (hp : s.files.Proper) {paths : Signal → List Path}
    (h : Selects s.files directory signals paths) :
    ∃ s', (clearSignals directory signals).Ends s
        (.ok (signals.map fun signal => (paths signal).length).sum) s' ∧
      s'.files = s.files.without (signals.flatMap fun signal => (paths signal).map Path.place) := by
  induction signals generalizing s with
  | nil =>
    refine ⟨s, Task.ends_pure_iff.2 ⟨rfl, rfl⟩, ?_⟩
    rw [List.flatMap_nil, FileTree.without_nil]
  | cons signal signals ih =>
    obtain ⟨hsignal, hsignals⟩ := List.forall_mem_cons.1 hs
    obtain ⟨hfresh, hnodup⟩ := List.nodup_cons.1 hnodup
    obtain ⟨s₁, hfirst, hfiles, hopen₁⟩ := ends_clearSignal hsignal hopen
      (h.listed signal List.mem_cons_self) (h.removable signal List.mem_cons_self)
    have htail := h.tail hp hfresh
    have hp₁ : s₁.files.Proper := ((clearSignal_cases hfirst).files hp).proper hp
    rw [← hfiles] at htail
    obtain ⟨s', hrest, hfiles'⟩ := ih hnodup hsignals hopen₁ hp₁ htail
    refine ⟨s', ?_, ?_⟩
    · refine Task.ends_bind_ok_iff.2 ⟨_, s₁, hfirst, ?_⟩
      refine Task.ends_bind_ok_iff.2 ⟨_, s', hrest, ?_⟩
      exact Task.ends_pure_iff.2 ⟨by rw [List.map_cons, List.sum_cons], rfl⟩
    · rw [hfiles', hfiles, FileTree.without_append, List.flatMap_cons]

/-! ## The next line -/

/-- The next line that is stored under a key, whatever is done elsewhere before, goes to the base
path that the clock then names, and its file holds nothing else. -/
def StartsAfresh (key : SlotKey) (s : Store) : Prop :=
  ∀ commands : List Command, (∀ command ∈ commands, command.Spares key) →
    ∀ (sink : FileSink) (record : Record) (cancelled : Bool) (s' : Store),
      sink.key record.signal = key →
      (sink.write record cancelled).Ends (Command.after commands s) (.ok ()) s' →
      let base := FileName.basePath key.directory key.signal (Command.after commands s).clock.now
      s'.rotation.active? key = some base ∧
        s'.files.file? (FileName.ofStream base sink.stream).place =
          some (Bytes.ofText record.line)

/-- Nothing is left under a key. -/
structure Blank (key : SlotKey) (s : Store) : Prop where
  active : s.rotation.active? key = none
  get?_eq : ∀ place, key.owns place = true → s.files.get? place = none

/-- Where a key is blank, work that does not touch it leaves it blank. -/
theorem Blank.of_untouched (h : Blank key s) (hu : Untouched key s s') : Blank key s' where
  active := hu.active.trans h.active
  get?_eq place hp := (hu.get?_eq place hp).trans (h.get?_eq place hp)

/-- So does opening slots. -/
theorem Blank.of_opened (h : Blank key s) (ho : Opened s s') : Blank key s' where
  active := (ho.rotation.active key).trans h.active
  get?_eq place hp := by
    rw [ho.files]
    exact h.get?_eq place hp

/-- Where nothing is left, the clock names the path that is found, and no file stands there. -/
theorem Blank.of_finds (h : Blank key s) (hb : key.directory.Bypasses key) {base : Path}
    (hf : Finds key s base s') :
    base = FileName.basePath key.directory key.signal s.clock.now ∧
      ∀ stream, s'.files.get? (FileName.ofStream base stream).place = none := by
  cases hf with
  | active ha =>
    rw [h.active] at ha
    cases ha
  | @new files _ hd =>
    refine ⟨rfl, fun stream => ?_⟩
    have howns := (IsBase.ownPath ⟨s.clock.now, rfl⟩ stream : OwnPath key _).owns_place
    have hfiles : (s.files.createAlong (Path.ancestors key.directory)).1 = files :=
      congrArg Prod.fst hd
    rw [← hfiles, FileTree.get?_createAlong fun up hm hplace => ?_]
    · exact h.get?_eq _ howns
    · have hfalse := hb.of_leadsTo (Path.leadsTo_of_mem_ancestors hm)
      rw [← hplace, howns] at hfalse
      cases hfalse

/-- A line that is stored where nothing is left starts afresh. -/
theorem Blank.of_write (h : Blank key s) (hb : key.directory.Bypasses key) {sink : FileSink}
    {record : Record} {cancelled : Bool} (hk : sink.key record.signal = key)
    (he : (sink.write record cancelled).Ends s (.ok ()) s') :
    s'.rotation.active? key =
        some (FileName.basePath key.directory key.signal s.clock.now) ∧
      s'.files.file?
          (FileName.ofStream (FileName.basePath key.directory key.signal s.clock.now)
            sink.stream).place = some (Bytes.ofText record.line) := by
  subst hk
  cases FileSink.writes_of_ends he with
  | stored _ _ hs hset hr _ hf hg =>
    have hblank := h.of_opened hs
    cases hset with
    | found hfind _ =>
      obtain ⟨hbase, hnone⟩ := hblank.of_finds hb hfind
      rw [hs.clock] at hbase
      subst hbase
      refine ⟨by rw [hr]; exact hfind.active_eq, ?_⟩
      rw [hg.of_sameFiles hf, if_pos rfl, FileTree.file?, hnone]
      rfl
    | rotated hfind hlarge =>
      rw [exceeds_eq_false ((hblank.of_finds hb hfind).2 _)] at hlarge
      cases hlarge

/-- The next write of a blank key starts afresh. -/
theorem Blank.startsAfresh (h : Blank key s) (hb : key.directory.Bypasses key)
    (hp : s.files.Proper) (hn : s.rotation.Named) : StartsAfresh key s := by
  intro commands hspare sink record cancelled s' hk he
  exact (h.of_untouched (Command.untouched_after hspare hb (.refl key hp hn))).of_write hb hk he

/-! ## Clears that start afresh -/

/-- Whether the listing sees the files of a key: the directory is there, or no file of the key
stands in its place and the way to it does not lead through one. -/
def InSight (key : SlotKey) (files : FileTree) : Prop :=
  files.stat key.directory = .ok .directory ∨
    (key.directory.Bypasses key ∧ ∀ place, key.owns place = true → files.get? place = none)

/-- In a directory that is there, everything that belongs to a signal is listed. -/
theorem exists_mem_of_owns {files : FileTree} (hp : files.Proper)
    (hd : files.stat directory = .ok .directory) {signal : Signal} {paths : List Path}
    (hl : list files directory signal = .ok paths) {place : Place}
    (ho : (SlotKey.mk directory signal).owns place = true) {entry : Entry}
    (hg : files.get? place = some entry) : ∃ path ∈ paths, path.place = place := by
  obtain ⟨name, rfl, hb⟩ := SlotKey.exists_of_owns ho
  have halways := FileTree.alwaysExists_concat directory.place
    (FileName.ne_of_belongsTo hb (by decide)) (FileName.ne_of_belongsTo hb (by decide))
  have hmem : name ∈ files.entries.filterMap (FileTree.childName? directory.place) :=
    FileTree.mem_childNames_iff.2 ⟨entry, FileTree.mem_entries_of_get? halways hg⟩
  exact ⟨Path.join directory name,
    (mem_list_iff hl _).2 ⟨_, FileTree.list_eq_ok_iff.2 ⟨hd, rfl⟩, name, hmem, hb, rfl⟩,
    Path.place_join _ (isPlain_of_listed hp hb hmem)⟩

namespace Selects

variable {files : FileTree} {signal : Signal} {signals : List Signal} {paths : Signal → List Path}
  (h : Selects files directory signals paths)
include h

/-- No directory is selected. -/
theorem get?_ne_directory : ∀ place ∈ signals.flatMap fun signal => (paths signal).map Path.place,
    files.get? place ≠ some .directory := by
  intro place hm
  obtain ⟨signal, hs, hm⟩ := List.mem_flatMap.1 hm
  obtain ⟨path, hpath, rfl⟩ := List.mem_map.1 hm
  exact (h.removable signal hs path hpath).2

variable (hp : files.Proper) (hm : signal ∈ signals) (hs : InSight ⟨directory, signal⟩ files)
include hp hm hs

/-- What can be removed is no directory, so the way to the directory does not lead through it. -/
theorem bypasses : directory.Bypasses ⟨directory, signal⟩ := by
  refine hs.elim (fun hd names hnames => ?_) And.left
  cases ho : (SlotKey.mk directory signal).owns
      (names.foldl Path.step (FileTree.start directory)) with
  | false => rfl
  | true =>
    have hdir := FileTree.get?_of_prefix hd hnames
    obtain ⟨path, hpath, hplace⟩ := exists_mem_of_owns hp hd (h.listed signal hm) ho hdir
    rw [← hplace] at hdir
    exact absurd hdir (h.removable signal hm path hpath).2

/-- Nothing that belongs to the signal is left. -/
theorem get?_without_eq_none {place : Place}
    (ho : (SlotKey.mk directory signal).owns place = true) :
    (files.without (signals.flatMap fun signal => (paths signal).map Path.place)).get? place =
      none := by
  rw [FileTree.get?_without h.get?_ne_directory]
  split
  · rfl
  · next hn =>
    rcases hs with hd | ⟨-, hnone⟩
    · cases hg : files.get? place with
      | none => rfl
      | some entry =>
        obtain ⟨path, hpath, rfl⟩ := exists_mem_of_owns hp hd (h.listed signal hm) ho hg
        exact absurd (List.mem_flatMap.2 ⟨signal, hm, List.mem_map_of_mem hpath⟩) hn
    · exact hnone place ho

end Selects

/-- What a clear comes to that finds some files of its signals. -/
structure Restarted (directory : Path) (signals : List Signal) (paths : Signal → List Path)
    (s s' : Store) : Prop where
  /-- What was listed has gone, and everything else is as it was. -/
  files : ∀ place, s'.files.get? place =
    if ∃ signal ∈ signals, ∃ path ∈ paths signal, path.place = place then none
    else s.files.get? place
  /-- The active paths of the signals are forgotten, and the others are kept. -/
  active : ∀ key, s'.rotation.active? key =
    if key.directory.route = directory.route ∧ key.signal ∈ signals then none
    else s.rotation.active? key
  afresh : ∀ signal ∈ signals, InSight ⟨directory, signal⟩ s.files →
    StartsAfresh ⟨directory, signal⟩ s'

/-- A clear succeeds if the files of its signals can be listed and removed; it counts them, takes
nothing else away, and lets each signal start afresh. -/
theorem clear_restarts {signal : Option Signal} (hs : signal ≠ some .unspecified)
    (hopen : s.rotation.closed = false) (hp : s.files.Proper) (hn : s.rotation.Named)
    {paths : Signal → List Path}
    (hl : ∀ c ∈ clearedSignals signal, list s.files directory c = .ok (paths c))
    (hr : ∀ c ∈ clearedSignals signal, ∀ path ∈ paths c,
      ∃ files, s.files.remove path = .ok files) :
    ∃ s', (clear directory signal).Ends s
        (.ok ((clearedSignals signal).map fun c => (paths c).length).sum) s' ∧
      Restarted directory (clearedSignals signal) paths s s' := by
  have hselects : Selects s.files directory (clearedSignals signal) paths :=
    ⟨hl, fun c hc path hm => (hr c hc path hm).elim fun _ => FileTree.removable_of_remove⟩
  have hconcrete : ∀ c ∈ clearedSignals signal, c ≠ .unspecified := by
    cases signal with
    | none => exact fun c hc => (Signal.mem_concrete_iff c).1 hc
    | some signal =>
      rintro c hc rfl
      exact hs (congrArg some (List.mem_singleton.1 hc).symm)
  have hnodup : (clearedSignals signal).Nodup := by
    cases signal with
    | none => decide
    | some signal => simp [clearedSignals]
  obtain ⟨s', hends, hfiles⟩ := ends_clearSignals hnodup hconcrete hopen hp hselects
  have hcleared := clearSignals_cases hends
  have hproper : s'.files.Proper := (hcleared.files hp).proper hp
  have hnamed : s'.rotation.Named := by
    intro key path ha
    rw [hcleared.active] at ha
    split at ha
    · cases ha
    · exact hn key path ha
  refine ⟨s', Task.ends_bind_ok_iff.2 ⟨_, s', hends, Task.ends_pure_iff.2 ⟨rfl, rfl⟩⟩,
    fun place => ?_, hcleared.active, fun c hc hsight => ?_⟩
  · have hmem : place ∈ (clearedSignals signal).flatMap (fun c => (paths c).map Path.place) ↔
        ∃ c ∈ clearedSignals signal, ∃ path ∈ paths c, path.place = place := by
      simp only [List.mem_flatMap, List.mem_map]
    rw [hfiles, FileTree.get?_without hselects.get?_ne_directory]
    simp only [hmem]
  · have hblank : Blank ⟨directory, c⟩ s' := by
      refine ⟨?_, fun place ho => ?_⟩
      · rw [hcleared.active, if_pos ⟨rfl, hc⟩]
      · rw [hfiles]
        exact hselects.get?_without_eq_none hp hc hsight ho
    exact hblank.startsAfresh (hselects.bypasses hp hc hsight) hproper hnamed

/-- The names of a signal that are found in order are listed in that order. -/
theorem list_of_sorted {files : FileTree} {signal : Signal} {names : List String}
    (own : List String) (hl : files.list directory = .ok names)
    (hown : (names.filter fun name => FileName.belongsTo signal name) = own)
    (hsorted : own.Pairwise fun a b => decide (a ≤ b) = true) :
    list files directory signal = .ok (own.map (Path.join directory)) := by
  rw [list, hl]
  dsimp only
  rw [hown, List.mergeSort_of_pairwise hsorted]

/-- A directory with files of two signals and another one, in which traces have an active path. -/
def shared : Store where
  files := ⟨[(["out"], .directory), (["out", "traces.a.errors.ndjson"], .file [1]),
    (["out", "notes"], .file [2]), (["out", "logs.a.ndjson"], .file [])]⟩
  rotation := ({} : Rotation).activate ⟨"out", .traces⟩
    (some (FileName.basePath "out" .traces .epoch))
  clock := .still .epoch

/-- The files that are listed there. -/
def sharedPaths : Signal → List Path
  | .traces => ["out/traces.a.errors.ndjson"]
  | .logs => ["out/logs.a.ndjson"]
  | _ => []

/-- Two files go, and every signal starts afresh. -/
theorem clear_restarts_shared :
    (∃ s', (clear "out" none).Ends shared (.ok 2) s' ∧
      Restarted "out" (clearedSignals none) sharedPaths shared s') ∧
    ∀ c, InSight ⟨"out", c⟩ shared.files := by
  have hnone : (none : Option Signal) ≠ some .unspecified := by simp
  have hproper : shared.files.Proper := by
    have hnames : ∀ entry ∈ shared.files.entries, ∀ name ∈ entry.1, '/' ∉ name.toList := by decide
    exact fun entry he => ⟨[], entry.1, rfl, .inl rfl, hnames entry he⟩
  have hnamed : shared.rotation.Named := Rotation.named_empty.activate ⟨_, rfl⟩
  have hstat : shared.files.stat "out" = .ok .directory := rfl
  have hlisted : ∀ c ∈ clearedSignals none, list shared.files "out" c = .ok (sharedPaths c) := by
    intro c _
    cases c with
    | traces =>
      exact list_of_sorted ["traces.a.errors.ndjson"] rfl rfl (List.pairwise_singleton _ _)
    | logs => exact list_of_sorted ["logs.a.ndjson"] rfl rfl (List.pairwise_singleton _ _)
    | _ => exact list_of_sorted [] rfl rfl .nil
  have hremoved : ∀ c ∈ clearedSignals none, ∀ path ∈ sharedPaths c,
      ∃ files, shared.files.remove path = .ok files := by
    intro c _ path hm
    cases c with
    | traces => exact List.mem_singleton.1 hm ▸ ⟨_, rfl⟩
    | logs => exact List.mem_singleton.1 hm ▸ ⟨_, rfl⟩
    | _ => exact absurd hm List.not_mem_nil
  exact ⟨clear_restarts hnone rfl hproper hnamed hlisted hremoved, fun _ => .inl hstat⟩

/-- Not every signal starts afresh: a clear of `missing/../out` finds no file, and the next line,
for which `missing` is created, comes after what the file in `out` held. -/
theorem not_forall_startsAfresh :
    ¬ ∀ (directory : Path) (signal : Option Signal) (paths : Signal → List Path) (s : Store),
      signal ≠ some .unspecified → s.rotation.closed = false → s.files.Proper →
      s.rotation.Named →
      (∀ c ∈ clearedSignals signal, list s.files directory c = .ok (paths c)) →
      (∀ c ∈ clearedSignals signal, ∀ path ∈ paths c, ∃ files, s.files.remove path = .ok files) →
      ∃ s', (clear directory signal).Ends s
          (.ok ((clearedSignals signal).map fun c => (paths c).length).sum) s' ∧
        ∀ c ∈ clearedSignals signal, StartsAfresh ⟨directory, c⟩ s' := by
  intro h
  have hproper : hidden.files.Proper := by
    have hnames : ∀ entry ∈ hidden.files.entries, ∀ name ∈ entry.1, '/' ∉ name.toList := by decide
    exact fun entry he => ⟨[], entry.1, rfl, .inl rfl, hnames entry he⟩
  have hnone : ∀ c ∈ clearedSignals (some .traces),
      list hidden.files "missing/../out" c = .ok [] := fun _ _ => rfl
  obtain ⟨s', hclear, hafresh⟩ := h "missing/../out" (some .traces) (fun _ => []) hidden (by simp)
    rfl hproper Rotation.named_empty hnone fun _ _ _ hm => absurd hm List.not_mem_nil
  obtain rfl : (clear "missing/../out" (some .traces) hidden).value.2 = s' :=
    congrArg Prod.snd hclear
  let sink : FileSink := ⟨.all, "missing/../out", 1, .constant (.available (UInt64.size - 1))⟩
  let record : Record := ⟨.traces, "new\n", false, .epoch, by simp⟩
  have hstored : (sink.write record false
      (clear "missing/../out" (some .traces) hidden).value.2).value.1.toOption = some () := by
    decide +kernel
  obtain ⟨-, hfile⟩ := hafresh .traces (List.mem_singleton_self _) []
    (fun _ hm => absurd hm List.not_mem_nil) sink record false _ rfl
    (Task.ends_of_toOption hstored)
  revert hfile
  decide +kernel

end Store

end TelemetrySpool
