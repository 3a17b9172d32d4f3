import Mathlib.Tactic.Choose
import TelemetrySpool.Proofs.Spool.Restart

/-!
# Which files are selected

The files of a signal are known by their names: such a name starts with the signal and a point, and
ends with a point and the suffix. The two points need not be different ones. So a listing shows all
names of the form `{signal}.*.ndjson`, which have any text between two points, and besides them the
bare name that has one point alone, though no file of the spool is called so. A clear takes away
what a listing shows, and nothing else.
-/

namespace TelemetrySpool

namespace Text

/-- A text that starts up to a character and ends from that character on has it in two places with
any text between them, or in one. -/
theorem prefix_and_suffix_iff {lead trail text : List Char} {c : Char} (h : c ∉ trail) :
    (lead ++ [c] <+: text ∧ c :: trail <:+ text) ↔
      (∃ between, text = lead ++ [c] ++ between ++ c :: trail) ∨ text = lead ++ c :: trail := by
  constructor
  · rintro ⟨⟨after, rfl⟩, ⟨before, hsplit⟩⟩
    rcases List.append_eq_append_iff.1 hsplit with ⟨shared, hlead, htrail⟩ | ⟨between, rfl, rfl⟩
    · -- What the two parts share starts with the character and ends with it.
      cases shared with
      | nil => exact .inl ⟨[], by simpa using htrail.symm⟩
      | cons first shared =>
        obtain ⟨rfl, rfl⟩ := List.cons.inj htrail
        rcases List.eq_nil_or_concat shared with rfl | ⟨shared, last, rfl⟩
        · obtain ⟨rfl, -⟩ := List.append_inj' hlead rfl
          exact .inr hsplit.symm
        · rw [List.concat_eq_append, ← List.cons_append, ← List.append_assoc] at hlead
          obtain ⟨-, hlast⟩ := List.append_inj' hlead rfl
          obtain rfl := (List.cons.inj hlast).1
          exact absurd (by simp) h
    · exact .inl ⟨between, by simp⟩
  · rintro (⟨between, rfl⟩ | rfl)
    · exact ⟨⟨between ++ c :: trail, by simp⟩, ⟨lead ++ [c] ++ between, rfl⟩⟩
    · exact ⟨⟨trail, by simp⟩, ⟨lead, rfl⟩⟩

end Text

namespace Path

/-- Names below a directory are told from their paths. -/
theorem join_inj {directory name name' : Path} (h : join directory name = join directory name') :
    name = name' := by
  have hlist := congrArg String.toList h
  unfold join at hlist
  split at hlist <;> exact String.toList_inj.1 (by simpa using hlist)

end Path

namespace FileName

/-- A name of the form `{signal}.*.ndjson`. -/
def Matches (signal : Signal) (name : String) : Prop :=
  ∃ text : String, name = signal.name ++ "." ++ text ++ ".ndjson"

/-- The name that has the signal and the suffix with one point between them. -/
def bare (signal : Signal) : String := signal.name ++ ".ndjson"

variable {signal : Signal} {name : String}

/-- The names that belong to a signal are those of the form, and the bare one. -/
theorem belongsTo_iff_matches :
    belongsTo signal name ↔ Matches signal name ∨ name = bare signal := by
  have hpoint : '.' ∉ "ndjson".toList := by decide
  have hsuffix : Stream.all.suffix.toList = '.' :: "ndjson".toList := rfl
  rw [belongsTo_iff, String.toList_append, hsuffix]
  refine (Text.prefix_and_suffix_iff hpoint).trans (or_congr ⟨?_, ?_⟩ ?_)
  · rintro ⟨between, h⟩
    refine ⟨String.ofList between, String.toList_inj.1 ?_⟩
    simp only [String.toList_append, String.toList_ofList]
    exact h
  · rintro ⟨text, rfl⟩
    exact ⟨text.toList, by simp only [String.toList_append]; rfl⟩
  · rw [← String.toList_inj, bare, String.toList_append]
    rfl

/-- The bare name has no room for two points. -/
theorem not_matches_bare (signal : Signal) : ¬ Matches signal (bare signal) := by
  rintro ⟨text, h⟩
  have hlength := congrArg (fun name => name.toList.length) h
  simp only [bare, String.toList_append, List.length_append] at hlength
  have hpoint : ".".toList.length = 1 := rfl
  omega

/-- The files of the spool have names of the form. -/
theorem matches_ofTime (signal : Signal) (time : Instant) (stream : Stream) :
    Matches signal (ofTime signal time stream) := by
  cases stream with
  | all => exact ⟨time.stamp, rfl⟩
  | errors =>
    refine ⟨time.stamp ++ ".errors", ?_⟩
    have hsuffix : Stream.errors.suffix = ".errors" ++ ".ndjson" := rfl
    simp only [ofTime, hsuffix, String.append_assoc]

end FileName

namespace Store

open FileTree (Removals)

variable {s s' s'' : Store} {directory : Path}

/-- Who asks for a concrete signal, or for all, clears concrete ones. -/
theorem concrete_of_mem_clearedSignals {target : Option Signal} (ht : target ≠ some .unspecified)
    {signal : Signal} (hm : signal ∈ clearedSignals target) : signal ∈ Signal.concrete := by
  cases target with
  | none => exact hm
  | some asked =>
    rw [Signal.mem_concrete_iff, List.mem_singleton.1 hm]
    exact mt (congrArg some) ht

/-- The unspecified signal is not cleared. -/
theorem clear_unspecified (directory : Path) (s : Store) :
    clear directory (some .unspecified) s = ⟨(.error .unspecifiedSignal, s), []⟩ := rfl

/-! ## What any clear takes away -/

/-- Files of some signals have been removed, and no other place has changed. -/
def Takes (directory : Path) (signals : List Signal) (s s' : Store) : Prop :=
  s.files.Proper → Removals (OwnPlace directory signals) s.files s'.files

namespace Takes

variable {signals signals' : List Signal}

protected theorem refl (directory : Path) (signals : List Signal) (s : Store) :
    Takes directory signals s s := fun _ => .refl

protected theorem trans (h : Takes directory signals s s') (h' : Takes directory signals s' s'') :
    Takes directory signals s s'' := fun hp => (h hp).trans (h' ((h hp).shrunk.proper hp))

/-- Taking from some signals is taking from any more. -/
theorem mono (h : Takes directory signals s s') (hs : ∀ signal ∈ signals, signal ∈ signals') :
    Takes directory signals' s s' := fun hp =>
  (h hp).mono fun _ ⟨signal, hm, hn⟩ => ⟨signal, hs signal hm, hn⟩

/-- Nothing is taken where the files stay. -/
theorem of_files (h : s'.files = s.files) : Takes directory signals s s' := fun _ => by
  rw [h]
  exact .refl

/-- Clearing a signal takes its own files at most. -/
theorem of_clearSignal {signal : Signal} {outcome : Except SinkError Nat}
    (h : (clearSignal directory signal).Ends s outcome s') : Takes directory [signal] s s' := by
  refine Task.rel_of_ends_bind (Takes _ _) Takes.trans h
    (fun he => .of_files (opened_of_enter he).files) fun hc => ?_
  rw [ends_changeRotation_bind_iff, Task.ends_look_bind_iff, Task.ends_bind_iff] at hc
  rcases hc with ⟨paths, _, hl, hr⟩ | ⟨_, hl, -⟩
  · obtain ⟨hlist, rfl⟩ := Task.ends_ofExcept_iff.1 hl
    refine fun hp => (Removed.of_removeAll hr).2.mono ?_
    rintro place ⟨path, hm, rfl⟩
    exact ownPlace_of_mem_list hlist.symm hp hm
  · obtain ⟨-, rfl⟩ := Task.ends_ofExcept_iff.1 hl
    exact .of_files rfl

/-- Takings follow each other. -/
theorem sweeping (directory : Path) : Sweeping directory (Takes directory) :=
  ⟨.refl directory, .trans, .mono, of_clearSignal⟩

/-- A clear takes from the signals it is for. -/
theorem of_clear {target : Option Signal} {outcome : Except SinkError Nat}
    (h : (clear directory target).Ends s outcome s') :
    Takes directory (clearedSignals target) s s' :=
  Sweeping.clear (sweeping directory) h

end Takes

/-! ## What a clear that succeeds takes away -/

/-- Nothing stands where a file is gone, if the way to it was there. -/
theorem Gone.get?_eq_none {path : Path} (h : Gone path s s')
    (hr : s.files.resolve path ≠ .error .notFound) : s'.files.get? path.place = none := by
  rcases h with ⟨hremove, -⟩ | ⟨hremove, rfl⟩
  · obtain ⟨-, ⟨content, hfile⟩, htree⟩ := FileTree.remove_eq_ok_iff.1 hremove
    have hnot : s.files.get? path.place ≠ some .directory := by simp [hfile]
    rw [htree, FileTree.get?_erase _ _ (FileTree.alwaysExists_eq_false hnot), if_pos rfl]
  · unfold FileTree.remove at hremove
    cases hplace : s'.files.resolve path with
    | error error =>
      rw [hplace] at hremove hr
      exact absurd (congrArg Except.error (Except.error.inj hremove)) hr
    | ok place =>
      obtain rfl := FileTree.place_of_resolve hplace
      rw [hplace] at hremove
      cases hg : s'.files.get? path.place with
      | none => rfl
      | some entry =>
        simp only [bind, Except.bind, hg] at hremove
        cases entry <;> cases hremove

/-- After a removal that succeeds the places of its paths are empty. -/
theorem get?_of_removeAll {paths : List Path} {count : Nat}
    (h : (removeAll paths).Ends s (.ok count) s') (hd : s.files.Stands directory)
    (hn : ∀ path ∈ paths, ∃ name, Path.IsPlain name ∧ path = Path.join directory name) :
    ∀ path ∈ paths, s'.files.get? path.place = none := by
  induction paths generalizing s count with
  | nil => exact fun _ hm => absurd hm List.not_mem_nil
  | cons path paths ih =>
    obtain ⟨⟨name, hname, rfl⟩, hnames⟩ := List.forall_mem_cons.1 hn
    rw [removeAll, Task.ends_bind_ok_iff] at h
    obtain ⟨_, s₁, hr, h⟩ := h
    rw [Task.ends_bind_ok_iff] at h
    obtain ⟨_, s₂, ha, h⟩ := h
    obtain ⟨-, rfl⟩ := Task.ends_pure_iff.1 h
    have hd₁ : s₁.files.Stands directory :=
      hd.mono (Removed.of_removeFrom hr).2.shrunk.directory
    refine List.forall_mem_cons.2 ⟨?_, ih ha hd₁ hnames⟩
    exact (Removed.of_removeAll ha).2.get?_eq_none
      ((gone_of_removeFrom hr).get?_eq_none (hd.resolve_ne_notFound hname))

variable (hp : s.files.Proper) (hd : s.files.stat directory = .ok .directory)
include hp hd

/-- After a clear that succeeds a signal has no file. -/
theorem get?_of_clearSignal {signal : Signal} {count : Nat}
    (h : (clearSignal directory signal).Ends s (.ok count) s') {place : Place}
    (ho : (SlotKey.mk directory signal).owns place = true) : s'.files.get? place = none := by
  have hremovals := Takes.of_clearSignal h hp
  rw [clearSignal, Task.ends_bind_ok_iff] at h
  obtain ⟨_, s₁, henter, h⟩ := h
  rw [ends_changeRotation_bind_iff, Task.ends_look_bind_iff, Task.ends_bind_ok_iff] at h
  obtain ⟨paths, s₂, hlook, h⟩ := h
  obtain ⟨hlist, rfl⟩ := Task.ends_ofExcept_iff.1 hlook
  have hfiles := (opened_of_enter henter).files
  rw [← hfiles] at hp hd hremovals
  cases hg : s₁.files.get? place with
  | none => exact hremovals.get?_eq_none hg
  | some entry =>
    obtain ⟨path, hpath, rfl⟩ := exists_mem_of_owns hp hd hlist.symm ho hg
    refine get?_of_removeAll h (.inr hd) (fun other hm => ?_) path hpath
    obtain ⟨name, hname, -, rfl⟩ := exists_of_mem_list hlist.symm hp hm
    exact ⟨name, hname, rfl⟩

/-- None of the signals cleared has one. -/
theorem get?_of_clearSignals {signals : List Signal} {count : Nat}
    (h : (clearSignals directory signals).Ends s (.ok count) s') {signal : Signal}
    (hm : signal ∈ signals) {place : Place}
    (ho : (SlotKey.mk directory signal).owns place = true) : s'.files.get? place = none := by
  induction signals generalizing s count with
  | nil => exact absurd hm List.not_mem_nil
  | cons first signals ih =>
    rw [clearSignals, Task.ends_bind_ok_iff] at h
    obtain ⟨_, s₁, hc, h⟩ := h
    rw [Task.ends_bind_ok_iff] at h
    obtain ⟨_, s₂, ha, h⟩ := h
    obtain ⟨-, rfl⟩ := Task.ends_pure_iff.1 h
    have hkeeps := (Takes.of_clearSignal hc hp).shrunk.toKeeps
    rcases List.mem_cons.1 hm with rfl | hm
    · exact (Sweeping.clearSignals (Takes.sweeping directory) ha (hkeeps.proper hp)).get?_eq_none
        (get?_of_clearSignal hp hd hc ho)
    · exact ih (hkeeps.proper hp) (FileTree.stat_mono hd hkeeps.directory) ha hm

/-- A clear that succeeds leaves nothing that belongs to its signals. -/
theorem get?_of_clear {target : Option Signal} {count : Nat}
    (h : (clear directory target).Ends s (.ok count) s') {signal : Signal}
    (hm : signal ∈ clearedSignals target) {place : Place}
    (ho : (SlotKey.mk directory signal).owns place = true) : s'.files.get? place = none := by
  rw [clear, Task.ends_bind_ok_iff] at h
  obtain ⟨_, s₁, hc, h⟩ := h
  rw [Task.ends_report_bind_iff] at h
  obtain ⟨-, rfl⟩ := Task.ends_pure_iff.1 h
  exact get?_of_clearSignals hp hd hc hm ho

omit hd in
/-- A clear succeeds if all files of its signals can be listed and removed. -/
theorem ends_clear {target : Option Signal} (ht : target ≠ some .unspecified)
    (hopen : s.rotation.closed = false) {paths : Signal → List Path}
    (h : Selects s.files directory (clearedSignals target) paths) :
    ∃ count s', (clear directory target).Ends s (.ok count) s' := by
  have hdistinct : (clearedSignals target).Nodup := by
    cases target with
    | none => decide
    | some signal => simp [clearedSignals]
  have hconcrete : ∀ signal ∈ clearedSignals target, signal ≠ .unspecified := fun signal hm =>
    (Signal.mem_concrete_iff signal).1 (concrete_of_mem_clearedSignals ht hm)
  obtain ⟨s', hends, -⟩ := ends_clearSignals hdistinct hconcrete hopen hp h
  exact ⟨_, s', Task.ends_bind_ok_iff.2 ⟨_, s', hends, Task.ends_pure_iff.2 ⟨rfl, rfl⟩⟩⟩

omit hp hd

/-! ## The test of a name -/

/-- The files of a directory are selected by a test of their names. -/
structure SelectsBy (selected : Signal → String → Prop) (directory : Path) (names : List String)
    (s : Store) : Prop where
  /-- A listing shows what passes the test. -/
  listed : ∀ signal ∈ Signal.concrete, ∃ paths, list s.files directory signal = .ok paths ∧
    ∀ path, path ∈ paths ↔
      ∃ name ∈ names, selected signal name ∧ path = Path.join directory name
  /-- However a clear ends, it leaves alone what does not pass the test. -/
  spared : ∀ target outcome s', (clear directory target).Ends s outcome s' → ∀ place,
    (∀ signal ∈ clearedSignals target, ∀ name ∈ names, selected signal name →
      place ≠ directory.place ++ [name]) → s'.files.get? place = s.files.get? place
  /-- A clear that succeeds leaves nothing that passes the test. -/
  cleared : ∀ target count s', (clear directory target).Ends s (.ok count) s' →
    ∀ signal ∈ clearedSignals target, ∀ name ∈ names, selected signal name →
      s'.files.get? (directory.place ++ [name]) = none
  /-- A clear succeeds if what passes the test can be removed. -/
  succeeds : ∀ target, target ≠ some .unspecified → s.rotation.closed = false →
    (∀ signal ∈ clearedSignals target, ∀ name ∈ names, selected signal name →
      s.files.Removable (Path.join directory name)) →
    ∃ count s', (clear directory target).Ends s (.ok count) s'

section Selection

variable {names : List String} {selected : Signal → String → Prop}

/-- A directory that can be read is listed for every signal. -/
theorem exists_list (hn : s.files.list directory = .ok names) (signal : Signal) :
    ∃ paths, list s.files directory signal = .ok paths ∧
      ∀ path, path ∈ paths ↔
        ∃ name ∈ names, FileName.belongsTo signal name ∧ path = Path.join directory name := by
  have hlist : ∃ paths, list s.files directory signal = .ok paths := by
    rw [list, hn]
    exact ⟨_, rfl⟩
  obtain ⟨paths, hlist⟩ := hlist
  refine ⟨paths, hlist, fun path => ?_⟩
  rw [mem_list_iff hlist, hn]
  simp only [Except.ok.injEq, exists_eq_left', eq_comm]

/-- Nothing stands under a name of a signal that is not found in its directory. -/
theorem get?_of_notMem (hn : s.files.list directory = .ok names) {signal : Signal} {name : String}
    (hb : FileName.belongsTo signal name) (hname : name ∉ names) :
    s.files.get? (directory.place ++ [name]) = none := by
  cases hg : s.files.get? (directory.place ++ [name]) with
  | none => rfl
  | some entry =>
    have halways := FileTree.alwaysExists_concat directory.place
      (FileName.ne_of_belongsTo hb (by decide)) (FileName.ne_of_belongsTo hb (by decide))
    rw [(FileTree.list_eq_ok_iff.1 hn).2] at hname
    exact absurd (FileTree.mem_childNames_iff.2 ⟨entry, FileTree.mem_entries_of_get? halways hg⟩)
      hname

/-- The files of a directory are selected by any test that tells which of them belong to a
signal. -/
theorem selectsBy_of_iff (hp : s.files.Proper) (hn : s.files.list directory = .ok names)
    (hs : ∀ signal ∈ Signal.concrete, ∀ name ∈ names,
      (selected signal name ↔ FileName.belongsTo signal name)) :
    SelectsBy selected directory names s := by
  have hstat := (FileTree.list_eq_ok_iff.1 hn).1
  refine ⟨fun signal hsignal => ?_, fun target outcome s' h place hplace => ?_,
    fun target count s' h signal hm name hname hsel => ?_, fun target ht hopen hr => ?_⟩
  · obtain ⟨paths, hlist, hmem⟩ := exists_list hn signal
    refine ⟨paths, hlist, fun path => (hmem path).trans (exists_congr fun name => ?_)⟩
    exact and_congr_right fun hname => and_congr_left fun _ => (hs signal hsignal name hname).symm
  · by_cases ht : target = some .unspecified
    · rw [ht, Task.Ends, clear_unspecified] at h
      obtain ⟨-, rfl⟩ := Prod.mk.inj h
      rfl
    by_cases hown : OwnPlace directory (clearedSignals target) place
    · -- Of the names of the signals none is taken, so this one stands for no entry.
      obtain ⟨signal, hm, name, hb, rfl⟩ := hown
      have hnone := get?_of_notMem hn hb fun hname =>
        hplace signal hm name hname
          ((hs signal (concrete_of_mem_clearedSignals ht hm) name hname).2 hb) rfl
      rw [hnone]
      exact (Takes.of_clear h hp).get?_eq_none hnone
    · exact (Takes.of_clear h hp).get?_of_not hown
  · by_cases ht : target = some .unspecified
    · rw [ht, Task.Ends, clear_unspecified] at h
      cases (Prod.mk.inj h).1
    have hb := (hs signal (concrete_of_mem_clearedSignals ht hm) name hname).1 hsel
    exact get?_of_clear hp hstat h hm (((SlotKey.mk directory signal).owns_concat name).trans hb)
  · choose paths hlist hmem using exists_list hn
    refine ends_clear hp ht hopen ⟨fun signal _ => hlist signal, fun signal hm path hpath => ?_⟩
    obtain ⟨name, hname, hb, rfl⟩ := (hmem signal path).1 hpath
    have hsel := (hs signal (concrete_of_mem_clearedSignals ht hm) name hname).2 hb
    exact hr signal hm name hname hsel

/-- Where a bare name stands, the form alone does not tell what is selected. -/
theorem bare_notMem_of_selectsBy (hn : s.files.list directory = .ok names)
    (h : SelectsBy FileName.Matches directory names s) {signal : Signal}
    (hs : signal ∈ Signal.concrete) : FileName.bare signal ∉ names := by
  intro hbare
  obtain ⟨paths, hlist, hmem⟩ := h.listed signal hs
  obtain ⟨paths', hlist', hmem'⟩ := exists_list hn signal
  obtain rfl := Except.ok.inj (hlist.symm.trans hlist')
  have hb := FileName.belongsTo_iff_matches.2 (.inr (rfl : FileName.bare signal = _))
  obtain ⟨name, -, hmatches, hjoin⟩ := (hmem _).1 ((hmem' _).2 ⟨_, hbare, hb, rfl⟩)
  rw [← Path.join_inj hjoin] at hmatches
  exact FileName.not_matches_bare signal hmatches

/--
The files of a directory that are listed, and that a clear takes away, are those whose names have
the form `{signal}.*.ndjson`, and the bare `{signal}.ndjson`. The form alone tells what is selected
just where no bare name stands.
-/
theorem selects_by_pattern (hp : s.files.Proper) (hn : s.files.list directory = .ok names) :
    SelectsBy (fun signal name => FileName.Matches signal name ∨ name = FileName.bare signal)
        directory names s ∧
      (SelectsBy FileName.Matches directory names s ↔
        ∀ signal ∈ Signal.concrete, FileName.bare signal ∉ names) := by
  refine ⟨selectsBy_of_iff hp hn fun signal _ name _ => FileName.belongsTo_iff_matches.symm,
    fun h signal => bare_notMem_of_selectsBy hn h,
    fun hbare => selectsBy_of_iff hp hn fun signal hs name hname => ?_⟩
  have hne : name ≠ FileName.bare signal := fun he => hbare signal hs (he ▸ hname)
  rw [FileName.belongsTo_iff_matches, or_iff_left hne]

end Selection

/-- A directory with a file of the traces, one that somebody else has put there under the bare name,
and one whose name lacks the points. -/
def mixed : Store where
  files := ⟨[(["out"], .directory), (["out", "traces..ndjson"], .file [1]),
    (["out", "traces.ndjson"], .file [2]), (["out", "tracesndjson"], .file [3])]⟩
  clock := .still .epoch

/-- The names that stand there. -/
def mixedNames : List String := ["traces..ndjson", "traces.ndjson", "tracesndjson"]

theorem proper_mixed : mixed.files.Proper := by
  have hnames : ∀ entry ∈ mixed.files.entries, ∀ name ∈ entry.1, '/' ∉ name.toList := by decide
  exact fun entry he => ⟨[], entry.1, rfl, .inl rfl, hnames entry he⟩

/-- There the bare name is selected, which the form alone does not tell. -/
theorem selects_by_pattern_mixed :
    SelectsBy (fun signal name => FileName.Matches signal name ∨ name = FileName.bare signal)
        "out" mixedNames mixed ∧
      ¬ SelectsBy FileName.Matches "out" mixedNames mixed := by
  have hlist : mixed.files.list "out" = .ok mixedNames := rfl
  obtain ⟨hselects, hform⟩ := selects_by_pattern proper_mixed hlist
  exact ⟨hselects, fun h => hform.1 h .traces (by decide) (by decide)⟩

/-- Not in every directory are the selected files those of the form. -/
theorem not_forall_selects_matches :
    ¬ ∀ (s : Store) (directory : Path) (names : List String), s.files.Proper →
      s.files.list directory = .ok names → SelectsBy FileName.Matches directory names s := by
  intro h
  have hlist : mixed.files.list "out" = .ok mixedNames := rfl
  have htraces : Signal.traces ∈ Signal.concrete := by decide
  have hbare : FileName.bare .traces ∈ mixedNames := by decide
  exact bare_notMem_of_selectsBy hlist (h mixed "out" mixedNames proper_mixed hlist) htraces hbare

end Store

end TelemetrySpool
