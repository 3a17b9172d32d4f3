import TelemetrySpool.Proofs.Spool.Naming
import TelemetrySpool.Proofs.Time.Order
import TelemetrySpool.Spool.Store

/-!
# How files are listed

The path of a file tells whose it is, in which millisecond it was opened and which records it holds.
Sorted by their names, the files of a signal stand in the order in which they were opened, and those
of one millisecond next to each other with the errors first.
-/

namespace TelemetrySpool

namespace Text

/-- What has been sorted by a text is in the order of the texts. -/
theorem pairwise_mergeSort_key {α : Type} (key : α → String) (l : List α) :
    (l.mergeSort fun a b => key a ≤ key b).Pairwise fun a b => key a ≤ key b := by
  have htrans : ∀ a b c : α, decide (key a ≤ key b) → decide (key b ≤ key c) →
      decide (key a ≤ key c) := fun _ _ _ hab hbc =>
    decide_eq_true (String.le_trans (of_decide_eq_true hab) (of_decide_eq_true hbc))
  have htotal : ∀ a b : α, (decide (key a ≤ key b) || decide (key b ≤ key a)) = true := by
    intro a b
    simpa using String.le_total (key a) (key b)
  simpa only [decide_eq_true_eq] using List.pairwise_mergeSort htrans htotal l

/-- Texts that are sorted are those that stand in order already. -/
theorem mergeSort_eq_of_perm {names sorted : List String} (h : names.Perm sorted)
    (hsorted : sorted.Pairwise fun a b => a ≤ b) :
    names.mergeSort (fun a b => a ≤ b) = sorted :=
  List.Perm.eq_of_pairwise (fun _ _ _ _ => String.le_antisymm) (pairwise_mergeSort_key id names)
    hsorted ((List.mergeSort_perm ..).trans h)

end Text

/-- A file as a spool names it. -/
structure Window where
  signal : Signal
  /-- When the file was opened. -/
  time : Instant
  stream : Stream

namespace Window

/-- The name of a file in its directory. -/
def name (w : Window) : String := FileName.ofTime w.signal w.time w.stream

/-- The path of a file in a directory. -/
def path (directory : Path) (w : Window) : Path :=
  FileName.ofStream (FileName.basePath directory w.signal w.time) w.stream

/-- A window lies in its directory under its name. -/
theorem path_eq (directory : Path) (w : Window) : w.path directory = Path.join directory w.name :=
  FileName.ofStream_basePath ..

/-- Two files agree up to what lies within a millisecond. -/
structure Same (v w : Window) : Prop where
  signal : v.signal = w.signal
  stream : v.stream = w.stream
  seconds : v.time.seconds = w.time.seconds
  millis : v.time.nanos / 1000000 = w.time.nanos / 1000000

/-- A file comes before another one if it was opened in an earlier millisecond, or if it has the
errors of one and the other has all its records. -/
def Before (v w : Window) : Prop :=
  v.time.rank < w.time.rank ∨
    v.time.rank = w.time.rank ∧ v.stream = .errors ∧ w.stream = .all

variable {v w : Window}

/-- The name of a window belongs to its signal. -/
theorem belongsTo_name (w : Window) : FileName.belongsTo w.signal w.name :=
  (FileName.belongsToStream_iff.1 (FileName.belongsToStream_ofTime ..)).1

/-- A file is one of its own signal alone. -/
theorem belongsTo_name_iff {signal : Signal} :
    FileName.belongsTo signal w.name ↔ w.signal = signal := by
  constructor
  · intro h
    exact FileName.signal_unique (FileName.belongsTo_iff.1 w.belongsTo_name).1
      (FileName.belongsTo_iff.1 h).1
  · rintro rfl
    exact w.belongsTo_name

/-- A name tells everything about a file up to what lies within a millisecond. -/
theorem same_of_name (h : v.name = w.name) : v.Same w := by
  obtain ⟨hsignal, hstream⟩ := FileName.belongsToStream_unique
    (FileName.belongsToStream_ofTime v.signal v.time v.stream)
    (show FileName.belongsToStream w.signal w.stream v.name from
      h ▸ FileName.belongsToStream_ofTime w.signal w.time w.stream)
  have hname : FileName.ofTime v.signal v.time v.stream =
      FileName.ofTime v.signal w.time w.stream := h.trans (by rw [name, hsignal])
  obtain ⟨hseconds, hmillis⟩ := Instant.eq_of_stamp (FileName.ofTime_inj hname).1
  exact ⟨hsignal, hstream, hseconds, hmillis⟩

/-- In one directory the path tells as much as the name. -/
theorem same_of_path {directory : Path} (h : v.path directory = w.path directory) : v.Same w := by
  have hplace := congrArg Path.place h
  simp only [path, FileName.place_ofStream] at hplace
  exact same_of_name (List.cons.inj (List.append_cancel_left hplace)).1

/-! ## The order of names -/

/-- Of two files of a signal, the one that comes first has the smaller name. -/
theorem Before.name_lt (h : v.Before w) (hsignal : v.signal = w.signal)
    (hv : v.time.PlainYear) (hw : w.time.PlainYear) : v.name < w.name := by
  have hlength : v.time.stamp.toList.length = w.time.stamp.toList.length :=
    (Instant.length_stamp hv).trans (Instant.length_stamp hw).symm
  rw [String.lt_iff, name, name, FileName.toList_ofTime, FileName.toList_ofTime, hsignal,
    List.append_assoc, List.append_assoc]
  refine List.append_left_lt (Text.append_lt_append hlength ?_)
  rcases h with hrank | ⟨hrank, herrors, hall⟩
  · exact .inl (Instant.stamp_lt_of_rank_lt hv hw hrank)
  · refine .inr ⟨congrArg String.toList (Instant.rank_eq_iff.1 hrank), ?_⟩
    rw [herrors, hall]
    decide

/-- Of two files of a signal, the one with the smaller name comes first. -/
theorem before_of_name_lt (hsignal : v.signal = w.signal) (hv : v.time.PlainYear)
    (hw : w.time.PlainYear) (h : v.name < w.name) : v.Before w := by
  have hnot : ¬ w.Before v := fun hb =>
    String.lt_irrefl _ (String.lt_trans h (hb.name_lt hsignal.symm hw hv))
  have hne : v.time.rank = w.time.rank → v.stream ≠ w.stream := by
    intro hrank hstream
    have hname : v.name = w.name := by
      rw [name, name, FileName.ofTime, FileName.ofTime, hsignal, Instant.rank_eq_iff.1 hrank,
        hstream]
    rw [hname] at h
    exact String.lt_irrefl _ h
  rcases Int.lt_trichotomy v.time.rank w.time.rank with hlt | heq | hgt
  · exact .inl hlt
  · right
    cases hvs : v.stream with
    | all =>
      cases hws : w.stream with
      | all => exact absurd (hvs.trans hws.symm) (hne heq)
      | errors => exact absurd (.inr ⟨heq.symm, hws, hvs⟩) hnot
    | errors =>
      cases hws : w.stream with
      | all => exact ⟨heq, rfl, rfl⟩
      | errors => exact absurd (hvs.trans hws.symm) (hne heq)
  · exact absurd (.inl hgt) hnot

/-- In the order of files, the errors of a millisecond stand right before all its records. -/
theorem infix_of_pairwise {own : List Window} (h : own.Pairwise Before) (hv : v ∈ own)
    (hw : w ∈ own) (hrank : v.time.rank = w.time.rank) (herrors : v.stream = .errors)
    (hall : w.stream = .all) : [v, w] <:+: own := by
  obtain ⟨before, rest, rfl⟩ := List.append_of_mem hv
  obtain ⟨-, hrest, hacross⟩ := List.pairwise_append.1 h
  have hwv : ¬ w.Before v := by
    rintro (hlt | ⟨-, hstream, -⟩)
    · omega
    · cases hstream.symm.trans hall
  rcases List.mem_append.1 hw with hbefore | hafter
  · exact absurd (hacross w hbefore v List.mem_cons_self) hwv
  rcases List.mem_cons.1 hafter with rfl | hafter
  · cases herrors.symm.trans hall
  obtain ⟨between, after, rfl⟩ := List.append_of_mem hafter
  cases between with
  | nil => exact ⟨before, after, by simp⟩
  | cons x between =>
    -- What stood between the two would have to come after the errors and before all records.
    obtain ⟨hfirst, hrest⟩ := List.pairwise_cons.1 hrest
    have hvx : v.Before x := hfirst x List.mem_cons_self
    have hxw : x.Before w := (List.pairwise_cons.1 hrest).1 w (by simp)
    rcases hvx with hlt | ⟨heq, -, hx⟩
    · rcases hxw with hlt' | ⟨heq', -, -⟩
      · omega
      · omega
    · rcases hxw with hlt' | ⟨-, hx', -⟩
      · omega
      · cases hx.symm.trans hx'

/-! ## Listings -/

/-- Files of one signal with different names, sorted by these, are in order. -/
theorem pairwise_before_of_sorted {own : List Window} {signal : Signal}
    (hown : ∀ w ∈ own, w.signal = signal ∧ w.time.PlainYear)
    (hsorted : own.Pairwise fun v w => v.name ≤ w.name) (hdistinct : (own.map name).Nodup) :
    own.Pairwise Before := by
  have hlt : own.Pairwise fun v w => v.name < w.name :=
    hsorted.imp₂ (fun _ _ hle hne => String.not_le.1 fun hge => hne (String.le_antisymm hle hge))
      (List.pairwise_map.1 hdistinct)
  exact hlt.imp_of_mem fun hv hw h => before_of_name_lt
    ((hown _ hv).1.trans (hown _ hw).1.symm) (hown _ hv).2 (hown _ hw).2 h

/-- The files of a signal can be put in order, which is that of their names. -/
theorem exists_ordered {windows : List Window} (signal : Signal)
    (hdistinct : (windows.map name).Nodup) (hyears : ∀ w ∈ windows, w.time.PlainYear) :
    ∃ own : List Window, own.Perm (windows.filter (·.signal = signal)) ∧
      own.Pairwise (fun v w => v.name ≤ w.name) ∧ own.Pairwise Before := by
  let own := (windows.filter (·.signal = signal)).mergeSort fun v w => v.name ≤ w.name
  have hperm : own.Perm (windows.filter (·.signal = signal)) := List.mergeSort_perm ..
  have hsorted : own.Pairwise fun v w => v.name ≤ w.name := Text.pairwise_mergeSort_key name _
  have hown : ∀ w ∈ own, w.signal = signal ∧ w.time.PlainYear := by
    intro w hw
    obtain ⟨hw, hsignal⟩ := List.mem_filter.1 (hperm.mem_iff.1 hw)
    exact ⟨of_decide_eq_true hsignal, hyears w hw⟩
  have hnames : (own.map name).Nodup :=
    (hperm.map name).nodup_iff.2 (hdistinct.sublist (List.filter_sublist.map name))
  exact ⟨own, hperm, hsorted, pairwise_before_of_sorted hown hsorted hnames⟩

/-- The names of a directory that belong to a signal are those of the files of the signal. -/
theorem filter_belongsTo_perm {windows : List Window} {others names : List String}
    {signal : Signal} (hnames : names.Perm (windows.map name ++ others))
    (hothers : ∀ other ∈ others, FileName.belongsTo signal other = false) :
    (names.filter fun name => FileName.belongsTo signal name).Perm
      ((windows.filter (·.signal = signal)).map name) := by
  have hwindows : (windows.map name).filter (fun name => FileName.belongsTo signal name) =
      (windows.filter (·.signal = signal)).map name := by
    rw [List.filter_map]
    refine congrArg (List.map name) (List.filter_congr fun w _ => ?_)
    rw [Bool.eq_iff_iff, decide_eq_true_iff]
    exact belongsTo_name_iff
  have hrest : others.filter (fun name => FileName.belongsTo signal name) = [] :=
    List.filter_eq_nil_iff.2 fun other hm => by simp [hothers other hm]
  have hfilter := hnames.filter fun name => FileName.belongsTo signal name
  rwa [List.filter_append, hwindows, hrest, List.append_nil] at hfilter

end Window

/-- In a directory each path tells its file. And whatever files of a spool a directory holds, next
to others that are not named like those of a signal, the files of the signal are listed in order: by
the millisecond in which they were opened, and the errors of one right before all its records. -/
theorem list_windows (directory : Path) :
    (∀ v w : Window, v.path directory = w.path directory → v.Same w) ∧
    ∀ (files : FileTree) (windows : List Window) (others names : List String) (signal : Signal),
      files.list directory = .ok names → names.Perm (windows.map Window.name ++ others) →
      (windows.map Window.name).Nodup → (∀ w ∈ windows, w.time.PlainYear) →
      (∀ other ∈ others, FileName.belongsTo signal other = false) →
      ∃ own, own.Perm (windows.filter (·.signal = signal)) ∧
        Store.list files directory signal = .ok (own.map (Window.path directory)) ∧
        own.Pairwise Window.Before ∧
        ∀ v ∈ own, ∀ w ∈ own, v.time.rank = w.time.rank → v.stream = .errors → w.stream = .all →
          [v, w] <:+: own := by
  refine ⟨fun v w => Window.same_of_path, ?_⟩
  intro files windows others names signal hlist hnames hdistinct hyears hothers
  obtain ⟨own, hperm, hsorted, hbefore⟩ := Window.exists_ordered signal hdistinct hyears
  refine ⟨own, hperm, ?_, hbefore, fun v hv w hw => Window.infix_of_pairwise hbefore hv hw⟩
  have hnamed : (names.filter fun name => FileName.belongsTo signal name).Perm
      (own.map Window.name) :=
    (Window.filter_belongsTo_perm hnames hothers).trans (hperm.map Window.name).symm
  rw [Store.list, hlist]
  dsimp only
  rw [Text.mergeSort_eq_of_perm hnamed (List.pairwise_map.2 hsorted), List.map_map]
  exact congrArg Except.ok (List.map_congr_left fun w _ => (w.path_eq directory).symm)

/-- A leap second, the midnight after it, and a file that is none of the spool. -/
theorem list_windows_leap :
    let leap : Instant := ⟨1483228799, 1500000000, by decide, by decide⟩
    let later : Instant := ⟨1483228800, 0, by decide, by decide⟩
    let windows : List Window := [⟨.logs, later, .all⟩, ⟨.logs, leap, .all⟩,
      ⟨.traces, leap, .all⟩, ⟨.logs, leap, .errors⟩]
    let files : FileTree := ⟨(["out"], .directory) :: (["out", "logs.txt"], .file []) ::
      windows.map fun w => (["out", w.name], .file [])⟩
    ∃ own : List Window, own.Perm (windows.filter (·.signal = .logs)) ∧
      Store.list files "out" .logs = .ok (own.map (Window.path "out")) ∧
      own.Pairwise Window.Before := by
  intro leap later windows files
  have hlist : files.list "out" = .ok (["logs.txt"] ++ windows.map Window.name) := rfl
  have hothers : ∀ other ∈ ["logs.txt"], FileName.belongsTo .logs other = false := by decide
  obtain ⟨own, hperm, hown, hbefore, -⟩ := (list_windows "out").2 files windows ["logs.txt"] _
    .logs hlist List.perm_append_comm (by decide +kernel) (by decide +kernel) hothers
  exact ⟨own, hperm, hown, hbefore⟩

end TelemetrySpool
