import TelemetrySpool.Proofs.Files.Absence
import TelemetrySpool.Proofs.Spool.Separation

/-!
# Signals keep apart from the first command on

Whoever names the first path of a signal, or stores its first line, creates the directory for all of
them. The others see nothing of that if the directory is empty of their files once it has been
created, or if it cannot be created at all and trying leaves nothing behind. Else they do: a
directory such as `missing/../out` is not found as long as `missing` is not there, and shows the
files of `out` as soon as it is.
-/

namespace TelemetrySpool

namespace Store

variable {key : SlotKey} {s₀ t₀ s t : Store} {files files' : FileTree} {path directory : Path}

/-! ## The same files -/

section Append

variable {sink : FileSink} {space : Space} {fault : Option (Nat × String)}
  (hv : sink.volume = .answering space fault) (bytes : Bytes)
include hv

/-- Octets are appended to the same files in the same way. -/
theorem respects_appendOnce_eq :
    (sink.appendOnce path bytes).Respects (Twin key Eq s₀ t₀) fun _ => True := by
  refine respects_appendOnce hv (fun files files' h bytes => ?_) bytes
  rw [← h]
  cases files.append path bytes with
  | error error => exact .inl ⟨error, rfl, rfl⟩
  | ok next => exact .inr ⟨next, next, rfl, rfl, rfl⟩

/-- So they are if the directory is created first. -/
theorem respects_append_eq :
    (sink.append path bytes).Respects (Twin key Eq s₀ t₀) fun _ => True := by
  refine Task.respects_bind (P := fun _ => True)
    (Task.respects_look fun s t h => ⟨by rw [h.files], trivial⟩) fun found _ => ?_
  split
  · split
    · refine Task.respects_bind (respects_createDirectories fun files files' h => ?_)
        fun _ _ => respects_appendOnce_eq hv bytes
      rw [h]
      exact ⟨rfl, rfl⟩
    · exact respects_appendOnce_eq hv bytes
  · exact respects_appendOnce_eq hv bytes

end Append

/-- A file is removed from the same files in the same way. -/
theorem respects_tryRemove_eq : (tryRemove path).Respects (Twin key Eq s₀ t₀) fun _ => True := by
  intro s t h
  have hfiles := h.files
  cases hr : s.files.remove path with
  | ok next =>
    refine ⟨.ok none, { s with files := next }, { t with files := next },
      ends_tryRemove_iff.2 (.inl ⟨hr, rfl, rfl⟩), ends_tryRemove_iff.2 (.inl ⟨?_, rfl, rfl⟩),
      h.withFiles rfl, fun _ _ => trivial⟩
    rw [← hfiles, hr]
  | error error =>
    refine ⟨_, s, t, ends_tryRemove_iff.2 (.inr ⟨rfl, error, hr, rfl⟩),
      ends_tryRemove_iff.2 (.inr ⟨rfl, error, ?_, rfl⟩), h, fun _ _ => trivial⟩
    rw [← hfiles, hr]

/-- Work under a key depends on the files and the slot of the key alone. -/
theorem kin_eq : Kin key Eq where
  size h _ := by rw [h]
  list h := by rw [h]
  create := respects_createDirectories fun files files' h => by
    rw [h]
    exact ⟨rfl, rfl⟩
  append hv _ bytes := respects_append_eq hv bytes
  sweep := by
    refine Task.respects_bind (P := fun _ => True)
      (Task.respects_look fun s t h => ⟨by rw [h.files], trivial⟩) fun _ _ => ?_
    refine Task.respects_bind (Task.respects_ofExcept fun _ _ => trivial) fun paths _ => ?_
    exact respects_removeAll fun _ _ => respects_tryRemove_eq

/-! ## Directories that are not there -/

/-- In a directory that does not stand no file is listed. -/
theorem eq_nil_of_list {paths : List Path} (h : ¬ files.Stands directory) {signal : Signal}
    (hl : list files directory signal = .ok paths) : paths = [] := by
  unfold list at hl
  split at hl
  · next names hn => exact absurd hn (FileTree.list_ne_ok h names)
  · exact (Except.ok.inj hl).symm
  · cases hl

/-- Two trees that are these. -/
def Exactly (tree tree' files files' : FileTree) : Prop := files = tree ∧ files' = tree'

/-- If neither tree lists a file of the key, and both say the same, there is nothing to remove. -/
theorem respects_sweep_of_nil {tree tree' : FileTree}
    (h : list tree key.directory key.signal = list tree' key.directory key.signal)
    (hnil : ∀ paths, list tree key.directory key.signal = .ok paths → paths = []) :
    (sweep key).Respects (Twin key (Exactly tree tree') s₀ t₀) fun _ => True := by
  refine Task.respects_bind (P := fun listed => listed = list tree key.directory key.signal)
    (Task.respects_look fun s t ht => ?_) fun listed hl => ?_
  · rw [ht.files.1, ht.files.2, h]
    exact ⟨rfl, rfl⟩
  · refine Task.respects_bind (P := fun paths => paths = [])
      (Task.respects_ofExcept fun paths hp => hnil paths (hl.symm.trans hp)) fun paths hp => ?_
    rw [hp]
    exact Task.respects_pure trivial

/-- An append that fails in both trees for one reason, also after trying to create the directory of
the file, changes nothing. -/
theorem respects_append_error {tree tree' : FileTree} {sink : FileSink} {space : Space}
    {fault : Option (Nat × String)} (hv : sink.volume = .answering space fault) {error : FileError}
    (h : ∀ bytes, tree.append path bytes = .error error)
    (h' : ∀ bytes, tree'.append path bytes = .error error)
    (hup : error = .notFound → ∀ up, Path.parent? path = some up →
      (createDirectories up).Respects (Twin key (Exactly tree tree') s₀ t₀) fun _ => True)
    (bytes : Bytes) :
    (sink.append path bytes).Respects (Twin key (Exactly tree tree') s₀ t₀) fun _ => True := by
  have honce : (sink.appendOnce path bytes).Respects (Twin key (Exactly tree tree') s₀ t₀)
      fun _ => True := by
    refine respects_appendOnce hv (fun files files' hf bytes => .inl ⟨error, ?_, ?_⟩) bytes
    · rw [hf.1, h]
    · rw [hf.2, h']
  refine Task.respects_bind (P := fun found => found = .error error)
    (Task.respects_look fun s t ht => ?_) fun found hfound => ?_
  · rw [ht.files.1, ht.files.2, h, h']
    exact ⟨rfl, rfl⟩
  · rw [hfound]
    cases error with
    | notFound =>
      dsimp only
      split
      · next up hparent =>
        exact Task.respects_bind (hup rfl up hparent) fun _ _ => honce
      · exact honce
    | _ => exact honce

/-- A directory that cannot be created, with or without what is trimmed from its end, so that trying
leaves nothing behind. -/
structure Barred (directory : Path) (tree : FileTree) : Prop where
  fails : ∃ error, tree.createDirectories directory = (tree, .error error)
  trimmed : (tree.createDirectories (Path.trimmed directory)).1 = tree

/-- A directory that cannot be created does not stand. -/
theorem Barred.not_stands (h : Barred directory files) : ¬ files.Stands directory := by
  intro hs
  obtain ⟨error, hc⟩ := h.fails
  rw [hs.createDirectories] at hc
  cases (Prod.mk.inj hc).2

/-- Under a key whose directory cannot be created nothing is done to the files. -/
theorem kin_barred (h : Barred key.directory files) : Kin key (Exactly files files) where
  size hf _ := by rw [hf.1, hf.2]
  list hf := by rw [hf.1, hf.2]
  create := by
    obtain ⟨error, hc⟩ := h.fails
    refine respects_createDirectories fun _ _ hf => ?_
    rw [hf.1, hf.2, hc]
    exact ⟨rfl, rfl, rfl⟩
  append hv hp bytes := by
    obtain ⟨name, hn, -, rfl⟩ := hp
    obtain ⟨error, ha⟩ := FileTree.exists_append_error h.not_stands hn
    refine respects_append_error hv ha ha (fun _ up hup => ?_) bytes
    have hd : key.directory ≠ "" := fun he => h.not_stands (.inl he)
    rw [Path.parent?_join hd hn] at hup
    obtain rfl := Option.some.inj hup
    refine respects_createDirectories fun _ _ hf => ?_
    rw [hf.1, hf.2, h.trimmed]
    exact ⟨rfl, rfl, rfl⟩
  sweep := respects_sweep_of_nil rfl fun _ hl => eq_nil_of_list h.not_stands hl

/-- A directory that can be created and has no file of a signal then. -/
structure Vacant (directory : Path) (tree : FileTree) : Prop where
  created : (tree.createDirectories directory).2 = .ok ()
  empty : ∀ signal place, (SlotKey.mk directory signal).owns place = true →
    (tree.createDirectories directory).1.get? place = none

/-- A signal has no file there, before the directory is created and after it. -/
theorem Vacant.part_eq (h : Vacant directory files) (signal : Signal) :
    files.part (SlotKey.mk directory signal).owns = {} ∧
      (files.createDirectories directory).1.part (SlotKey.mk directory signal).owns = {} := by
  have hfiles := files.sameFiles_createDirectories directory
  have hempty := h.empty signal
  exact ⟨FileTree.part_eq_empty (fun _ => SlotKey.alwaysExists_of_owns)
      fun place ho => hfiles.get?_eq_none (hempty place ho),
    FileTree.part_eq_empty (fun _ => SlotKey.alwaysExists_of_owns) hempty⟩

/-- The trees are the same, or in one of them the directory has still to be created. -/
def Ahead (directory : Path) (tree files files' : FileTree) : Prop :=
  files = files' ∨ Exactly tree (tree.createDirectories directory).1 files files'

section Vacant

variable (hv : Vacant key.directory files) (hs : ¬ files.Stands key.directory)
include hv hs

/-- No file is listed before the directory is created, and none after it. -/
theorem Vacant.list_eq : list files key.directory key.signal = .ok [] ∧
    list (files.createDirectories key.directory).1 key.directory key.signal = .ok [] := by
  have hstat := FileTree.stat_of_createDirectories hs hv.created
  have hstands := FileTree.stands_of_createDirectories hv.created
  refine ⟨?_, ?_⟩
  · rw [list, FileTree.list_of_stat_error hstat]
  · rw [list_of_stands hstands, (hv.part_eq key.signal).2]
    simp

/-- A line is appended whether or not the directory has been created: if it has not, that is done
first. -/
theorem respects_append_ahead {sink : FileSink} {space : Space} {fault : Option (Nat × String)}
    (hvol : sink.volume = .answering space fault) (hp : OwnPath key path) (bytes : Bytes) :
    (sink.append path bytes).Respects (Twin key (Ahead key.directory files) s₀ t₀)
      fun _ => True := by
  intro s t h
  rcases h.files with hf | hf
  · obtain ⟨outcome, s', t', hs', ht', hR, hP⟩ := kin_eq.append hvol hp bytes s t (h.mono hf)
    exact ⟨outcome, s', t', hs', ht', hR.mono (.inl hR.files), hP⟩
  have hstands := FileTree.stands_of_createDirectories hv.created
  obtain ⟨name, hn, hb, rfl⟩ := hp
  rcases FileTree.resolve_join_of_createDirectories hs hv.created hn
    with ⟨error, hne, hr, hr'⟩ | hr
  · -- The text of the path is not good for any tree.
    obtain ⟨outcome, s', t', hs', ht', hR, hP⟩ := respects_append_error hvol
      (fun bytes => by rw [FileTree.append, hr]; rfl)
      (fun bytes => by rw [FileTree.append, hr']; rfl) (fun he => absurd he hne) bytes s t
      (h.mono hf)
    exact ⟨outcome, s', t', hs', ht', hR.mono (.inr hR.files), hP⟩
  · -- The directory is created on the left, and then both trees are the same.
    obtain ⟨outcome, s', t', hs', ht', hR, hP⟩ := respects_appendOnce_eq hvol bytes _ t
      (Twin.withFiles h hf.2.symm)
    refine ⟨outcome, s', t', ?_, ?_, hR.mono (.inl hR.files), hP⟩
    · have hmissing : s.files.append (Path.join key.directory name) bytes = .error .notFound := by
        rw [hf.1, FileTree.append, hr]
        rfl
      have hcreated : (createDirectories (Path.trimmed key.directory)).Ends s (.ok ())
          { s with files := (files.createDirectories key.directory).1 } := by
        rw [ends_createDirectories_iff, hf.1, FileTree.createDirectories_trimmed hv.created,
          hv.created]
        exact ⟨rfl, rfl⟩
      rw [FileSink.append, Task.ends_look_bind_iff, hmissing]
      dsimp only
      rw [Path.parent?_join (fun he => hs (.inl he)) hn]
      exact (Task.ends_bind_ok hcreated).2 hs'
    · rw [← hf.2] at hstands
      exact (ends_append_iff ⟨name, hn, hb, rfl⟩ bytes hstands).2 ht'

/-- Work under a key does not see whether a directory that is vacant has been created. -/
theorem kin_ahead : Kin key (Ahead key.directory files) where
  size h hp := by
    rcases h with rfl | ⟨rfl, rfl⟩
    · rfl
    · obtain ⟨name, hn, hb, rfl⟩ := hp
      have howns := OwnPath.owns_place ⟨name, hn, hb, rfl⟩
      rw [FileTree.size?_join_eq_none hs hn,
        FileTree.size?_eq_none (hv.empty key.signal _ howns)]
  list h := by
    rcases h with rfl | ⟨rfl, rfl⟩
    · rfl
    · rw [(hv.list_eq hs).1, (hv.list_eq hs).2]
  create := by
    refine respects_createDirectories fun _ _ hf => ?_
    rcases hf with rfl | ⟨rfl, rfl⟩
    · exact ⟨rfl, .inl rfl⟩
    · rw [(FileTree.stands_of_createDirectories hv.created).createDirectories]
      exact ⟨hv.created, .inl rfl⟩
  append hvol hp bytes := respects_append_ahead hv hs hvol hp bytes
  sweep := by
    intro s₀ t₀ s t h
    rcases h.files with hf | hf
    · obtain ⟨outcome, s', t', hs', ht', hR, hP⟩ := kin_eq.sweep s t (h.mono hf)
      exact ⟨outcome, s', t', hs', ht', hR.mono (.inl hR.files), hP⟩
    · obtain ⟨outcome, s', t', hs', ht', hR, hP⟩ := respects_sweep_of_nil
        ((hv.list_eq hs).1.trans (hv.list_eq hs).2.symm)
        (fun paths hl => (Except.ok.inj ((hv.list_eq hs).1.symm.trans hl)).symm) s t (h.mono hf)
      exact ⟨outcome, s', t', hs', ht', hR.mono (.inr hR.files), hP⟩

end Vacant

/-- What becomes of a directory when one of its signals needs it cannot be seen by the others: it is
there, or it will be without a file of them, or it cannot be created at all. -/
inductive Founded (directory : Path) (tree : FileTree) : Prop
  | stands : tree.Stands directory → Founded directory tree
  | vacant : Vacant directory tree → Founded directory tree
  | barred : Barred directory tree → Founded directory tree

/-- A file that its directory does not show to a path over another one that is missing. -/
def hidden : Store where
  files := ⟨[(["out"], .directory),
    (["out", "traces.19700101_000000_000.ndjson"], .file (Bytes.ofText "old\n"))]⟩
  clock := .still .epoch

/-- A store in which signals of a directory do not see each other: its directory is founded, no name
has a slash, and active paths are named by instants. -/
structure Orderly (directory : Path) (s : Store) : Prop where
  founded : Founded directory s.files
  proper : s.files.Proper
  named : Named directory s

end Store

namespace Visit

open Store (Alike Twin SameOthers Named Exactly Barred Vacant Ahead Orderly)

variable {directory : Path} {s t : Store}

/-! ## Directories that cannot be created -/

/-- Where the directory cannot be created signals see nothing of each other. -/
theorem shielded_barred {files : FileTree} (h : Barred directory files) :
    Shielded directory fun s => s.files = files ∧ Named directory s := by
  have made : ∀ (visit : Visit) (s t : Store), s.files = files ∧ Named directory s →
      t.files = files ∧ Named directory t → Alike (visit.key directory) s t →
      (visit.make directory s).1 = (visit.make directory t).1 ∧
        Twin (visit.key directory) (Exactly files files) s t
          (visit.make directory s).2 (visit.make directory t).2 := fun visit s t hs ht ha =>
    visit.twin_make (Store.kin_barred h) hs.2 ha.closed ha.active ⟨hs.1, ht.1⟩
  refine ⟨fun visit s hs => ?_, fun visit s hs => ?_, fun visit s t hs ht ha => ?_⟩
  · have htwin := (made visit s s hs hs (.refl _ s)).2
    exact ⟨htwin.files.1, visit.named_of_twin htwin hs.2⟩
  · have htwin := (made visit s s hs hs (.refl _ s)).2
    exact ⟨htwin.left, by rw [htwin.files.1, hs.1]⟩
  · obtain ⟨htell, htwin⟩ := made visit s t hs ht ha
    exact ⟨htell, htwin.closed, htwin.active, by rw [htwin.files.1, htwin.files.2]⟩

/-! ## Directories that are vacant -/

/-- A store is that of another one, or its directory has still to be created. -/
structure Foreruns (directory : Path) (tree : FileTree) (s t : Store) : Prop where
  files : Ahead directory tree s.files t.files
  active : ∀ key, s.rotation.active? key = t.rotation.active? key
  closed : s.rotation.closed = t.rotation.closed
  named : Named directory s
  stood : Stood directory t

/-- A visit leaves what is active for other signals. -/
theorem others_make (visit : Visit) (hn : Named directory s) :
    SameOthers (visit.key directory) s.rotation (visit.make directory s).2.rotation :=
  (visit.twin_make Store.kin_eq hn rfl rfl rfl).2.left

/-- A visit does the same to the same files, if work for another signal has been done at most. -/
theorem files_make (visit : Visit) {other : Visit}
    (h : SameOthers (other.key directory) s.rotation t.rotation)
    (hne : visit.signal ≠ other.signal) (hn : Named directory s) (hf : t.files = s.files) :
    (visit.make directory t).2.files = (visit.make directory s).2.files := by
  have hkey : (visit.key directory).id ≠ (other.key directory).id :=
    fun he => hne (congrArg SlotId.signal he)
  have htwin := (visit.twin_make Store.kin_eq hn h.closed.symm (h.active _ hkey).symm hf.symm).2
  exact htwin.files.symm

section Vacant

variable {tree : FileTree} (hv : Vacant directory tree) (hs : ¬ tree.Stands directory)
include hv hs

/-- A visit tells the same before the directory is created. -/
theorem Foreruns.make (h : Foreruns directory tree s t) (visit : Visit) :
    (visit.make directory s).1 = (visit.make directory t).1 ∧
      Foreruns directory tree (visit.make directory s).2 (visit.make directory t).2 := by
  obtain ⟨htell, htwin⟩ := visit.twin_make (@Store.kin_ahead (visit.key directory) _ hv hs)
    h.named h.closed (h.active _) h.files
  refine ⟨htell, htwin.files, fun key => ?_, htwin.closed, visit.named_of_twin htwin h.named,
    (shielded_stood directory).stays visit t h.stood⟩
  by_cases hk : key.id = (visit.key directory).id
  · rw [Rotation.active?_eq_of_id _ hk, Rotation.active?_eq_of_id _ hk, htwin.active]
  · rw [htwin.left.active key hk, htwin.right.active key hk, h.active]

/-- So do visits one after the other. -/
theorem Foreruns.answers_eq (h : Foreruns directory tree s t) (visits : List Visit) :
    answers directory visits s = answers directory visits t ∧
      Foreruns directory tree (after directory visits s) (after directory visits t) := by
  induction visits generalizing s t with
  | nil => exact ⟨rfl, h⟩
  | cons visit visits ih =>
    obtain ⟨htell, hmade⟩ := h.make hv hs visit
    obtain ⟨hanswers, hafter⟩ := ih hmade
    exact ⟨by rw [answers, answers, htell, hanswers], hafter⟩

omit hs in
/-- No signal sees whether the directory has been created. -/
theorem Foreruns.alike (h : Foreruns directory tree s t) (signal : Signal) :
    Alike ⟨directory, signal⟩ s t := by
  refine ⟨h.closed, h.active _, ?_⟩
  rcases h.files with hf | ⟨hf, hf'⟩
  · rw [hf]
  · rw [hf, hf', (hv.part_eq signal).1, (hv.part_eq signal).2]

omit hv hs in
/-- Either the directory stands, or nothing has been done to the files. -/
theorem Foreruns.stood_or (h : Foreruns directory tree s t) :
    Stood directory s ∨ s.files = tree := by
  rcases h.files with hf | hf
  · exact .inl ⟨by rw [hf]; exact h.stood.stands, by rw [hf]; exact h.stood.proper, h.named⟩
  · exact .inr hf.1

/-- If two visits leave the files alone, they do so in the other order too. -/
theorem Foreruns.files_comm (h : Foreruns directory tree s t) {a b : Visit}
    (hne : a.signal ≠ b.signal) (hf : (b.make directory (a.make directory s).2).2.files = tree) :
    (a.make directory (b.make directory s).2).2.files = tree := by
  have idle : ∀ {u v : Store} (visit : Visit), Foreruns directory tree u v →
      (visit.make directory u).2.files = tree → u.files = tree := by
    intro u v visit hu hmade
    rcases hu.stood_or with hstood | hfiles
    · have hstands := ((shielded_stood directory).stays visit u hstood).stands
      rw [hmade] at hstands
      exact absurd hstands hs
    · exact hfiles
  have hafter := idle b (h.make hv hs a).2 hf
  have hbefore := idle a h hafter
  -- Neither visit sees what the other one has done, so it leaves the files alone as well.
  have hb : (b.make directory s).2.files = tree :=
    (b.files_make (a.others_make h.named) hne.symm h.named
      (hafter.trans hbefore.symm)).symm.trans hf
  exact (a.files_make (b.others_make h.named) hne h.named (hb.trans hbefore.symm)).trans hafter

/-- Visits of different signals can be made in either order. -/
theorem Foreruns.commute (h : Foreruns directory tree s t) {a b : Visit}
    (hne : a.signal ≠ b.signal) : Commute directory a b s := by
  have hcommute := (shielded_stood directory).commute a b h.stood hne
  obtain ⟨ha, hmadeA⟩ := h.make hv hs a
  obtain ⟨hb, hmadeB⟩ := h.make hv hs b
  obtain ⟨hba, hmadeBA⟩ := hmadeA.make hv hs b
  obtain ⟨hab, hmadeAB⟩ := hmadeB.make hv hs a
  refine ⟨by rw [hab, ha, hcommute.left], by rw [hba, hb, hcommute.right], fun place => ?_,
    fun key => by rw [hmadeBA.active, hmadeAB.active, hcommute.coincides.active],
    by rw [hmadeBA.closed, hmadeAB.closed, hcommute.coincides.closed]⟩
  by_cases hidle : (b.make directory (a.make directory s).2).2.files = tree
  · rw [hidle, h.files_comm hv hs hne hidle]
  · have hidle' : (a.make directory (b.make directory s).2).2.files ≠ tree :=
      fun hf => hidle (h.files_comm hv hs hne.symm hf)
    rw [hmadeBA.files.resolve_right fun hf => hidle hf.1,
      hmadeAB.files.resolve_right fun hf => hidle' hf.1, hcommute.coincides.files]

end Vacant

/-! ## All of them -/

/-- Signals do not interfere, whatever has been done to them before, if what becomes of their
directory does not show. -/
theorem separate (h : Orderly directory s) (visits : List Visit) : Separate directory visits s := by
  have ofStands : s.files.Stands directory → Separate directory visits s := fun hs =>
    (shielded_stood directory).separate_after ⟨hs, h.proper, h.named⟩ visits
  cases h.founded with
  | stands hs => exact ofStands hs
  | barred hb => exact (shielded_barred hb).separate_after ⟨rfl, h.named⟩ visits
  | vacant hv =>
    by_cases hs : s.files.Stands directory
    · exact ofStands hs
    let t : Store := { s with files := (s.files.createDirectories directory).1 }
    have hstart : Foreruns directory s.files s t :=
      ⟨.inr ⟨rfl, rfl⟩, fun _ => rfl, rfl, h.named,
        FileTree.stands_of_createDirectories hv.created,
        (s.files.sameFiles_createDirectories directory).proper h.proper, h.named⟩
    refine ⟨fun a b hne => (hstart.answers_eq hv hs visits).2.commute hv hs hne, fun signal => ?_⟩
    obtain ⟨hanswers, hafter⟩ := hstart.answers_eq hv hs visits
    obtain ⟨halone, hleft⟩ := hstart.answers_eq hv hs (visits.filter (·.signal = signal))
    obtain ⟨hown, halike⟩ :=
      ((shielded_stood directory).separate_after hstart.stood visits).alone signal
    exact ⟨by rw [hanswers, hown, halone],
      (hafter.alike hv signal).trans (halike.trans (hleft.alike hv signal).symm)⟩

/-- Visits of two signals to a store whose directory has still to be created. -/
theorem separate_fresh :
    let s : Store := { clock := .still .epoch }
    let record : Record := ⟨.traces, "line\n", false, .epoch, by simp⟩
    let visits : List Visit := [⟨.still .epoch, .list .logs⟩,
      ⟨.still .epoch, .write .all 100 (.available 1000000000) none record false⟩,
      ⟨.still .epoch, .rotate .logs⟩, ⟨.still .epoch, .clear .traces⟩]
    Orderly "out" s ∧ Separate "out" visits s := by
  have hvacant : Vacant "out" {} := by
    refine ⟨rfl, fun signal place ho => ?_⟩
    obtain ⟨name, rfl, -⟩ := SlotKey.exists_of_owns ho
    have hplace : Path.place "out" = ["out"] := by decide
    have hcreated : (({} : FileTree).createDirectories "out").1 = ⟨[(["out"], .directory)]⟩ := rfl
    rw [hcreated, FileTree.get?, SlotKey.alwaysExists_of_owns ho, hplace]
    rfl
  have h : Orderly "out" { clock := .still .epoch } :=
    ⟨.vacant hvacant, fun _ he => absurd he List.not_mem_nil, fun _ _ hb => by cases hb⟩
  exact ⟨h, separate h _⟩

/-- Signals do interfere in `missing/../out`: a listing of traces finds nothing, and after the first
path of logs, for which `missing` is created, it finds the file in `out`. -/
theorem not_forall_separate :
    ¬ ∀ (directory : Path) (visits : List Visit) (s : Store),
      s.files.Proper → Named directory s → Separate directory visits s := by
  intro h
  have hproper : Store.hidden.files.Proper := by
    have hnames : ∀ entry ∈ Store.hidden.files.entries, ∀ name ∈ entry.1, '/' ∉ name.toList := by
      decide
    exact fun entry he => ⟨[], entry.1, rfl, .inl rfl, hnames entry he⟩
  have hsame := ((h "missing/../out" [] Store.hidden hproper fun _ _ hb => by cases hb).commute
    ⟨.still .epoch, .list .traces⟩ ⟨.still .epoch, .path .logs⟩ (by decide)).left
  have hanswers := congrArg Except.toOption hsame
  revert hanswers
  decide +kernel

end Visit

end TelemetrySpool
