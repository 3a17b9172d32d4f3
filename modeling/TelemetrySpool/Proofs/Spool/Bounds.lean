import Mathlib.Data.List.Induction
import TelemetrySpool.Proofs.Spool.Deeds

/-!
# How large files become

The size of a file is looked at once, before a line is added, and never again after a rotation. That
bounds it all the same: as long as the clock goes on, a base path that is newly named belongs to no
file yet, so a line either finds its file within the limit or starts a new one. A file is over the
limit by what the last write has added to it at most, be that a line or the part of a line that the
volume has taken, whatever is done to the spool and whatever fails.
-/

namespace TelemetrySpool

open Store (exceeds sizeLimit)

namespace Spool

/-- A write that adds the line of a record of a signal, or the beginning of it, to the file at a
place: it finds `earlier` there, which is within the limit of its sink, and the file is the one of
its stream that belongs to the active base path. It succeeds exactly if the line is added as a
whole. -/
structure Adds (spool : Spool) (signal : Signal) (s : Store) (stream : Stream) (volume : Volume)
    (record : Record) (cancelled : Bool) (place : Place) (earlier part : Bytes) (s' : Store) :
    Prop where
  signal_eq : record.signal = signal
  ends : ∃ outcome, ((spool.sink stream volume).write record cancelled).Ends s outcome s' ∧
    (outcome = .ok () ↔ part = Bytes.ofText record.line)
  part_prefix : part <+: Bytes.ofText record.line
  place_eq : ∃ base, s'.rotation.active? (spool.key signal) = some base ∧
    place = (FileName.ofStream base stream).place
  earlier_eq : (s.files.file? place).getD [] = earlier
  length_le : earlier.length ≤ sizeLimit (spool.maxMb stream)
  file?_eq : s'.files.file? place = some (earlier ++ part)

/-- The file at a place as some deeds leave it: one of them, a write, has added the last line or
part of a line, and those after it have not changed the file. -/
inductive EndsIn (spool : Spool) (signal : Signal) (s : Store) (deeds : List Deed) (place : Place)
    (content : Bytes) : Prop
  | intro {before after : List Deed} {stream : Stream} {volume : Volume} {record : Record}
      {cancelled : Bool} {earlier part : Bytes}
      (split : deeds = before ++ .write stream volume record cancelled :: after)
      (adds : spool.Adds signal (spool.run s before) stream volume record cancelled place earlier
        part (spool.run s (before ++ [.write stream volume record cancelled])))
      (content_eq : content = earlier ++ part)
      (length_le : content.length ≤ sizeLimit (spool.maxMb stream) + part.length)
      (length_le_line : content.length ≤
        sizeLimit (spool.maxMb stream) + (Bytes.ofText record.line).length)
      (kept : ∀ done, done <+: after →
        (spool.run s (before ++ .write stream volume record cancelled :: done)).files.file? place =
          some content)

/-- What a deed does to the file of a signal at a place. -/
inductive Touches (spool : Spool) (signal : Signal) (s : Store) (deed : Deed) (place : Place) : Prop
  | spares : (spool.perform s deed).files.file? place = s.files.file? place →
      Touches spool signal s deed place
  | removes : (spool.perform s deed).files.file? place = none → Touches spool signal s deed place
  | adds {stream : Stream} {volume : Volume} {record : Record} {cancelled : Bool}
      {earlier part : Bytes} : deed = .write stream volume record cancelled →
      spool.Adds signal s stream volume record cancelled place earlier part
        (spool.perform s deed) →
      Touches spool signal s deed place

section Step

variable {spool : Spool} {signal : Signal} {s : Store}

/-- A write adds to one file at most, and spares the others. -/
theorem touches_write (h : Store.Confined (spool.key signal) s) (hc : s.clock.Increasing)
    (stream : Stream) (volume : Volume) {record : Record} (cancelled : Bool)
    (hs : record.signal = signal) (place : Place) :
    spool.Touches signal s (.write stream volume record cancelled) place := by
  have hw := spool.writes_of_perform (s := s) stream volume record cancelled
  have hkey := spool.key_sink stream volume hs
  by_cases hsame : (spool.perform s (.write stream volume record cancelled)).files.file? place =
      s.files.file? place
  · exact .spares hsame
  · rcases hw.file?_cases with ⟨-, hall⟩ | ⟨base, part, ha, hprefix, hwhole, hfiles⟩
    · exact absurd (hall place) hsame
    · rw [hkey] at ha
      have hplace : place = (FileName.ofStream base stream).place := by
        by_contra hne
        exact hsame ((hfiles place).trans (if_neg hne))
      have hsmall := h.length_le_of_writes hc hkey hw ha hsame
      have hgrown := (hfiles place).trans (if_pos hplace)
      subst hplace
      exact .adds rfl ⟨hs, ⟨_, Task.ends_self _ _, hwhole⟩, hprefix, ⟨base, ha, rfl⟩, rfl, hsmall,
        hgrown⟩

/-- A file of one signal is not one that a write of another signal could change. -/
theorem isFileOf_eq_false {other : Signal} (hne : other ≠ signal) {name : String}
    (hn : FileName.belongsTo signal name) (directory : Path) (stream : Stream) :
    FileName.isFileOf directory other stream (directory.place ++ [name]) = false := by
  rw [Bool.eq_false_iff]
  intro hf
  rw [FileName.isFileOf, Bool.and_eq_true, List.getLast?_concat, Option.any_some] at hf
  have hother := (FileName.belongsToStream_iff.1 hf.2).1
  exact hne (FileName.signal_unique (FileName.belongsTo_iff.1 hother).1
    (FileName.belongsTo_iff.1 hn).1)

/-- What a deed does to a file of a signal. -/
theorem touches (h : Store.Confined (spool.key signal) s) (hc : s.clock.Increasing)
    (deed : Deed) {name : String} (hn : FileName.belongsTo signal name) :
    spool.Touches signal s deed (spool.directory.place ++ [name]) := by
  cases deed with
  | path other => exact .spares (file?_path spool s other _)
  | rotate other => exact .spares (file?_rotate spool s other _)
  | write stream volume record cancelled =>
    have hw := spool.writes_of_perform (s := s) stream volume record cancelled
    by_cases hs : record.signal = signal
    · exact touches_write h hc stream volume cancelled hs _
    · exact .spares (hw.file?_of_not_isFileOf h.named (isFileOf_eq_false hs hn _ _))
  | clear cleared =>
    have hsw := Store.Swept.of_clear (Task.ends_self (Store.clear spool.directory cleared) s)
    rcases (hsw.files h.proper).file?_eq (spool.directory.place ++ [name]) with he | ⟨-, he⟩
    · exact .spares he
    · exact .removes he

/-- A write of a record goes this far first: it finds a base path, and the store is `looked`. -/
def FindsFirst (spool : Spool) (record : Record) (cancelled : Bool) (s : Store) (base : Path)
    (looked : Store) : Prop :=
  (do
    Store.enter (spool.key record.signal) cancelled
    Store.activePath (spool.key record.signal)).Ends s (.ok base) looked

/-- What a write finds first is found by a request for the active path. -/
theorem FindsFirst.finds {record : Record} {cancelled : Bool} {base : Path} {looked : Store}
    (h : spool.FindsFirst record cancelled s base looked) :
    ∃ s₁, Store.Opened s s₁ ∧ Store.Finds (spool.key record.signal) s₁ base looked := by
  obtain ⟨_, s₁, hent, hpath⟩ := Task.ends_bind_ok_iff.1 h
  refine ⟨s₁, Store.opened_of_enter hent, ?_⟩
  rcases Store.activePath_cases hpath with ⟨_, hb, hf⟩ | ⟨_, _, hb, _⟩
  · obtain rfl := Except.ok.inj hb
    exact hf
  · cases hb

/-- A write that finds the file of its stream over the limit settles on a newly named base path. -/
theorem FindsFirst.settles {record : Record} {cancelled : Bool} {base base' : Path}
    {looked s₁ s₂ : Store} {stream : Stream} {volume : Volume}
    (h : spool.FindsFirst record cancelled s base looked)
    (hx : exceeds looked.files (FileName.ofStream base stream) (spool.maxMb stream) = true)
    (ho : Store.Opened s s₁)
    (hset : FileSink.Settles (spool.sink stream volume) record.signal s₁ base' s₂) :
    ∃ s₃, Store.Finds (spool.key record.signal) s₁ base s₃ ∧
      base' = Store.rotated (spool.key record.signal) s₃ ∧
      s₂ = Store.afterRotation (spool.key record.signal) s₃ := by
  obtain ⟨s₀, ho₀, hfinds⟩ := h.finds
  -- Both have looked at the same store, but for slots that have been opened.
  have same : ∀ {b : Path} {t : Store}, Store.Finds (spool.key record.signal) s₁ b t →
      b = base ∧ t.files = looked.files := by
    intro b t hf
    refine hf.unique hfinds (ho.files.trans ho₀.files.symm) (ho.clock.trans ho₀.clock.symm) ?_
    rw [ho.rotation.active, ho₀.rotation.active]
  cases hset with
  | found hf hle =>
    obtain ⟨rfl, hfiles⟩ := same hf
    rw [hfiles] at hle
    exact absurd (hle.symm.trans hx) Bool.false_ne_true
  | rotated hf _ =>
    obtain ⟨rfl, -⟩ := same hf
    exact ⟨_, hf, rfl, rfl⟩

/-- A write that finds a file over the limit and succeeds puts its line into a new file. -/
theorem starts_file (h : Store.Confined (spool.key signal) s) (hc : s.clock.Increasing)
    {stream : Stream} {volume : Volume} {record : Record} {cancelled : Bool} {base : Path}
    {looked s' : Store} (hs : record.signal = signal)
    (hfirst : spool.FindsFirst record cancelled s base looked)
    (hx : exceeds looked.files (FileName.ofStream base stream) (spool.maxMb stream) = true)
    (hend : ((spool.sink stream volume).write record cancelled).Ends s (.ok ()) s') :
    ∃ place, FileName.isFileOf spool.directory signal stream place ∧
      s.files.file? place = none ∧
      ∀ other, s'.files.file? other =
        if other = place then some (Bytes.ofText record.line) else s.files.file? other := by
  subst hs
  have hw := FileSink.writes_of_ends hend
  obtain ⟨base', ha, hfiles⟩ := hw.file?_of_ok
  cases hw with
  | @stored s₁ s₂ _ base'' files _ _ ho hset hr hclock hf hg =>
    have hbase : base' = base'' := by
      rw [hr] at ha
      exact Option.some.inj (ha.symm.trans hset.active)
    obtain ⟨s₃, hfinds, hrotated, -⟩ := hfirst.settles hx ho hset
    have hc₃ : s₃.clock.Increasing :=
      (hc.of_framed (ho.framed (spool.key record.signal))).of_framed hfinds.framed
    have hs₃ : Store.Confined (spool.key record.signal) s₃ :=
      ((h.of_opened ho).of_finds hfinds).1
    have hnew : s.files.file? (FileName.ofStream base' stream).place = none := by
      rw [← ho.files, ← hfinds.files.file?_eq, hbase, hrotated]
      exact hs₃.file?_rotated hc₃ stream
    refine ⟨(FileName.ofStream base' stream).place, ?_, hnew, fun other => ?_⟩
    · rw [hbase, hrotated, hs₃.rotated_eq hc₃]
      exact FileName.isFileOf_ofStream spool.directory record.signal s₃.clock.now stream
    · rw [hfiles]
      by_cases hp : other = (FileName.ofStream base' stream).place
      · rw [hp, hnew]
        rfl
      · rw [if_neg hp]
        exact if_neg hp

end Step

section Run

variable {spool : Spool} {signal : Signal} {s : Store}

/-- What is spared by one more deed still ends as it did. -/
theorem EndsIn.concat {deeds : List Deed} {deed : Deed} {place : Place} {content : Bytes}
    (h : spool.EndsIn signal s deeds place content)
    (hkept : (spool.run s (deeds ++ [deed])).files.file? place = some content) :
    spool.EndsIn signal s (deeds ++ [deed]) place content := by
  obtain @⟨before, after, stream, volume, record, cancelled, earlier, part, hsplit, hadds, hcontent,
    hlength, hline, hall⟩ := h
  have hsplit' : deeds ++ [deed] =
      before ++ .write stream volume record cancelled :: (after ++ [deed]) := by
    rw [hsplit, List.append_assoc, List.cons_append]
  refine .intro hsplit' hadds hcontent hlength hline fun done hdone => ?_
  rcases List.prefix_concat_iff.1 hdone with rfl | hdone
  · rw [← hsplit']
    exact hkept
  · exact hall done hdone

/-- What has just been added comes last. -/
theorem Adds.endsIn {deeds : List Deed} {stream : Stream} {volume : Volume} {record : Record}
    {cancelled : Bool} {place : Place} {earlier part : Bytes}
    (h : spool.Adds signal (spool.run s deeds) stream volume record cancelled place earlier part
      (spool.run s (deeds ++ [.write stream volume record cancelled]))) :
    spool.EndsIn signal s (deeds ++ [.write stream volume record cancelled]) place
      (earlier ++ part) := by
  have hlength : (earlier ++ part).length ≤ sizeLimit (spool.maxMb stream) + part.length := by
    rw [List.length_append]
    exact Nat.add_le_add_right h.length_le _
  have hpart := h.part_prefix.length_le
  refine .intro rfl h rfl hlength (by omega) fun done hdone => ?_
  obtain rfl := List.prefix_nil.1 hdone
  exact h.file?_eq

/-- Base paths are past all along. -/
theorem Unused.confined_run (h : spool.Unused signal s) (deeds : List Deed) :
    (spool.run s deeds).clock.Increasing ∧
      Store.Confined (spool.key signal) (spool.run s deeds) := by
  induction deeds using List.reverseRecOn with
  | nil => exact ⟨h.increasing, h.confined⟩
  | append_singleton deeds deed ih =>
    obtain ⟨hc, hs⟩ := ih
    rw [run_concat]
    refine ⟨?_, confined_perform hs hc deed⟩
    rw [Clock.Increasing, (clock_perform spool _ deed).reading]
    exact hc

/-- Every file of the signal ends in what a write of its own stream has added, which found it within
the limit. -/
theorem Unused.endsIn (h : spool.Unused signal s) (deeds : List Deed) {name : String}
    (hn : FileName.belongsTo signal name) {content : Bytes}
    (hf : (spool.run s deeds).files.file? (spool.directory.place ++ [name]) = some content) :
    spool.EndsIn signal s deeds (spool.directory.place ++ [name]) content := by
  induction deeds using List.reverseRecOn generalizing content with
  | nil =>
    have hnone := h.file?_eq name hn
    rw [show spool.run s [] = s from rfl, hnone] at hf
    cases hf
  | append_singleton deeds deed ih =>
    obtain ⟨hc, hs⟩ := h.confined_run deeds
    cases touches hs hc deed hn with
    | spares he =>
      rw [← run_concat, hf] at he
      exact (ih he.symm).concat hf
    | removes he =>
      rw [← run_concat, hf] at he
      cases he
    | adds hdeed hadds =>
      subst hdeed
      rw [← run_concat] at hadds
      obtain rfl := Option.some.inj (hf.symm.trans hadds.file?_eq)
      exact hadds.endsIn

/-- What holds of the files of a signal after some deeds, and of the write that comes next. -/
structure Bounded (spool : Spool) (signal : Signal) (s : Store) (deeds : List Deed) : Prop where
  /-- A file is over the limit by the last line, or part of a line, at most. -/
  endsIn : ∀ name content, FileName.belongsTo signal name →
    (spool.run s deeds).files.file? (spool.directory.place ++ [name]) = some content →
      spool.EndsIn signal s deeds (spool.directory.place ++ [name]) content
  /-- After a file that is over the limit comes one that was not there before. -/
  starts : ∀ stream volume record cancelled base looked size s', record.signal = signal →
    spool.FindsFirst record cancelled (spool.run s deeds) base looked →
    looked.files.size? (FileName.ofStream base stream) = some size →
    sizeLimit (spool.maxMb stream) < size →
    ((spool.sink stream volume).write record cancelled).Ends (spool.run s deeds) (.ok ()) s' →
      ∃ place, FileName.isFileOf spool.directory signal stream place ∧
        (spool.run s deeds).files.file? place = none ∧
        ∀ other, s'.files.file? other =
          if other = place then some (Bytes.ofText record.line)
          else (spool.run s deeds).files.file? other

/-- Whatever is done to a spool, the files of a signal stay bounded. What is said of the write that
comes next holds of every write of a run, for what comes before it is a run as well. -/
theorem Unused.files_bounded (h : spool.Unused signal s) (deeds : List Deed) :
    spool.Bounded signal s deeds where
  endsIn _ _ hn hf := h.endsIn deeds hn hf
  starts stream _ _ _ base looked size _ hs hfirst hsize hlt hend := by
    obtain ⟨hc, hbefore⟩ := h.confined_run deeds
    have hx : exceeds looked.files (FileName.ofStream base stream) (spool.maxMb stream) = true := by
      rw [exceeds, hsize, Option.any_some]
      exact decide_eq_true hlt
    exact starts_file hbefore hc hs hfirst hx hend

/-- A volume that runs full after the first octet of an append. -/
def crammed : Volume where
  space _ _ := .available 1000000000
  breakOff? _ _ bytes := if 1 < bytes.length then some (1, "No space left on device") else none
  short _ _ bytes _ _ h := by
    split at h
    · next hlong =>
      obtain ⟨rfl, -⟩ := Prod.mk.inj (Option.some.inj h)
      exact hlong
    · cases h

/-- With limits of nothing at all a second line finds its file too large, so does the line after one
that was broken off, and the file of errors follows the other one. -/
theorem bounded_empty :
    let spool : Spool := ⟨"out", fun _ => 0⟩
    let s : Store := { clock := .everyMilli }
    let record : Record := ⟨.logs, "[]\n", true, .epoch, by decide⟩
    let write (stream : Stream) (volume : Volume) : Deed := .write stream volume record false
    let roomy : Volume := .ofFree 1000000000
    let deeds := [.path .logs, write .all roomy, write .all crammed, write .all roomy,
      write .errors roomy, .clear (some .traces), write .errors roomy]
    spool.Unused .logs s ∧ (spool.run s deeds).files.entries.length = 6 ∧
      spool.Bounded .logs s deeds := by
  intro spool s record write roomy deeds
  have hunused : spool.Unused .logs s := unused_empty spool .logs Clock.increasing_everyMilli
  have hfiles : (spool.run s deeds).files.entries.length = 6 := by decide +kernel
  exact ⟨hunused, hfiles, hunused.files_bounded deeds⟩

end Run

end Spool

end TelemetrySpool
