import Mathlib.Data.List.Induction
import TelemetrySpool.Proofs.Spool.Deeds
import TelemetrySpool.Proofs.Spool.Renaming

/-!
# Whether rotation moves forward

Every reading that a slot takes names its next base path: the instant itself, or a millisecond later
if that path is active already. The names of a slot are therefore a sequence that the clock alone
determines. A name is compared with the one before it and with no other, so the sequence goes
forward exactly as long as no reading lies before the name that is active when it is taken. Then no
name comes back, and a file that has been left behind stays as it is. A clock that stands still is
enough to break this: after two rotations the second name is a millisecond ahead of it.
-/

namespace TelemetrySpool

namespace FileName

/-- A later millisecond has a base path that sorts later. -/
theorem basePath_lt (directory : Path) (signal : Signal) {t u : Instant} (ht : t.PlainYear)
    (hu : u.PlainYear) (h : t.rank < u.rank) :
    basePath directory signal t < basePath directory signal u := by
  have hstamp := String.lt_iff.1 (Instant.stamp_lt_of_rank_lt ht hu h)
  have hlength := (Instant.length_stamp ht).trans (Instant.length_stamp hu).symm
  have hbase : (base signal t).toList < (base signal u).toList := by
    simp only [base, String.toList_append, List.append_assoc]
    apply List.append_left_lt
    apply List.append_left_lt
    exact Text.append_lt_append hlength (Or.inl hstamp)
  unfold basePath Path.join
  split
  · exact String.lt_iff.2 hbase
  · simp only [String.lt_iff, String.toList_append]
    exact List.append_left_lt hbase
  · simp only [String.lt_iff, String.toList_append]
    exact List.append_left_lt hbase

/-- One millisecond has one base path. -/
theorem basePath_eq_of_rank (directory : Path) (signal : Signal) {t u : Instant}
    (h : t.rank = u.rank) : basePath directory signal t = basePath directory signal u := by
  rw [basePath, basePath, base, base, Instant.rank_eq_iff.1 h]

/-- Base paths are ordered as the milliseconds of their instants. -/
theorem basePath_lt_iff (directory : Path) (signal : Signal) {t u : Instant} (ht : t.PlainYear)
    (hu : u.PlainYear) :
    basePath directory signal t < basePath directory signal u ↔ t.rank < u.rank := by
  refine ⟨fun h => ?_, basePath_lt directory signal ht hu⟩
  rcases Int.lt_trichotomy t.rank u.rank with hlt | heq | hgt
  · exact hlt
  · rw [basePath_eq_of_rank directory signal heq] at h
    exact absurd h (String.lt_irrefl _)
  · have hback := basePath_lt directory signal hu ht hgt
    exact absurd (String.lt_trans h hback) (String.lt_irrefl _)

end FileName

namespace Clock

/-- The instants that name the base paths of a slot, one for each reading. -/
def naming (c : Clock) : Nat → Instant
  | 0 => c.reading 0
  | i + 1 =>
    if (c.reading (i + 1)).stamp = (c.naming i).stamp then (c.reading (i + 1)).addMillis 1
    else c.reading (i + 1)

/-- Names come from the readings of a clock. -/
theorem naming_congr {c c' : Clock} (h : c'.reading = c.reading) (i : Nat) :
    c'.naming i = c.naming i := by
  induction i with
  | zero => rw [naming, naming, h]
  | succ i ih => rw [naming, naming, ih, h]

/-- A reading that does not lie before a name makes a later one. -/
theorem rank_naming_lt {c : Clock} {i : Nat}
    (h : (c.naming i).rank ≤ (c.reading (i + 1)).rank) :
    (c.naming i).rank < (c.naming (i + 1)).rank := by
  rw [naming]
  split
  · exact Int.lt_of_le_of_lt h (Instant.rank_lt_addMillis _)
  · next hne =>
    have hrank : (c.naming i).rank ≠ (c.reading (i + 1)).rank := fun he =>
      hne (Instant.rank_eq_iff.1 he).symm
    omega

/-- A reading that lies before a name makes an earlier one. -/
theorem rank_naming_succ {c : Clock} {i : Nat}
    (h : (c.reading (i + 1)).rank < (c.naming i).rank) :
    (c.naming (i + 1)).rank < (c.naming i).rank := by
  rw [naming, if_neg]
  · exact h
  · intro he
    have hrank := Instant.rank_eq_iff.2 he
    omega

/-- The first names of a slot go forward exactly if no reading lies before the name that precedes
its own. -/
theorem rank_naming_lt_iff {c : Clock} {n : Nat} :
    (∀ i j, i < j → j < n → (c.naming i).rank < (c.naming j).rank) ↔
      ∀ i, i + 1 < n → (c.naming i).rank ≤ (c.reading (i + 1)).rank := by
  constructor
  · intro h i hi
    by_cases hle : (c.naming i).rank ≤ (c.reading (i + 1)).rank
    · exact hle
    · have hback := rank_naming_succ (Int.not_le.1 hle)
      have hforth := h i (i + 1) (Nat.lt_succ_self i) hi
      omega
  · intro h i j hij hj
    induction j with
    | zero => omega
    | succ j ih =>
      have hstep := rank_naming_lt (h j hj)
      by_cases hi : i = j
      · rw [hi]
        exact hstep
      · exact Int.lt_trans (ih (by omega) (by omega)) hstep

end Clock

namespace Store

variable {key : SlotKey} {s s' : Store}

/-- The name that follows an active one is that of the reading, or of the next millisecond. -/
theorem freshPath_naming (key : SlotKey) (c : Clock) (i : Nat) :
    freshPath key (some (key.basePath (c.naming i))) freshPathSteps (c.reading (i + 1)) =
      key.basePath (c.naming (i + 1)) := by
  rw [Clock.naming]
  split
  · next hsame =>
    have hactive : (some (key.basePath (c.naming i))).map Path.route =
        some (FileName.basePath key.directory key.signal (c.reading (i + 1))).route := by
      rw [FileName.basePath, FileName.base, hsame]
      rfl
    exact (Renames.once hactive).freshPath_eq (by decide)
  · next hne =>
    refine freshPath_of_ne _ fun he => hne ?_
    exact (FileName.stamp_eq_of_route (Option.some.inj he)).symm

/-- The clock has named every base path of a slot, and the last one is active. -/
def NamedLast (key : SlotKey) (s : Store) : Prop :=
  (s.clock.next = 0 ∧ s.rotation.active? key = none) ∨
    ∃ i, s.clock.next = i + 1 ∧ s.rotation.active? key = some (key.basePath (s.clock.naming i))

namespace NamedLast

/-- What is active is named by the last reading. -/
theorem active_eq (h : NamedLast key s) {base : Path} (ha : s.rotation.active? key = some base) :
    ∃ i, s.clock.next = i + 1 ∧ base = key.basePath (s.clock.naming i) := by
  rcases h with ⟨-, hnone⟩ | ⟨i, hnext, hactive⟩
  · rw [hnone] at ha
    cases ha
  · exact ⟨i, hnext, Option.some.inj (ha.symm.trans hactive)⟩

/-- What was named last depends on the active path and the clock. -/
theorem congr (h : NamedLast key s) (hr : s'.rotation.active? key = s.rotation.active? key)
    (hc : s'.clock = s.clock) : NamedLast key s' := by
  rw [NamedLast, hr, hc]
  exact h

/-- Opening slots names nothing. -/
theorem of_opened (h : NamedLast key s) (ho : Opened s s') : NamedLast key s' :=
  h.congr (ho.rotation.active key) ho.clock

/-- Without a name the first reading gives one. -/
theorem of_finds (h : NamedLast key s) {base : Path} (hf : Finds key s base s') :
    NamedLast key s' := by
  cases hf with
  | active _ => exact h
  | new ha _ =>
    rcases h with ⟨hzero, -⟩ | ⟨i, -, hi⟩
    · right
      refine ⟨0, congrArg Nat.succ hzero, ?_⟩
      rw [Rotation.active?_activate, if_pos rfl, Clock.now, hzero]
      rfl
    · rw [hi] at ha
      cases ha

/-- A rotation makes the name of the reading that it takes active. -/
theorem rotated_eq (h : NamedLast key s) :
    rotated key s = key.basePath (s.clock.naming s.clock.next) := by
  rcases h with ⟨hzero, hnone⟩ | ⟨i, hnext, hactive⟩
  · rw [rotated, hnone, Clock.now, hzero]
    exact freshPath_of_ne _ (by simp)
  · rw [rotated, hactive, Clock.now, hnext]
    exact freshPath_naming key s.clock i

/-- A rotation names what its reading says. -/
theorem of_afterRotation (h : NamedLast key s) : NamedLast key (afterRotation key s) := by
  right
  refine ⟨s.clock.next, rfl, ?_⟩
  have hreading : s.clock.tick.reading = s.clock.reading := rfl
  have hsame : s.clock.tick.naming s.clock.next = s.clock.naming s.clock.next :=
    Clock.naming_congr hreading _
  rw [afterRotation, Rotation.active?_activate, if_pos rfl, h.rotated_eq, hsame]

/-- So does the first request for a path. -/
theorem of_activePath (h : NamedLast key s) {outcome : Except SinkError Path}
    (he : (activePath key).Ends s outcome s') : NamedLast key s' := by
  rcases activePath_cases he with ⟨_, -, hf⟩ | ⟨-, _, -, rfl⟩
  · exact h.of_finds hf
  · exact h

/-- Settling on a base path is a request, a rotation or both. -/
theorem of_settles (h : NamedLast key s) {sink : FileSink} {signal : Signal} {base : Path}
    (hkey : sink.key signal = key) (hset : FileSink.Settles sink signal s base s') :
    NamedLast key s' := by
  subst hkey
  cases hset with
  | found hf _ => exact h.of_finds hf
  | rotated hf _ => exact (h.of_finds hf).of_afterRotation

/-- A write names what it settles on. -/
theorem of_writes (h : NamedLast key s) {sink : FileSink} {record : Record} {cancelled : Bool}
    {outcome : Except SinkError Unit} (hkey : sink.key record.signal = key)
    (hw : sink.Writes record cancelled s outcome s') : NamedLast key s' := by
  cases hw with
  | shutDown _ => exact h
  | cancelled _ _ ho => exact h.of_opened ho
  | unnamed _ _ ho _ => exact (h.of_opened ho).congr rfl rfl
  | unstored _ _ ho hset hr hc _ _ _ =>
    exact ((h.of_opened ho).of_settles hkey hset).congr (by rw [hr]) hc
  | broken _ _ ho hset hr hc _ _ _ =>
    exact ((h.of_opened ho).of_settles hkey hset).congr (by rw [hr]) hc
  | stored _ _ ho hset hr hc _ _ =>
    exact ((h.of_opened ho).of_settles hkey hset).congr (by rw [hr]) hc

end NamedLast

end Store

/-- Whether a deed concerns the slot of a signal and clears nothing. -/
def Deed.NamesOnly (signal : Signal) : Deed → Prop
  | .path other => other = signal
  | .rotate other => other = signal
  | .write _ _ record _ => record.signal = signal
  | .clear _ => False

namespace Spool

variable {spool : Spool} {signal : Signal} {s : Store}

open Store (NamedLast)

/-- A deed makes no name active but the last one. -/
theorem namedLast_perform (h : NamedLast (spool.key signal) s) {deed : Deed}
    (hd : deed.NamesOnly signal) : NamedLast (spool.key signal) (spool.perform s deed) := by
  cases deed with
  | path other =>
    obtain rfl : other = signal := hd
    refine Task.rel_of_ends_bind
      (fun a b => NamedLast (spool.key other) a → NamedLast (spool.key other) b)
      (fun hab hbc ha => hbc (hab ha)) (Task.ends_self (Store.requestPath (spool.key other)) s)
      (fun he ha => ha.of_opened (Store.opened_of_enter he)) (fun hp ha => ha.of_activePath hp) h
  | rotate other =>
    obtain rfl : other = signal := hd
    refine Task.rel_of_ends_bind
      (fun a b => NamedLast (spool.key other) a → NamedLast (spool.key other) b)
      (fun hab hbc ha => hbc (hab ha)) (Task.ends_self (Store.requestRotation (spool.key other)) s)
      (fun he ha => ha.of_opened (Store.opened_of_enter he)) (fun hr ha => ?_) h
    obtain ⟨-, rfl⟩ := Store.ends_rotate_iff.1 hr
    exact ha.of_afterRotation
  | write stream volume record cancelled =>
    obtain rfl : record.signal = signal := hd
    exact h.of_writes rfl (spool.writes_of_perform stream volume record cancelled)
  | clear cleared => exact absurd hd id

/-- A deed changes no file but those of the name that is active afterwards. -/
theorem file?_perform (h : NamedLast (spool.key signal) s) {deed : Deed}
    (hd : deed.NamesOnly signal) {time : Instant} {stream : Stream}
    (ha : (spool.perform s deed).rotation.active? (spool.key signal) ≠
      some ((spool.key signal).basePath time)) :
    (spool.perform s deed).files.file? ((spool.key signal).file time stream).place =
      s.files.file? ((spool.key signal).file time stream).place := by
  cases deed with
  | path other => exact file?_path spool s other _
  | rotate other => exact file?_rotate spool s other _
  | write stream' volume record cancelled =>
    obtain rfl : record.signal = signal := hd
    have hw := spool.writes_of_perform (s := s) stream' volume record cancelled
    rcases hw.file?_cases with ⟨-, hsame⟩ | ⟨base, part, hactive, -, -, hfiles⟩
    · exact hsame _
    · obtain ⟨i, -, rfl⟩ := (h.of_writes rfl hw).active_eq hactive
      rw [hfiles, if_neg]
      intro hp
      obtain ⟨hbase, -⟩ := FileName.place_ofStream_inj hp
      rw [SlotKey.basePath, hbase] at ha
      exact ha hactive
  | clear cleared => exact absurd hd id

/-- Along a run without clears the active path is the one named last. -/
theorem namedLast_run (h : NamedLast (spool.key signal) s) {deeds : List Deed}
    (hd : ∀ deed ∈ deeds, deed.NamesOnly signal) :
    NamedLast (spool.key signal) (spool.run s deeds) := by
  induction deeds using List.reverseRecOn with
  | nil => exact h
  | append_singleton deeds deed ih =>
    rw [run_concat]
    have hbefore := ih fun d hm => hd d (List.mem_append_left _ hm)
    exact namedLast_perform hbefore (hd deed (by simp))

/-- The clock goes on along a run. -/
theorem clock_run (spool : Spool) (s : Store) (deeds : List Deed) :
    s.clock.GoesOn (spool.run s deeds).clock := by
  induction deeds using List.reverseRecOn with
  | nil => exact ⟨rfl, Nat.le_refl _⟩
  | append_singleton deeds deed ih =>
    rw [run_concat]
    have hstep := clock_perform spool (spool.run s deeds) deed
    exact ⟨hstep.reading.trans ih.reading, Nat.le_trans ih.next hstep.next⟩

/-- The deeds of a slot, seen from the store in which they begin, as long as its names go forward.
-/
structure Forward (spool : Spool) (signal : Signal) (s : Store) (deeds : List Deed) : Prop where
  /-- Whenever a path is active, it is the name of the last reading. -/
  active : ∀ before after base, deeds = before ++ after →
    (spool.run s before).rotation.active? (spool.key signal) = some base →
      ∃ i, (spool.run s before).clock.next = i + 1 ∧
        base = (spool.key signal).basePath (s.clock.naming i)
  /-- A rotation returns the name of the reading that it takes. -/
  rotated : ∀ before after base s', deeds = before ++ .rotate signal :: after →
    (Store.requestRotation (spool.key signal)).Ends (spool.run s before) (.ok base) s' →
      base = (spool.key signal).basePath (s.clock.naming (spool.run s before).clock.next)
  /-- Every name sorts after those before it. -/
  sorted : ∀ i j, i < j → j < (spool.run s deeds).clock.next →
    (spool.key signal).basePath (s.clock.naming i) < (spool.key signal).basePath (s.clock.naming j)
  /-- The files of a name that another one has followed stay as they are. -/
  left : ∀ before after, deeds = before ++ after → ∀ i, i + 1 < (spool.run s before).clock.next →
    ∀ stream,
      (spool.run s deeds).files.file? ((spool.key signal).file (s.clock.naming i) stream).place =
      (spool.run s before).files.file? ((spool.key signal).file (s.clock.naming i) stream).place

/-- A rotation that succeeds returns the name of the reading that it takes. -/
theorem eq_of_requestRotation (h : NamedLast (spool.key signal) s) {base : Path} {s' : Store}
    (he : (Store.requestRotation (spool.key signal)).Ends s (.ok base) s') :
    base = (spool.key signal).basePath (s.clock.naming s.clock.next) := by
  obtain ⟨_, s₁, hent, hr⟩ := Task.ends_bind_ok_iff.1 he
  have ho := Store.opened_of_enter hent
  obtain ⟨hbase, -⟩ := Store.ends_rotate_iff.1 hr
  rw [Except.ok.inj hbase, (h.of_opened ho).rotated_eq, ho.clock]

/-- What is not active afterwards is left alone by one deed after the other. -/
theorem file?_run (h : NamedLast (spool.key signal) s) {deeds : List Deed}
    (hd : ∀ deed ∈ deeds, deed.NamesOnly signal)
    (hsorted : ∀ i j, i < j → j < (spool.run s deeds).clock.next →
      (spool.key signal).basePath (s.clock.naming i) <
        (spool.key signal).basePath (s.clock.naming j))
    {i : Nat} (hi : i + 1 < s.clock.next) (stream : Stream) :
    (spool.run s deeds).files.file? ((spool.key signal).file (s.clock.naming i) stream).place =
      s.files.file? ((spool.key signal).file (s.clock.naming i) stream).place := by
  induction deeds using List.reverseRecOn with
  | nil => rfl
  | append_singleton deeds deed ih =>
    rw [run_concat] at hsorted ⊢
    have hd' : ∀ d ∈ deeds, d.NamesOnly signal := fun d hm => hd d (List.mem_append_left _ hm)
    have hlast : deed.NamesOnly signal := hd deed (by simp)
    have hclock := clock_run spool s deeds
    have hclock' := clock_perform spool (spool.run s deeds) deed
    have hnamed := namedLast_run h hd'
    rw [← ih hd' fun i j hij hj => hsorted i j hij (Nat.lt_of_lt_of_le hj hclock'.next)]
    apply file?_perform hnamed hlast
    intro hactive
    obtain ⟨k, hk, hbase⟩ := (namedLast_perform hnamed hlast).active_eq hactive
    have hreading := hclock'.reading.trans hclock.reading
    rw [Clock.naming_congr hreading] at hbase
    have hlt : i < k := by
      have hnext := Nat.le_trans hclock.next hclock'.next
      omega
    have hback := hsorted i k hlt (by omega)
    rw [← hbase] at hback
    exact String.lt_irrefl _ hback

/-- The names of a run are sorted exactly if no reading lies before the name that precedes its own.
-/
theorem sorted_iff (spool : Spool) (signal : Signal) {c : Clock} {n : Nat}
    (hyear : ∀ i < n, (c.naming i).PlainYear) :
    (∀ i j, i < j → j < n →
      (spool.key signal).basePath (c.naming i) < (spool.key signal).basePath (c.naming j)) ↔
      ∀ i, i + 1 < n → (c.naming i).rank ≤ (c.reading (i + 1)).rank := by
  rw [← Clock.rank_naming_lt_iff]
  refine forall_congr' fun i => forall_congr' fun j => forall_congr' fun hij =>
    forall_congr' fun hj => ?_
  exact FileName.basePath_lt_iff spool.directory signal (hyear i (Nat.lt_trans hij hj)) (hyear j hj)

/-- Rotation moves forward exactly as long as no reading lies before the name that precedes its own:
then no name comes back, and what has been left behind is never written again. -/
theorem forward_iff {deeds : List Deed} (hnext : s.clock.next = 0)
    (hnone : s.rotation.active? (spool.key signal) = none)
    (hd : ∀ deed ∈ deeds, deed.NamesOnly signal)
    (hyear : ∀ i < (spool.run s deeds).clock.next, (s.clock.naming i).PlainYear) :
    spool.Forward signal s deeds ↔
      ∀ i, i + 1 < (spool.run s deeds).clock.next →
        (s.clock.naming i).rank ≤ (s.clock.reading (i + 1)).rank := by
  have hnamed : NamedLast (spool.key signal) s := Or.inl ⟨hnext, hnone⟩
  have hsorted := sorted_iff spool signal hyear
  refine ⟨fun h => hsorted.1 h.sorted, fun h => ⟨?_, ?_, hsorted.2 h, ?_⟩⟩
  · rintro before after base rfl hactive
    have hbefore := namedLast_run hnamed fun d hm => hd d (List.mem_append_left after hm)
    obtain ⟨i, hi, hbase⟩ := hbefore.active_eq hactive
    rw [Clock.naming_congr (clock_run spool s before).reading] at hbase
    exact ⟨i, hi, hbase⟩
  · rintro before after base s' rfl he
    have hbefore := namedLast_run hnamed fun d hm =>
      hd d (List.mem_append_left (.rotate signal :: after) hm)
    rw [eq_of_requestRotation hbefore he, Clock.naming_congr (clock_run spool s before).reading]
  · rintro before after rfl i hi stream
    have hbefore := namedLast_run hnamed fun d hm => hd d (List.mem_append_left after hm)
    have hafter : ∀ d ∈ after, d.NamesOnly signal := fun d hm => hd d (List.mem_append_right _ hm)
    have hrun : spool.run s (before ++ after) = spool.run (spool.run s before) after :=
      List.foldl_append
    have hnaming : (spool.run s before).clock.naming = s.clock.naming :=
      funext (Clock.naming_congr (clock_run spool s before).reading)
    have hsame := file?_run hbefore hafter (by rw [hnaming, ← hrun]; exact hsorted.2 h) hi stream
    rw [hnaming, ← hrun] at hsame
    exact hsame

/-- A clock that goes on by a millisecond with every reading. -/
theorem forward_everyMilli :
    let spool : Spool := ⟨"out", fun _ => 0⟩
    let s : Store := { clock := .everyMilli }
    let record : Record := ⟨.logs, "[]\n", false, .epoch, by decide⟩
    let write : Deed := .write .all (.constant (.available 1000000000)) record false
    let deeds := [write, write, .rotate .logs, write]
    (s.clock.next = 0 ∧ s.rotation.active? (spool.key .logs) = none ∧
      (∀ deed ∈ deeds, deed.NamesOnly .logs) ∧ (spool.run s deeds).clock.next = 3 ∧
      ∀ i < (spool.run s deeds).clock.next, (s.clock.naming i).PlainYear) ∧
    spool.Forward .logs s deeds := by
  intro spool s record write deeds
  have hd : ∀ deed ∈ deeds, deed.NamesOnly .logs := by simp [deeds, write, record, Deed.NamesOnly]
  have hthree : (spool.run s deeds).clock.next = 3 := by decide +kernel
  have hyear : ∀ i < (spool.run s deeds).clock.next, (s.clock.naming i).PlainYear := by
    rw [hthree]
    decide +kernel
  refine ⟨⟨rfl, rfl, hd, hthree, hyear⟩, (forward_iff rfl rfl hd hyear).2 ?_⟩
  rw [hthree]
  have hup : ∀ i < 2, (s.clock.naming i).rank ≤ (s.clock.reading (i + 1)).rank := by
    decide +kernel
  intro i hi
  exact hup i (by omega)

/-- A clock that stands still: the third write goes back to the base path of the first, whose file
had been left behind because it was over the limit. -/
theorem returns_standing :
    let spool : Spool := ⟨"out", fun _ => 0⟩
    let s : Store := { clock := .still .epoch }
    let record : Record := ⟨.logs, "[]\n", false, .epoch, by decide⟩
    let write : Deed := .write .all (.constant (.available 1000000000)) record false
    let after (count : Nat) : Store := spool.run s (List.replicate count write)
    let first := (spool.key .logs).basePath .epoch
    (∀ i, (s.clock.reading i).rank ≤ (s.clock.reading (i + 1)).rank) ∧
    (after 1).rotation.active? (spool.key .logs) = some first ∧
    (after 2).rotation.active? (spool.key .logs) ≠ some first ∧
    (after 3).rotation.active? (spool.key .logs) = some first ∧
    (after 2).files.file? first.place = some (Bytes.ofText "[]\n") ∧
    (after 3).files.file? first.place = some (Bytes.ofText "[]\n[]\n") := by
  intro spool s record write after first
  refine ⟨fun _ => Int.le_refl _, ?_, ?_, ?_, ?_, ?_⟩ <;> decide +kernel

end Spool

end TelemetrySpool
