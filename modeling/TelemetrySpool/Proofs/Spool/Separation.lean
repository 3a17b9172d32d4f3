import TelemetrySpool.Proofs.Spool.Twins

/-!
# Signals keep apart

The signals of a directory share its files, the rotation and the names of their files. A command
to one of them still tells and does the same whatever has been done to the others, and it leaves the
others as they were. For a directory that stands both are shown at once, by running a command on two
stores that look alike to its signal: at every step the two stores still look alike, and each of
them has kept what belongs to other signals.
-/

namespace TelemetrySpool

namespace Store

variable {key key' : SlotKey} {s s' t u : Store} {files files' : FileTree} {path : Path}

/-! ## In a directory that stands -/

/-- The directory stands, no name has a slash, and what does not belong to a key is as it was in
another tree. -/
structure Beside (key : SlotKey) (files₀ files : FileTree) : Prop where
  stands : files.Stands key.directory
  proper : files.Proper
  others : files.part (fun place => !key.owns place) =
    files₀.part fun place => !key.owns place

/-- Two trees of which this is true, and in which what belongs to the key is the same. -/
structure Abreast (key : SlotKey) (files₀ files₀' files files' : FileTree) : Prop where
  left : Beside key files₀ files
  right : Beside key files₀' files'
  own : files.part key.owns = files'.part key.owns

namespace Abreast

variable {files₀ files₀' : FileTree} (h : Abreast key files₀ files₀' files files')
include h

/-- At a place of the signal the same stands in both trees. -/
theorem get?_eq {place : Place} (hp : key.owns place = true) :
    files.get? place = files'.get? place := by
  rw [← FileTree.get?_part files hp, h.own, FileTree.get?_part files' hp]

/-- The same entry is put at a place of the signal. -/
theorem set {place : Place} {entry : Entry} (hp : key.owns place = true)
    (hk : files.Keeps (files.set place entry)) (hk' : files'.Keeps (files'.set place entry)) :
    Abreast key files₀ files₀' (files.set place entry) (files'.set place entry) where
  left := ⟨h.left.stands.mono hk.directory, hk.proper h.left.proper,
    (FileTree.part_set_of_not _ (by rw [hp]; rfl) _).trans h.left.others⟩
  right := ⟨h.right.stands.mono hk'.directory, hk'.proper h.right.proper,
    (FileTree.part_set_of_not _ (by rw [hp]; rfl) _).trans h.right.others⟩
  own := by rw [FileTree.part_set_of _ hp, FileTree.part_set_of _ hp, h.own]

/-- What stands at a place of the signal is taken away. -/
theorem erase {place : Place} (hp : key.owns place = true)
    (hk : files.Keeps (files.erase place)) (hk' : files'.Keeps (files'.erase place)) :
    Abreast key files₀ files₀' (files.erase place) (files'.erase place) where
  left := ⟨h.left.stands.mono hk.directory, hk.proper h.left.proper,
    (FileTree.part_erase_of_not _ (by rw [hp]; rfl)).trans h.left.others⟩
  right := ⟨h.right.stands.mono hk'.directory, hk'.proper h.right.proper,
    (FileTree.part_erase_of_not _ (by rw [hp]; rfl)).trans h.right.others⟩
  own := by rw [FileTree.part_erase_of, FileTree.part_erase_of, h.own]

end Abreast

/-- The names of the files of a signal are found in the part of the tree that belongs to it. -/
theorem filter_childNames (files : FileTree) (key : SlotKey) :
    (files.entries.filterMap (FileTree.childName? key.directory.place)).filter
        (fun name => FileName.belongsTo key.signal name) =
      (files.part key.owns).entries.filterMap (FileTree.childName? key.directory.place) := by
  rw [FileTree.part, List.filter_filterMap, List.filterMap_filter]
  congr 1
  funext entry
  unfold FileTree.childName? SlotKey.owns
  by_cases hd : entry.1.dropLast = key.directory.place
  · cases hl : entry.1.getLast? with
    | none => simp [hd]
    | some name => simp [hd, Option.filter]
  · simp [hd]

/-- The listing of a signal in a directory that stands does not fail. -/
theorem list_of_stands (h : files.Stands key.directory) :
    list files key.directory key.signal = .ok
      (if key.directory = "" then [] else
        ((((files.part key.owns).entries.filterMap
          (FileTree.childName? key.directory.place)).mergeSort fun a b => a ≤ b).map
            (Path.join key.directory))) := by
  by_cases hd : key.directory = ""
  · have hnone : files.list key.directory = .error .notFound := by rw [hd]; rfl
    rw [list, hnone, if_pos hd]
  · rw [list, FileTree.list_eq_ok_iff.2 ⟨h.resolve_left hd, rfl⟩, if_neg hd,
      ← filter_childNames]

/-- In a directory that stands, no directory has to be created for a file. -/
theorem ends_append_iff {sink : FileSink} (hp : OwnPath key path) (bytes : Bytes)
    (h : s.files.Stands key.directory) {outcome : Except SinkError Unit} :
    (sink.append path bytes).Ends s outcome s' ↔
      (sink.appendOnce path bytes).Ends s outcome s' := by
  obtain ⟨name, hn, -, rfl⟩ := hp
  rw [FileSink.append, Task.ends_look_bind_iff]
  rcases FileTree.append_alike h h hn rfl bytes with ⟨error, hne, hs, -⟩ | ⟨entry, hs, -⟩
  · rw [hs]
    cases error with
    | notFound => exact absurd rfl hne
    | _ => rfl
  · rw [hs]

section Abreast

variable {files₀ files₀' : FileTree} {s₀ t₀ : Store}

/-- Octets are appended under the key alone. -/
theorem respects_append_abreast {sink : FileSink} {space : Space} {fault : Option (Nat × String)}
    (hv : sink.volume = .answering space fault) (hp : OwnPath key path) (bytes : Bytes) :
    (sink.append path bytes).Respects (Twin key (Abreast key files₀ files₀') s₀ t₀)
      fun _ => True := by
  have honce : (sink.appendOnce path bytes).Respects (Twin key (Abreast key files₀ files₀') s₀ t₀)
      fun _ => True := by
    refine respects_appendOnce hv (fun files files' h bytes => ?_) bytes
    obtain ⟨name, hn, hb, rfl⟩ := hp
    have hown := (key.owns_concat name).trans hb
    rcases FileTree.append_alike h.left.stands h.right.stands hn (h.get?_eq hown) bytes
      with ⟨error, -, hs, ht⟩ | ⟨entry, hs, ht⟩
    · exact .inl ⟨error, hs, ht⟩
    · exact .inr ⟨_, _, hs, ht, h.set hown (FileTree.grown_of_append hs).toKeeps
        (FileTree.grown_of_append ht).toKeeps⟩
  intro s t h
  obtain ⟨outcome, s', t', hs, ht, hR⟩ := honce s t h
  exact ⟨outcome, s', t', (ends_append_iff hp bytes h.files.left.stands).2 hs,
    (ends_append_iff hp bytes h.files.right.stands).2 ht, hR⟩

/-- A file of the key is removed under it alone. -/
theorem respects_tryRemove (hp : OwnPath key path) :
    (tryRemove path).Respects (Twin key (Abreast key files₀ files₀') s₀ t₀) fun _ => True := by
  intro s t h
  obtain ⟨name, hn, hb, rfl⟩ := hp
  have hown := (key.owns_concat name).trans hb
  rcases FileTree.remove_alike h.files.left.stands h.files.right.stands hn (h.files.get?_eq hown)
    with ⟨error, hs, ht⟩ | ⟨hs, ht⟩
  · exact ⟨_, s, t, ends_tryRemove_iff.2 (.inr ⟨rfl, error, hs, rfl⟩),
      ends_tryRemove_iff.2 (.inr ⟨rfl, error, ht, rfl⟩), h, fun _ _ => trivial⟩
  · exact ⟨.ok none, _, _, ends_tryRemove_iff.2 (.inl ⟨hs, rfl, rfl⟩),
      ends_tryRemove_iff.2 (.inl ⟨ht, rfl, rfl⟩),
      h.withFiles (h.files.erase hown (FileTree.shrunk_of_remove hs).1.toKeeps
        (FileTree.shrunk_of_remove ht).1.toKeeps), fun _ _ => trivial⟩

/-- A directory that stands, with what belongs to the key, is all that work under the key sees. -/
theorem kin_abreast : Kin key (Abreast key files₀ files₀') where
  size h hp := by
    obtain ⟨name, hn, hb, rfl⟩ := hp
    exact FileTree.size?_alike h.left.stands h.right.stands hn
      (h.get?_eq ((key.owns_concat name).trans hb))
  list h := by rw [list_of_stands h.left.stands, list_of_stands h.right.stands, h.own]
  create := respects_createDirectories fun files files' h => by
    rw [h.left.stands.createDirectories, h.right.stands.createDirectories]
    exact ⟨rfl, h⟩
  append hv hp bytes := respects_append_abreast hv hp bytes
  sweep := by
    intro s₀ t₀
    refine Task.respects_bind (P := fun listed => ∀ paths, listed = .ok paths →
      ∀ path ∈ paths, OwnPath key path) (Task.respects_look fun s t h => ⟨?_, ?_⟩) fun _ hl => ?_
    · rw [list_of_stands h.files.left.stands, list_of_stands h.files.right.stands, h.files.own]
    · exact fun _ hl _ hm => exists_of_mem_list hl h.files.left.proper hm
    · refine Task.respects_bind (Task.respects_ofExcept hl) fun paths hp => ?_
      exact respects_removeAll fun path hm => respects_tryRemove (hp path hm)

end Abreast

/-! ## What can be told apart -/

/-- Work under a key, which started with `s₀`, has changed nothing that belongs to another key. -/
structure Apart (key : SlotKey) (s₀ s : Store) : Prop where
  others : SameOthers key s₀.rotation s.rotation
  files : s.files.part (fun place => !key.owns place) = s₀.files.part fun place => !key.owns place

/-- What work under a key can see of two stores is the same. -/
structure Alike (key : SlotKey) (s t : Store) : Prop where
  closed : s.rotation.closed = t.rotation.closed
  active : s.rotation.active? key = t.rotation.active? key
  files : s.files.part key.owns = t.files.part key.owns

namespace Alike

protected theorem refl (key : SlotKey) (s : Store) : Alike key s s := ⟨rfl, rfl, rfl⟩

protected theorem symm (h : Alike key s t) : Alike key t s :=
  ⟨h.closed.symm, h.active.symm, h.files.symm⟩

protected theorem trans (h : Alike key s t) (h' : Alike key t u) : Alike key s u :=
  ⟨h.closed.trans h'.closed, h.active.trans h'.active, h.files.trans h'.files⟩

/-- At a place of the key the same stands in both stores. -/
theorem get?_eq (h : Alike key s t) {place : Place} (hp : key.owns place = true) :
    s.files.get? place = t.files.get? place := by
  rw [← FileTree.get?_part s.files hp, h.files, FileTree.get?_part t.files hp]

end Alike

/-- Work under a key cannot be seen under the key of another signal. -/
theorem Apart.alike (h : Apart key s s') (hk : key'.signal ≠ key.signal) : Alike key' s' s where
  closed := h.others.closed
  active := h.others.active key' fun he => hk (congrArg SlotId.signal he)
  files := by
    have hother : ∀ place, key'.owns place = true → (!key.owns place) = true := by
      intro place hp
      cases ho : key.owns place with
      | false => rfl
      | true => exact absurd (SlotKey.signal_eq_of_owns hp ho) hk
    rw [← FileTree.part_part s'.files hother, h.files, FileTree.part_part s.files hother]

/-- At a place that does not belong to the key everything is as it was. -/
theorem Apart.get?_eq (h : Apart key s s') {place : Place} (hp : key.owns place = false) :
    s'.files.get? place = s.files.get? place := by
  have hother : (!key.owns place) = true := by rw [hp]; rfl
  rw [← FileTree.get?_part (p := fun place => !key.owns place) s'.files hother, h.files,
    FileTree.get?_part (p := fun place => !key.owns place) s.files hother]

/-- Two stores have the same files with the same contents, and the same active paths. -/
structure Coincides (s t : Store) : Prop where
  files : ∀ place, s.files.get? place = t.files.get? place
  active : ∀ key, s.rotation.active? key = t.rotation.active? key
  closed : s.rotation.closed = t.rotation.closed

/-- The active paths of a directory are named by instants. -/
def Named (directory : Path) (s : Store) : Prop :=
  ∀ signal base, s.rotation.active? ⟨directory, signal⟩ = some base →
    IsBase ⟨directory, signal⟩ base

end Store

/-! ## Visits -/

/-- An errand with a clock of its own. -/
structure Visit where
  clock : Clock
  errand : Errand

namespace Visit

open Store (Apart Alike Coincides Twin Named Kin Abreast)

variable {directory : Path} {s t : Store}

/-- The signal that is asked something of. -/
def signal (visit : Visit) : Signal := visit.errand.signal

/-- The slot that is used. -/
def key (directory : Path) (visit : Visit) : SlotKey := ⟨directory, visit.signal⟩

/-- What a visit tells, and the store that it leaves. -/
def make (directory : Path) (visit : Visit) (s : Store) : Except SinkError Answer × Store :=
  ((visit.errand.command directory).task { s with clock := visit.clock }).value

/-- A visit to twins tells the same and leaves twins. -/
theorem twin_make (visit : Visit) {F : FileTree → FileTree → Prop}
    (hk : Kin (visit.key directory) F) (hn : Named directory s)
    (hc : s.rotation.closed = t.rotation.closed)
    (ha : s.rotation.active? (visit.key directory) = t.rotation.active? (visit.key directory))
    (hf : F s.files t.files) :
    (visit.make directory s).1 = (visit.make directory t).1 ∧
      Twin (visit.key directory) F s t (visit.make directory s).2 (visit.make directory t).2 := by
  have hstart : Twin (visit.key directory) F s t { s with clock := visit.clock }
      { t with clock := visit.clock } :=
    ⟨⟨rfl, fun _ _ => rfl⟩, ⟨rfl, fun _ _ => rfl⟩, hc, ha, hn visit.signal, hf, rfl⟩
  obtain ⟨outcome, s', t', hs, ht, htwin, -⟩ := visit.errand.respects_task hk _ _ hstart
  have hs' : visit.make directory s = (outcome, s') := hs
  have ht' : visit.make directory t = (outcome, t') := ht
  rw [hs', ht']
  exact ⟨rfl, htwin⟩

/-- After a visit active paths are named as before. -/
theorem named_of_twin (visit : Visit) {F : FileTree → FileTree → Prop} {s' t' : Store}
    (h : Twin (visit.key directory) F s t s' t') (hn : Named directory s) :
    Named directory s' := by
  intro signal base hb
  by_cases hs : signal = visit.signal
  · subst hs
    exact h.isBase base hb
  · refine hn signal base ?_
    have hother : (SlotKey.mk directory signal).id ≠ (visit.key directory).id :=
      fun he => hs (congrArg SlotId.signal he)
    rwa [h.left.active _ hother] at hb

/-- What visits that are made one after the other tell, each with its signal. -/
def answers (directory : Path) : List Visit → Store → List (Signal × Except SinkError Answer)
  | [], _ => []
  | visit :: visits, s =>
    (visit.signal, (visit.make directory s).1) ::
      answers directory visits (visit.make directory s).2

/-- The store that visits leave. -/
def after (directory : Path) (visits : List Visit) (s : Store) : Store :=
  visits.foldl (fun s visit => (visit.make directory s).2) s

/-- Visits of different signals can be made in either order: they tell the same, and they leave the
same. -/
structure Commute (directory : Path) (a b : Visit) (s : Store) : Prop where
  left : (a.make directory (b.make directory s).2).1 = (a.make directory s).1
  right : (b.make directory (a.make directory s).2).1 = (b.make directory s).1
  coincides : Coincides (b.make directory (a.make directory s).2).2
    (a.make directory (b.make directory s).2).2

/-- The signals of a directory do not interfere when visits are made. -/
structure Separate (directory : Path) (visits : List Visit) (s : Store) : Prop where
  /-- After the visits, two visits of different signals tell and leave the same in either order. -/
  commute : ∀ a b : Visit, a.signal ≠ b.signal →
    Commute directory a b (after directory visits s)
  /-- What the visits of a signal tell, and the files and the active path that they leave, are as if
  no visit of another signal had been made. -/
  alone : ∀ signal,
    (answers directory visits s).filter (·.1 = signal) =
        answers directory (visits.filter (·.signal = signal)) s ∧
      Alike ⟨directory, signal⟩ (after directory visits s)
        (after directory (visits.filter (·.signal = signal)) s)

/-! ## Stores in which signals see nothing of each other -/

/-- In some stores, which visits do not leave, a visit tells and does the same whenever they look
alike to its signal, and it leaves other signals alone. -/
structure Shielded (directory : Path) (S : Store → Prop) : Prop where
  stays : ∀ (visit : Visit) (s : Store), S s → S (visit.make directory s).2
  apart : ∀ (visit : Visit) (s : Store), S s →
    Apart (visit.key directory) s (visit.make directory s).2
  alike : ∀ (visit : Visit) (s t : Store), S s → S t → Alike (visit.key directory) s t →
    (visit.make directory s).1 = (visit.make directory t).1 ∧
      Alike (visit.key directory) (visit.make directory s).2 (visit.make directory t).2

namespace Shielded

variable {S : Store → Prop} (h : Shielded directory S)
include h

/-- What shields signals from each other lasts along any visits. -/
theorem stays_after (hs : S s) (visits : List Visit) : S (after directory visits s) := by
  induction visits generalizing s with
  | nil => exact hs
  | cons visit visits ih => exact ih (h.stays visit s hs)

/-- What a visit of another signal does cannot be seen. -/
theorem alike_make (visit : Visit) (hs : S s) {signal : Signal} (hne : signal ≠ visit.signal) :
    Alike ⟨directory, signal⟩ (visit.make directory s).2 s :=
  (h.apart visit s hs).alike hne

/-- Visits of different signals commute where they are shielded. -/
theorem commute (a b : Visit) (hs : S s) (hne : a.signal ≠ b.signal) :
    Commute directory a b s := by
  have ha := h.apart a s hs
  have hb := h.apart b s hs
  have hao := h.stays a s hs
  have hbo := h.stays b s hs
  have hba := h.apart b _ hao
  have hab := h.apart a _ hbo
  -- To each signal the two ways look alike: its visit came before or after that of the other one.
  obtain ⟨hans, halike⟩ := h.alike a _ _ hbo hs (h.alike_make b hs hne)
  obtain ⟨hbns, hblike⟩ := h.alike b _ _ hao hs (h.alike_make a hs hne.symm)
  have hlikeA : Alike (a.key directory) (b.make directory (a.make directory s).2).2
      (a.make directory (b.make directory s).2).2 :=
    (h.alike_make b hao hne).trans halike.symm
  have hlikeB : Alike (b.key directory) (b.make directory (a.make directory s).2).2
      (a.make directory (b.make directory s).2).2 :=
    hblike.trans (h.alike_make a hbo hne.symm).symm
  refine ⟨hans, hbns, fun place => ?_, fun key => ?_, hlikeA.closed⟩
  · cases hpa : (a.key directory).owns place with
    | true => exact hlikeA.get?_eq hpa
    | false =>
      cases hpb : (b.key directory).owns place with
      | true => exact hlikeB.get?_eq hpb
      | false => rw [hba.get?_eq hpb, ha.get?_eq hpa, hab.get?_eq hpa, hb.get?_eq hpb]
  · by_cases hka : key.id = (a.key directory).id
    · rw [Rotation.active?_eq_of_id _ hka, Rotation.active?_eq_of_id _ hka, hlikeA.active]
    · by_cases hkb : key.id = (b.key directory).id
      · rw [Rotation.active?_eq_of_id _ hkb, Rotation.active?_eq_of_id _ hkb, hlikeB.active]
      · rw [hba.others.active key hkb, ha.others.active key hka, hab.others.active key hka,
          hb.others.active key hkb]

/-- The visits of one signal are not affected by the others. -/
theorem answers_filter (signal : Signal) (visits : List Visit) (hs : S s) (ht : S t)
    (hst : Alike ⟨directory, signal⟩ s t) :
    (answers directory visits s).filter (·.1 = signal) =
        answers directory (visits.filter (·.signal = signal)) t ∧
      Alike ⟨directory, signal⟩ (after directory visits s)
        (after directory (visits.filter (·.signal = signal)) t) := by
  induction visits generalizing s t with
  | nil => exact ⟨rfl, hst⟩
  | cons visit visits ih =>
    have hs' := h.stays visit s hs
    by_cases hsignal : visit.signal = signal
    · have hk : visit.key directory = ⟨directory, signal⟩ := by rw [key, hsignal]
      obtain ⟨htell, halike⟩ := h.alike visit s t hs ht (hk ▸ hst)
      rw [hk] at halike
      obtain ⟨hanswers, hafter⟩ := ih hs' (h.stays visit t ht) halike
      rw [List.filter_cons_of_pos (by simpa using hsignal), answers, answers,
        List.filter_cons_of_pos (by simpa using hsignal), hanswers, htell]
      exact ⟨rfl, hafter⟩
    · obtain ⟨hanswers, hafter⟩ :=
        ih hs' ht ((h.alike_make visit hs (Ne.symm hsignal)).trans hst)
      rw [List.filter_cons_of_neg (by simpa using hsignal), answers,
        List.filter_cons_of_neg (by simpa using hsignal)]
      exact ⟨hanswers, hafter⟩

/-- Shielded signals do not interfere. -/
theorem separate_after (hs : S s) (visits : List Visit) : Separate directory visits s where
  commute a b hne := h.commute a b (h.stays_after hs visits) hne
  alone signal := h.answers_filter signal visits hs hs (.refl _ s)

end Shielded

/-- The directory stands, no name has a slash, and active paths are named by instants. -/
structure Stood (directory : Path) (s : Store) : Prop where
  stands : s.files.Stands directory
  proper : s.files.Proper
  named : Named directory s

/-- Where the directory stands signals see nothing of each other. -/
theorem shielded_stood (directory : Path) : Shielded directory (Stood directory) := by
  have made : ∀ (visit : Visit) (s t : Store), Stood directory s → Stood directory t →
      Alike (visit.key directory) s t →
      (visit.make directory s).1 = (visit.make directory t).1 ∧
        Twin (visit.key directory) (Abreast (visit.key directory) s.files t.files) s t
          (visit.make directory s).2 (visit.make directory t).2 := fun visit s t hs ht h =>
    visit.twin_make Store.kin_abreast hs.named h.closed h.active
      ⟨⟨hs.stands, hs.proper, rfl⟩, ⟨ht.stands, ht.proper, rfl⟩, h.files⟩
  refine ⟨fun visit s hs => ?_, fun visit s hs => ?_, fun visit s t hs ht h => ?_⟩
  · have htwin := (made visit s s hs hs (.refl _ s)).2
    exact ⟨htwin.files.left.stands, htwin.files.left.proper, visit.named_of_twin htwin hs.named⟩
  · have htwin := (made visit s s hs hs (.refl _ s)).2
    exact ⟨htwin.left, htwin.files.left.others⟩
  · obtain ⟨htell, htwin⟩ := made visit s t hs ht h
    exact ⟨htell, htwin.closed, htwin.active, htwin.files.own⟩

end Visit

end TelemetrySpool
