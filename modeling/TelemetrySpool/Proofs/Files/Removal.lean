import Mathlib.Logic.Relation
import TelemetrySpool.Proofs.Files.Parts

/-!
# How files go

Removing takes one file away. No directory goes with it, and every other file stays as it was. A
listing has the names of everything that stands in a directory, so whoever removes what is listed
misses no file.
-/

namespace TelemetrySpool.FileTree

/-- Nothing but files has gone, and none that does not satisfy `gone`. -/
structure Shrunk (tree tree' : FileTree) (gone : Place → Prop) : Prop
    extends Keeps tree tree' where
  file?_eq : ∀ place, tree'.file? place = tree.file? place ∨
    (gone place ∧ tree'.file? place = none)

namespace Shrunk

variable {tree tree' tree'' : FileTree} {gone gone' : Place → Prop}

protected theorem refl (tree : FileTree) (gone : Place → Prop) : Shrunk tree tree gone :=
  ⟨.refl tree, fun _ => Or.inl rfl⟩

protected theorem trans (h : Shrunk tree tree' gone) (h' : Shrunk tree' tree'' gone) :
    Shrunk tree tree'' gone := by
  refine ⟨h.toKeeps.trans h'.toKeeps, fun place => ?_⟩
  rcases h'.file?_eq place with he | ⟨hg, he⟩
  · rw [he]
    exact h.file?_eq place
  · exact Or.inr ⟨hg, he⟩

/-- A tree that lost some places lost no others than any larger set. -/
theorem mono (h : Shrunk tree tree' gone) (hg : ∀ place, gone place → gone' place) :
    Shrunk tree tree' gone' :=
  ⟨h.toKeeps, fun place => (h.file?_eq place).imp id fun hp => ⟨hg place hp.1, hp.2⟩⟩

/-- A file whose place is not gone stays. -/
theorem file?_of_not (h : Shrunk tree tree' gone) {place : Place} (hg : ¬ gone place) :
    tree'.file? place = tree.file? place :=
  (h.file?_eq place).resolve_right fun hp => hg hp.1

/-- What has gone does not come back. -/
theorem file?_eq_none (h : Shrunk tree tree' gone) {place : Place} (hn : tree.file? place = none) :
    tree'.file? place = none := by
  rcases h.file?_eq place with he | ⟨-, he⟩
  · rw [he, hn]
  · exact he

end Shrunk

variable {tree tree' : FileTree} {path : Path}

/-- A file that is removed is a file, to which the way is there. -/
theorem remove_eq_ok_iff : tree.remove path = .ok tree' ↔
    tree.resolve path = .ok path.place ∧
      (∃ content, tree.get? path.place = some (.file content)) ∧
        tree' = tree.erase path.place := by
  unfold remove
  cases hr : tree.resolve path with
  | error error => simp [bind, Except.bind]
  | ok place =>
    obtain rfl := place_of_resolve hr
    simp only [bind, Except.bind]
    cases hg : tree.get? path.place with
    | none => simp
    | some entry => cases entry <;> simp [eq_comm]

/-- A file that is removed goes, and nothing else does. -/
theorem shrunk_of_remove (h : tree.remove path = .ok tree') :
    Shrunk tree tree' (· = path.place) ∧ tree'.file? path.place = none := by
  obtain ⟨-, ⟨content, hg⟩, rfl⟩ := remove_eq_ok_iff.1 h
  have hne : tree.get? path.place ≠ some .directory := by simp [hg]
  have ha := alwaysExists_eq_false hne
  have hfile : ∀ place, (tree.erase path.place).file? place =
      if place = path.place then none else tree.file? place := by
    intro place
    rw [file?, get?_erase tree place ha]
    by_cases hp : place = path.place
    · simp only [hp, if_true]
    · simp only [hp, if_false, file?]
  refine ⟨⟨⟨fun place hd => ?_, fun ht entry he => ?_⟩, fun place => ?_⟩, ?_⟩
  · rw [get?_erase tree place ha, if_neg]
    · exact hd
    · rintro rfl
      exact hne hd
  · exact ht entry (List.mem_filter.1 he).1
  · rw [hfile]
    by_cases hp : place = path.place
    · exact Or.inr ⟨hp, if_pos hp⟩
    · exact Or.inl (if_neg hp)
  · rw [hfile, if_pos rfl]

/-! ## Removals one after the other -/

/-- One tree comes of another by removals of files in some places. -/
def Removals (gone : Place → Prop) : FileTree → FileTree → Prop :=
  Relation.ReflTransGen fun tree tree' => ∃ path, gone path.place ∧ tree.remove path = .ok tree'

namespace Removals

variable {gone : Place → Prop}

/-- Removals shrink a tree. -/
theorem shrunk (h : Removals gone tree tree') : Shrunk tree tree' gone := by
  induction h with
  | refl => exact .refl _ _
  | tail _ hstep ih =>
    obtain ⟨path, hgone, hremove⟩ := hstep
    exact ih.trans ((shrunk_of_remove hremove).1.mono fun _ hplace => hplace ▸ hgone)

/-- Removals leave a place alone, or it is one of theirs and nothing stands there in the end. -/
theorem get?_cases (h : Removals gone tree tree') (place : Place) :
    tree'.get? place = tree.get? place ∨ (gone place ∧ tree'.get? place = none) := by
  induction h with
  | refl => exact .inl rfl
  | @tail tree₁ tree₂ _ hstep ih =>
    obtain ⟨path, hgone, hremove⟩ := hstep
    obtain ⟨-, ⟨content, hfile⟩, rfl⟩ := remove_eq_ok_iff.1 hremove
    have hnot : tree₁.get? path.place ≠ some .directory := by simp [hfile]
    rw [get?_erase tree₁ place (alwaysExists_eq_false hnot)]
    split
    · next hplace => exact .inr ⟨hplace ▸ hgone, rfl⟩
    · exact ih

/-- They leave every other place. -/
theorem get?_of_not (h : Removals gone tree tree') {place : Place} (hn : ¬ gone place) :
    tree'.get? place = tree.get? place :=
  (h.get?_cases place).resolve_right fun hp => hn hp.1

/-- Where nothing stands nothing comes to stand. -/
theorem get?_eq_none (h : Removals gone tree tree') {place : Place}
    (hn : tree.get? place = none) : tree'.get? place = none :=
  (h.get?_cases place).elim (fun hsame => hsame.trans hn) And.right

theorem mono {gone' : Place → Prop} (h : Removals gone tree tree')
    (hg : ∀ place, gone place → gone' place) : Removals gone' tree tree' := by
  induction h with
  | refl => exact .refl
  | tail _ hstep ih =>
    obtain ⟨path, hgone, hremove⟩ := hstep
    exact ih.tail ⟨path, hg _ hgone, hremove⟩

end Removals

/-- What is said not to be found is not there, if the way to it is. -/
theorem file?_of_remove_notFound (h : tree.remove path = .error .notFound)
    (hr : tree.resolve path = .ok path.place) : tree.file? path.place = none := by
  unfold remove at h
  rw [hr] at h
  simp only [bind, Except.bind] at h
  split at h
  · next hg => rw [file?, hg]
  · cases h
  · cases h

/-- The way to a path is there, and no directory stands in its place. -/
def Removable (tree : FileTree) (path : Path) : Prop :=
  tree.resolve path = .ok path.place ∧ tree.get? path.place ≠ some .directory

/-- Only what is removable is removed. -/
theorem removable_of_remove (h : tree.remove path = .ok tree') : tree.Removable path := by
  obtain ⟨hr, ⟨content, hg⟩, -⟩ := remove_eq_ok_iff.1 h
  exact ⟨hr, by simp [hg]⟩

/-- What stands in a place is an entry, unless it is there always. -/
theorem mem_entries_of_get? {place : Place} {entry : Entry} (ha : alwaysExists place = false)
    (h : tree.get? place = some entry) : (place, entry) ∈ tree.entries := by
  rw [get?, ha] at h
  obtain ⟨before, after, hentries, -⟩ := List.lookup_eq_some_iff.1 h
  rw [hentries]
  exact List.mem_append_right _ List.mem_cons_self

theorem mem_entries_of_file? {place : Place} {content : Bytes}
    (h : tree.file? place = some content) : (place, .file content) ∈ tree.entries := by
  have hg := file?_eq_some_iff.1 h
  have hne : tree.get? place ≠ some .directory := by simp [hg]
  exact mem_entries_of_get? (alwaysExists_eq_false hne) hg

/-- A listing is that of a directory, and has the names of what stands there. -/
theorem list_eq_ok_iff {names : List String} : tree.list path = .ok names ↔
    tree.stat path = .ok .directory ∧
      names = tree.entries.filterMap (childName? path.place) := by
  rw [stat_eq_ok_iff, list]
  cases hr : tree.resolve path with
  | error error => simp [bind, Except.bind]
  | ok place =>
    obtain rfl := place_of_resolve hr
    simp only [bind, Except.bind]
    cases hg : tree.get? path.place with
    | none => simp
    | some entry => cases entry <;> simp [eq_comm]

/-- The names in a directory are those of the entries right below it. -/
theorem mem_childNames_iff {place : Place} {name : String} :
    name ∈ tree.entries.filterMap (childName? place) ↔
      ∃ entry, (place ++ [name], entry) ∈ tree.entries := by
  rw [List.mem_filterMap]
  constructor
  · rintro ⟨⟨other, entry⟩, he, hc⟩
    unfold childName? at hc
    split at hc
    · next hp =>
      obtain ⟨init, rfl⟩ := List.getLast?_eq_some_iff.1 hc
      rw [List.dropLast_concat] at hp
      exact ⟨entry, hp ▸ he⟩
    · cases hc
  · rintro ⟨entry, he⟩
    refine ⟨_, he, ?_⟩
    rw [childName?, List.dropLast_concat, if_pos rfl, List.getLast?_concat]

/-! ## Taking many places away -/

/-- Where nothing stands there is nothing to take away. -/
theorem erase_of_get?_none {place : Place} (h : tree.get? place = none) :
    tree.erase place = tree := by
  have hnot : tree.get? place ≠ some .directory := by simp [h]
  rw [get?, alwaysExists_eq_false hnot] at h
  have hall := List.lookup_eq_none_iff.1 h
  unfold erase
  congr 1
  refine List.filter_eq_self.2 fun entry he => ?_
  have hne := hall entry he
  simp only [bne_iff_ne, ne_eq, decide_not, Bool.not_eq_true', decide_eq_false_iff_not] at hne ⊢
  exact Ne.symm hne

/-- A tree without what stands in some places. -/
def without (tree : FileTree) (places : List Place) : FileTree :=
  tree.part fun place => decide (place ∉ places)

theorem without_nil (tree : FileTree) : tree.without [] = tree := by
  have hall : tree.entries.filter (fun entry => decide (entry.1 ∉ ([] : List Place))) =
      tree.entries := List.filter_eq_self.2 fun _ _ => by simp
  rw [without, part, hall]

theorem without_append (tree : FileTree) (places places' : List Place) :
    (tree.without places).without places' = tree.without (places ++ places') := by
  simp [without, part, List.filter_filter, Bool.and_comm]

theorem without_singleton (tree : FileTree) (place : Place) :
    tree.without [place] = tree.erase place := by
  simp [without, part, erase]

section Without

variable {places : List Place} (h : ∀ place ∈ places, tree.get? place ≠ some .directory)
include h

/-- Taking places away leaves the others. -/
theorem get?_without (place : Place) :
    (tree.without places).get? place = if place ∈ places then none else tree.get? place := by
  split
  · next hm =>
    rw [get?, alwaysExists_eq_false (h place hm), without, part]
    refine Lookup.lookup_eq_none fun hany => ?_
    obtain ⟨entry, he, hplace⟩ := List.any_eq_true.1 hany
    have hkept := of_decide_eq_true (List.mem_filter.1 he).2
    rw [of_decide_eq_true hplace] at hkept
    exact hkept hm
  · next hm => exact get?_part tree (decide_eq_true hm)

/-- What is left keeps the directories. -/
theorem keeps_without : Keeps tree (tree.without places) where
  directory place hd := by
    rw [get?_without h, if_neg fun hm => h place hm hd]
    exact hd
  proper hp := fun entry he => hp entry (List.mem_filter.1 he).1

/-- A file stays removable when others are taken away. -/
theorem Removable.without (hr : tree.Removable path) : (tree.without places).Removable path := by
  refine ⟨resolve_mono (keeps_without h).directory hr.1, ?_⟩
  rw [get?_without h]
  split
  · simp
  · exact hr.2

end Without

end TelemetrySpool.FileTree
