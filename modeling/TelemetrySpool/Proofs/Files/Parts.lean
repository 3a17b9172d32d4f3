import TelemetrySpool.Proofs.Files.Growth

/-!
# Parts of a tree

A part of a tree is what stands at some of its places. Work on a place of the part does the same to
the part as to the whole tree, and work on any other place does nothing to it. In a directory that
stands, a name leads somewhere or fails by its text alone; so what can be told of the files there,
and what becomes of them, is a matter of the part that they belong to.
-/

namespace TelemetrySpool

namespace Lookup

variable {κ ν : Type}

/-- Entries of other keys can be left out. -/
theorem lookup_filter_of [BEq κ] [LawfulBEq κ] {p : κ → Bool} {key : κ} (h : p key = true)
    (entries : List (κ × ν)) :
    (entries.filter fun entry => p entry.1).lookup key = entries.lookup key := by
  induction entries with
  | nil => rfl
  | cons head rest ih =>
    obtain ⟨k, v⟩ := head
    cases hk : key == k with
    | true =>
      obtain rfl := eq_of_beq hk
      simp only [List.filter_cons, h, if_true, List.lookup_cons, hk]
    | false =>
      rw [List.filter_cons]
      split
      · simp only [List.lookup_cons, hk, ih]
      · simp only [List.lookup_cons, hk, ih]

variable [DecidableEq κ]

/-- A value that is put in the place of entries that are left out is left out. -/
theorem filter_replace_of_not {p : κ → Bool} {key : κ} (h : p key = false)
    (entries : List (κ × ν)) (value : ν) :
    (replace entries key value).filter (fun entry => p entry.1) =
      entries.filter fun entry => p entry.1 := by
  induction entries with
  | nil => rfl
  | cons head rest ih =>
    rw [replace, List.map_cons, List.filter_cons, List.filter_cons, ← replace, ih]
    by_cases hk : head.1 = key
    · simp [hk, h]
    · simp [hk]

/-- A value that is put in the place of entries that are kept is kept. -/
theorem filter_replace_of {p : κ → Bool} {key : κ} (h : p key = true)
    (entries : List (κ × ν)) (value : ν) :
    (replace entries key value).filter (fun entry => p entry.1) =
      replace (entries.filter fun entry => p entry.1) key value := by
  induction entries with
  | nil => rfl
  | cons head rest ih =>
    rw [replace, List.map_cons, List.filter_cons, List.filter_cons, ← replace, ih]
    by_cases hk : head.1 = key
    · simp [hk, h, replace]
    · simp only [hk, if_false]
      split
      · simp [replace, hk]
      · rfl

end Lookup

namespace FileTree

/-- The part of a tree that stands at some places. -/
def part (tree : FileTree) (p : Place → Bool) : FileTree :=
  ⟨tree.entries.filter fun entry => p entry.1⟩

variable {tree tree' : FileTree} {p q : Place → Bool} {place : Place}

theorem get?_part (tree : FileTree) (h : p place = true) :
    (tree.part p).get? place = tree.get? place := by
  rw [get?, get?, part, Lookup.lookup_filter_of h]

/-- What stands at some places is a matter of any part that has them all. -/
theorem part_part (tree : FileTree) (h : ∀ place, q place = true → p place = true) :
    (tree.part p).part q = tree.part q := by
  simp only [part, List.filter_filter]
  congr 1
  refine List.filter_congr fun entry _ => ?_
  cases hq : q entry.1 with
  | true => simp [h _ hq]
  | false => rfl

/-- Whether something is listed at a place can be told from a part that has the place. -/
theorem any_part (tree : FileTree) (h : p place = true) :
    (tree.part p).entries.any (fun entry => decide (entry.1 = place)) =
      tree.entries.any fun entry => decide (entry.1 = place) := by
  rw [part, List.any_filter]
  congr 1
  funext entry
  by_cases hp : entry.1 = place
  · simp [hp, h]
  · simp [hp]

/-- An entry written in a part is written in it alone. -/
theorem part_set_of (tree : FileTree) (h : p place = true) (entry : Entry) :
    (tree.set place entry).part p = (tree.part p).set place entry := by
  rw [set, set, any_part tree h]
  split
  · simp only [part, Lookup.filter_replace_of h]
  · simp [part, List.filter_append, h]

/-- An entry written outside of a part leaves it. -/
theorem part_set_of_not (tree : FileTree) (h : p place = false) (entry : Entry) :
    (tree.set place entry).part p = tree.part p := by
  rw [set]
  split
  · simp only [part, Lookup.filter_replace_of_not h]
  · simp [part, List.filter_append, h]

/-- An entry erased is erased in its part. -/
theorem part_erase_of (tree : FileTree) (place : Place) :
    (tree.erase place).part p = (tree.part p).erase place := by
  simp only [part, erase, List.filter_filter, Bool.and_comm]

/-- An entry erased outside of a part leaves it. -/
theorem part_erase_of_not (tree : FileTree) (h : p place = false) :
    (tree.erase place).part p = tree.part p := by
  simp only [part, erase, List.filter_filter]
  congr 1
  refine List.filter_congr fun entry _ => ?_
  cases he : p entry.1 with
  | false => rfl
  | true =>
    have hne : entry.1 ≠ place := by
      rintro rfl
      rw [h] at he
      cases he
    simp [hne]

/-! ## Directories that stand -/

/-- Whether there is a directory at a path; the empty one stands for where paths start. -/
def Stands (tree : FileTree) (directory : Path) : Prop :=
  directory = "" ∨ tree.stat directory = .ok .directory

variable {directory : Path}

/-- A path is found where it walks through and its place has an entry. -/
theorem stat_eq_ok_iff {path : Path} {entry : Entry} :
    tree.stat path = .ok entry ↔
      tree.resolve path = .ok path.place ∧ tree.get? path.place = some entry := by
  unfold stat
  cases hr : tree.resolve path with
  | error error => simp [bind, Except.bind]
  | ok place =>
    obtain rfl := place_of_resolve hr
    cases hg : tree.get? path.place with
    | none => simp [bind, Except.bind, hg]
    | some other => simp [bind, Except.bind, hg]

/-- A directory is found as long as none goes. -/
theorem stat_mono {path : Path} (h : tree.stat path = .ok .directory)
    (hd : ∀ place, tree.get? place = some .directory → tree'.get? place = some .directory) :
    tree'.stat path = .ok .directory := by
  obtain ⟨hr, hg⟩ := stat_eq_ok_iff.1 h
  exact stat_eq_ok_iff.2 ⟨resolve_mono hd hr, hd _ hg⟩

/-- The way to a directory that stands is there. -/
theorem Stands.walk (h : tree.Stands directory) :
    (Path.components directory).foldlM (descend tree) (start directory) = .ok directory.place ∧
      tree.get? directory.place = some .directory := by
  rcases h with rfl | h
  · exact ⟨rfl, rfl⟩
  · obtain ⟨hr, hg⟩ := stat_eq_ok_iff.1 h
    exact ⟨(resolve_eq_ok_iff.1 hr).2.2.2, hg⟩

/-- A directory stands as long as the directories stay. -/
theorem Stands.mono (h : tree.Stands directory)
    (hd : ∀ place, tree.get? place = some .directory → tree'.get? place = some .directory) :
    tree'.Stands directory := h.imp_right fun hs => stat_mono hs hd

/-- Where a name in a directory that stands leads. -/
theorem Stands.resolve_join (h : tree.Stands directory) {name : String} (hn : Path.IsPlain name) :
    tree.resolve (Path.join directory name) =
      if (Path.join directory name).toList.contains '\x00' then .error .nullInPath
      else if maxPathBytes < (Path.join directory name).utf8ByteSize ∨
        maxNameBytes < name.utf8ByteSize then .error .nameTooLong
      else .ok (directory.place ++ [name]) := by
  obtain ⟨hw, hg⟩ := h.walk
  have hstart : start (Path.join directory name) = start directory := by
    rw [start, start, Path.isAbsolute_join directory hn]
  have hne : Path.join directory name ≠ "" := by
    intro he
    have hc := Path.components_join directory hn
    rw [he] at hc
    exact absurd hc.symm (List.append_ne_nil_of_right_ne_nil _ (List.cons_ne_nil _ _))
  have hlast : (Path.components (Path.join directory name)).foldlM (descend tree)
      (start (Path.join directory name)) = tree.descend directory.place name := by
    rw [Path.components_join directory hn, hstart, List.foldlM_append, hw]
    exact bind_pure (tree.descend directory.place name)
  rw [resolve, if_neg hne, hlast, descend, hg]
  simp only [hn.ne_dot, hn.ne_dots, if_false]
  split
  · rfl
  · split
    · next hl => rw [if_pos (.inl hl)]
    · next hl => simp only [hl, false_or]

/-- Nothing is missing on the way to a name in a directory that stands. -/
theorem Stands.resolve_ne_notFound (h : tree.Stands directory) {name : String}
    (hn : Path.IsPlain name) : tree.resolve (Path.join directory name) ≠ .error .notFound := by
  rw [h.resolve_join hn]
  split
  · simp
  · split <;> simp

/-- The first of the directories that are created for a path is that of the path itself. -/
theorem exists_ancestors (h : directory ≠ "") :
    ∃ above, Path.ancestors directory = directory :: above := by
  obtain ⟨fuel, hfuel⟩ := Nat.exists_eq_succ_of_ne_zero fun hl => h (String.length_eq_zero_iff.1 hl)
  rw [Path.ancestors, hfuel]
  unfold Path.ancestorsFrom
  split
  · next hz => cases hz
  · exact absurd rfl h
  · exact ⟨_, rfl⟩

/-- A directory that stands is not created again. -/
theorem Stands.createDirectories (h : tree.Stands directory) :
    tree.createDirectories directory = (tree, .ok ()) := by
  rcases h with rfl | h
  · rfl
  · obtain ⟨hr, hg⟩ := stat_eq_ok_iff.1 h
    have hcreate : tree.createDirectory directory = .ok tree := by
      simp only [createDirectory, hr, bind, Except.bind, hg]
    obtain ⟨above, ha⟩ := exists_ancestors (resolve_eq_ok_iff.1 hr).2.1
    rw [FileTree.createDirectories, ha, createAlong, hcreate]

/-- A directory that was created is found. -/
theorem stat_of_createDirectory (h : tree.createDirectory directory = .ok tree') :
    tree'.stat directory = .ok .directory := by
  have hkeeps := (sameFiles_createDirectory h).directory
  unfold createDirectory at h
  cases hr : tree.resolve directory with
  | error error => rw [hr] at h; cases h
  | ok place =>
    obtain rfl := place_of_resolve hr
    rw [hr] at h
    refine stat_eq_ok_iff.2 ⟨resolve_mono hkeeps hr, ?_⟩
    simp only [bind, Except.bind] at h
    split at h
    · next hg =>
      obtain rfl := Except.ok.inj h
      have hne : tree.get? directory.place ≠ some .directory := by simp [hg]
      rw [get?_set tree _ _ (alwaysExists_eq_false hne), if_pos rfl]
    · next hg =>
      obtain rfl := Except.ok.inj h
      exact hg
    · cases h

/-- A directory stands after it has been created. -/
theorem stands_of_createDirectories (h : (tree.createDirectories directory).2 = .ok ()) :
    (tree.createDirectories directory).1.Stands directory := by
  by_cases hd : directory = ""
  · exact .inl hd
  · right
    obtain ⟨above, ha⟩ := exists_ancestors hd
    rw [FileTree.createDirectories, ha, createAlong] at h ⊢
    cases hc : tree.createDirectory directory with
    | ok tree' => exact stat_of_createDirectory hc
    | error error =>
      rw [hc] at h
      cases error with
      | notFound =>
        dsimp only at h ⊢
        rcases hal : tree.createAlong above with ⟨tree₁, done⟩
        rw [hal] at h
        cases done with
        | error error => cases h
        | ok _ =>
          dsimp only at h ⊢
          cases hc' : tree₁.createDirectory directory with
          | ok tree' => exact stat_of_createDirectory hc'
          | error error =>
            rw [hc'] at h
            cases h
      | _ => cases h

/-! ## Work on a name in a directory that stands

Two trees in which the directory stands, and in which the same stands at the place of the name,
cannot be told apart by such work: it fails in both for the same cause, or it does the same to
both. -/

section Alike

variable (h : tree.Stands directory) (h' : tree'.Stands directory) {name : String}
  (hn : Path.IsPlain name)
  (hg : tree.get? (directory.place ++ [name]) = tree'.get? (directory.place ++ [name]))
include h h' hn hg

/-- Trees that look alike there tell the same size. -/
theorem size?_alike :
    tree.size? (Path.join directory name) = tree'.size? (Path.join directory name) := by
  have hr := (h.resolve_join hn).trans (h'.resolve_join hn).symm
  cases hp : tree'.resolve (Path.join directory name) with
  | error error =>
    rw [hp] at hr
    simp only [size?, found?, stat, hr, hp, bind, Except.bind]
  | ok place =>
    have hplace := place_of_resolve hp
    rw [Path.place_join directory hn] at hplace
    rw [hp, hplace] at hr
    rw [hplace] at hp
    simp only [size?, found?, stat, hr, hp, bind, Except.bind, hg]

/-- Trees that look alike there take the same octets. -/
theorem append_alike (bytes : Bytes) :
    (∃ error, error ≠ .notFound ∧
      tree.append (Path.join directory name) bytes = .error error ∧
      tree'.append (Path.join directory name) bytes = .error error) ∨
    ∃ entry,
      tree.append (Path.join directory name) bytes =
        .ok (tree.set (directory.place ++ [name]) entry) ∧
      tree'.append (Path.join directory name) bytes =
        .ok (tree'.set (directory.place ++ [name]) entry) := by
  have hr := (h.resolve_join hn).trans (h'.resolve_join hn).symm
  cases hp : tree'.resolve (Path.join directory name) with
  | error error =>
    refine .inl ⟨error, ?_, ?_, ?_⟩
    · rintro rfl
      exact h'.resolve_ne_notFound hn hp
    · rw [append, hr, hp]
      rfl
    · rw [append, hp]
      rfl
  | ok place =>
    have hplace := place_of_resolve hp
    rw [Path.place_join directory hn] at hplace
    rw [hp, hplace] at hr
    rw [hplace] at hp
    simp only [append, hr, hp, bind, Except.bind, hg]
    cases tree'.get? (directory.place ++ [name]) with
    | none => exact .inr ⟨_, rfl, rfl⟩
    | some entry =>
      cases entry with
      | directory => exact .inl ⟨_, by simp, rfl, rfl⟩
      | file content => exact .inr ⟨_, rfl, rfl⟩

/-- Trees that look alike there lose the same file. -/
theorem remove_alike :
    (∃ error,
      tree.remove (Path.join directory name) = .error error ∧
      tree'.remove (Path.join directory name) = .error error) ∨
    (tree.remove (Path.join directory name) = .ok (tree.erase (directory.place ++ [name])) ∧
      tree'.remove (Path.join directory name) = .ok (tree'.erase (directory.place ++ [name]))) := by
  have hr := (h.resolve_join hn).trans (h'.resolve_join hn).symm
  cases hp : tree'.resolve (Path.join directory name) with
  | error error =>
    refine .inl ⟨error, ?_, ?_⟩
    · rw [remove, hr, hp]
      rfl
    · rw [remove, hp]
      rfl
  | ok place =>
    have hplace := place_of_resolve hp
    rw [Path.place_join directory hn] at hplace
    rw [hp, hplace] at hr
    rw [hplace] at hp
    simp only [remove, hr, hp, bind, Except.bind, hg]
    cases tree'.get? (directory.place ++ [name]) with
    | none => exact .inl ⟨_, rfl, rfl⟩
    | some entry =>
      cases entry with
      | directory => exact .inl ⟨_, rfl, rfl⟩
      | file content => exact .inr ⟨rfl, rfl⟩

end Alike

end FileTree

end TelemetrySpool
