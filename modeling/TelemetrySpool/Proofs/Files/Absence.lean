import TelemetrySpool.Proofs.Files.Ancestry
import TelemetrySpool.Proofs.Files.Removal

/-!
# Directories that do not stand

In a directory that does not stand no name leads anywhere. If it can be created, it is just not
found: a name in it fails by its text as it will afterwards, or because it is not found. Creating a
directory comes to the same with and without the slashes and names of the current directory at its
end, if it succeeds; `out/.` cannot be created where `out` can.
-/

namespace TelemetrySpool

namespace Path

/-- A text that has been trimmed does not end in a slash, unless it is the root. -/
theorem trimReversed_ne_slash (text rest : List Char) (h : trimReversed text = '/' :: rest) :
    rest = [] := by
  induction text using trimReversed.induct with
  | case1 => exact (List.cons.inj h).2.symm
  | case2 rest' hne ih =>
    rw [trimReversed] at h
    · exact ih h
    · exact hne
  | case3 => exact (List.cons.inj h).2.symm
  | case4 rest' hne ih =>
    rw [trimReversed, if_neg hne] at h
    exact ih h
  | case5 text hroot hslash hdot =>
    rw [trimReversed] at h
    · exact absurd h (hslash rest)
    · exact hroot
    · exact hslash
    · exact hdot

/-- The directory above a path is what is left when its last name and what comes before that have
been trimmed. -/
theorem exists_of_parent? {path up : Path} (h : parent? path = some up) :
    ∃ c rest, trimReversed path.toList.reverse = c :: rest ∧ c ≠ '/' ∧
      up.toList.reverse = trimReversed (rest.dropWhile (· ≠ '/')) := by
  unfold parent? at h
  cases ht : trimReversed path.toList.reverse with
  | nil =>
    rw [ht] at h
    cases h
  | cons c rest =>
    rw [ht] at h
    have hc : c ≠ '/' := by
      rintro rfl
      obtain rfl := trimReversed_ne_slash _ _ ht
      cases h
    refine ⟨c, rest, rfl, hc, ?_⟩
    split at h
    · cases h
    · cases h
    · rw [← Option.some.inj h, String.toList_ofList, List.reverse_reverse,
        List.dropWhile_cons_of_pos (by simpa using hc)]

/-- The directory above a path is shorter. -/
theorem length_parent?_lt {path up : Path} (h : parent? path = some up) :
    up.length < path.length := by
  obtain ⟨c, rest, htext, -, hup⟩ := exists_of_parent? h
  have hpath := (trims_trimReversed path.toList.reverse).suffix.length_le
  have htrim := (trims_trimReversed (rest.dropWhile (· ≠ '/'))).suffix.length_le
  have hdrop := (List.dropWhile_suffix (l := rest) (· ≠ '/')).length_le
  rw [htext, List.length_cons, List.length_reverse] at hpath
  rw [← hup, List.length_reverse] at htrim
  rw [← String.length_toList, ← String.length_toList]
  omega

/-- A path goes on from the text of the directory that it lies in. -/
theorem exists_eq_append_of_parent? {path up : Path} (h : parent? path = some up) :
    ∃ rest, path = up ++ rest := by
  obtain ⟨c, others, htext, -, hup⟩ := exists_of_parent? h
  have hpath := (trims_trimReversed path.toList.reverse).suffix
  have htrim := (trims_trimReversed (others.dropWhile (· ≠ '/'))).suffix
  rw [htext] at hpath
  rw [← hup] at htrim
  have hsuffix := ((htrim.trans (List.dropWhile_suffix _)).trans (List.suffix_cons c _)).trans hpath
  obtain ⟨rest, hrest⟩ := List.reverse_suffix.1 hsuffix
  refine ⟨String.ofList rest, String.toList_inj.1 ?_⟩
  rw [String.toList_append, String.toList_ofList, hrest]

/-- A path walks through the directory that it lies in, and then further. -/
theorem exists_components_eq {path up : Path} (h : parent? path = some up) :
    ∃ name rest, components (trimmed path) = components up ++ name :: rest := by
  obtain ⟨c, rest, htext, hc, hup⟩ := exists_of_parent? h
  have hn : (c :: rest).takeWhile (· ≠ '/') ≠ [] := by simp [hc]
  obtain ⟨name, hname⟩ := exists_reversedPieces_eq hn
  obtain ⟨count, hcount⟩ := (trims_trimReversed (rest.dropWhile (· ≠ '/'))).pieces
  rw [List.dropWhile_cons_of_pos (by simpa using hc), hcount] at hname
  have hcomponents : components up = (reversedPieces up.toList.reverse).map String.ofList := by
    rw [← components_reverse, List.reverse_reverse, String.ofList_toList]
  rw [trimmed, htext, components_reverse, hname, hcomponents, hup, List.append_assoc,
    List.map_append]
  cases count with
  | zero => exact ⟨_, _, rfl⟩
  | succ count => exact ⟨_, _, rfl⟩

/-- The directories above a path are found with any fuel that reaches as far as it is long. -/
theorem ancestorsFrom_eq {path : Path} {fuel : Nat} (h : path.length ≤ fuel) :
    ancestorsFrom fuel path = ancestors path := by
  have all : ∀ fuel fuel' path, path.length ≤ fuel → path.length ≤ fuel' →
      ancestorsFrom fuel path = ancestorsFrom fuel' path := by
    intro fuel
    induction fuel with
    | zero =>
      intro fuel' path h _
      obtain rfl : path = "" := String.length_eq_zero_iff.1 (Nat.le_zero.1 h)
      rw [ancestorsFrom_empty, ancestorsFrom_empty]
    | succ fuel ih =>
      intro fuel' path h h'
      by_cases hpath : path = ""
      · rw [hpath, ancestorsFrom_empty, ancestorsFrom_empty]
      · cases fuel' with
        | zero => exact absurd (String.length_eq_zero_iff.1 (Nat.le_zero.1 h')) hpath
        | succ fuel' =>
          rw [ancestorsFrom, ancestorsFrom]
          · cases hup : parent? path with
            | none => rfl
            | some up =>
              have hlength := length_parent?_lt hup
              rw [Option.elim_some, Option.elim_some, ih fuel' up (by omega) (by omega)]
          · exact hpath
          · exact hpath
  exact all _ _ _ h (Nat.le_refl _)

/-- A path is followed by the directories above the one that it lies in. -/
theorem ancestors_eq {path : Path} (h : path ≠ "") :
    ancestors path = path :: (parent? path).elim [] ancestors := by
  obtain ⟨fuel, hfuel⟩ := Nat.exists_eq_succ_of_ne_zero fun hl => h (String.length_eq_zero_iff.1 hl)
  rw [ancestors, hfuel, ancestorsFrom]
  · cases hup : parent? path with
    | none => rfl
    | some up =>
      have hlength := length_parent?_lt hup
      rw [Option.elim_some, Option.elim_some, ancestorsFrom_eq (by omega)]
  · exact h

/-- What has been trimmed is not trimmed any further. -/
theorem trimReversed_trimReversed (text : List Char) :
    trimReversed (trimReversed text) = trimReversed text := by
  induction text using trimReversed.induct with
  | case1 => rfl
  | case2 rest hne ih =>
    rw [trimReversed]
    · exact ih
    · exact hne
  | case3 => rfl
  | case4 rest hne ih =>
    rw [trimReversed, if_neg hne]
    exact ih
  | case5 text hroot hslash hdot =>
    have hsame : trimReversed text = text := by
      rw [trimReversed]
      · exact hroot
      · exact hslash
      · exact hdot
    rw [hsame, hsame]

/-- A path lies in the same directory with and without what is trimmed from its end. -/
theorem parent?_trimmed (path : Path) : parent? (trimmed path) = parent? path := by
  rw [parent?, parent?, toList_reverse_trimmed, trimReversed_trimReversed]

end Path

namespace FileTree

variable {tree tree' : FileTree} {directory : Path} {name : String}

/-! ## Names in a directory that does not stand -/

/-- A directory in which a name leads somewhere stands. -/
theorem stands_of_resolve_join (hn : Path.IsPlain name) {place : Place}
    (h : tree.resolve (Path.join directory name) = .ok place) : tree.Stands directory := by
  by_cases hd : directory = ""
  · exact .inl hd
  · exact .inr (stat_eq_ok_iff.2 (resolve_directory_of_join hn hd h))

section Missing

variable (h : ¬ tree.Stands directory)
include h

theorem exists_resolve_join_error (hn : Path.IsPlain name) :
    ∃ error, tree.resolve (Path.join directory name) = .error error := by
  cases hr : tree.resolve (Path.join directory name) with
  | error error => exact ⟨error, rfl⟩
  | ok place => exact absurd (stands_of_resolve_join hn hr) h

/-- Nothing is appended there, whatever it is. -/
theorem exists_append_error (hn : Path.IsPlain name) :
    ∃ error, ∀ bytes, tree.append (Path.join directory name) bytes = .error error := by
  obtain ⟨error, hr⟩ := exists_resolve_join_error h hn
  exact ⟨error, fun bytes => by rw [append, hr]; rfl⟩

/-- No size can be told. -/
theorem size?_join_eq_none (hn : Path.IsPlain name) :
    tree.size? (Path.join directory name) = none := by
  obtain ⟨error, hr⟩ := exists_resolve_join_error h hn
  rw [size?, found?, stat, hr]
  rfl

/-- Nothing is listed. -/
theorem list_ne_ok (names : List String) : tree.list directory ≠ .ok names :=
  fun hl => h (.inr (list_eq_ok_iff.1 hl).1)

end Missing

/-- A directory that can be created and does not stand is just not found. -/
theorem stat_of_createDirectories (h : ¬ tree.Stands directory)
    (hc : (tree.createDirectories directory).2 = .ok ()) :
    tree.stat directory = .error .notFound := by
  have hd : directory ≠ "" := fun he => h (.inl he)
  rw [createDirectories, Path.ancestors_eq hd, createAlong] at hc
  cases hr : tree.resolve directory with
  | error error =>
    have hcreate : tree.createDirectory directory = .error error := by
      rw [createDirectory, hr]
      rfl
    rw [hcreate] at hc
    rw [stat, hr]
    cases error with
    | notFound => rfl
    | _ => cases hc
  | ok place =>
    obtain rfl := place_of_resolve hr
    cases hg : tree.get? directory.place with
    | none => simp only [stat, hr, hg, bind, Except.bind]
    | some entry =>
      cases entry with
      | directory => exact absurd (.inr (stat_eq_ok_iff.2 ⟨hr, hg⟩)) h
      | file content =>
        have hcreate : tree.createDirectory directory = .error .alreadyExists := by
          simp only [createDirectory, hr, hg, bind, Except.bind]
        rw [hcreate] at hc
        cases hc

/-- Where a name in a directory leads that is not found. -/
theorem resolve_join_of_notFound (h : tree.stat directory = .error .notFound)
    (hd : directory ≠ "") (hn : Path.IsPlain name) :
    tree.resolve (Path.join directory name) =
      if (Path.join directory name).toList.contains '\x00' then .error .nullInPath
      else if maxPathBytes < (Path.join directory name).utf8ByteSize then .error .nameTooLong
      else .error .notFound := by
  have hstart : start (Path.join directory name) = start directory := by
    rw [start, start, Path.isAbsolute_join directory hn]
  obtain ⟨rest, hrest⟩ := Path.exists_join_eq_append hd name
  have hne : Path.join directory name ≠ "" := by
    intro he
    rw [hrest] at he
    exact hd (String.append_eq_empty_iff.1 he).1
  rw [resolve, if_neg hne]
  split
  · rfl
  · next hnull =>
    split
    · rfl
    · next hlength =>
      -- What is wrong with the text of the directory is wrong with the text of the name too.
      have hnull' : ¬ directory.toList.contains '\x00' = true := by
        intro hm
        rw [hrest, String.toList_append] at hnull
        exact hnull (List.contains_iff_mem.2
          (List.mem_append_left _ (List.contains_iff_mem.1 hm)))
      rw [hrest, String.utf8ByteSize_append] at hlength
      rw [stat, resolve, if_neg hnull', if_neg hd, if_neg (by omega)] at h
      rw [Path.components_join directory hn, hstart, List.foldlM_append]
      cases hwalk : (Path.components directory).foldlM (descend tree) (start directory) with
      | error error =>
        rw [hwalk] at h
        exact congrArg Except.error (Except.error.inj h)
      | ok place =>
        rw [hwalk] at h
        simp only [bind, Except.bind] at h
        cases hg : tree.get? place with
        | none => simp only [bind, Except.bind, List.foldlM_cons, descend, hg]
        | some entry =>
          rw [hg] at h
          cases h

/-- A name in a directory that can be created fails by its text, before and after, or because it is
not found before. -/
theorem resolve_join_of_createDirectories (h : ¬ tree.Stands directory)
    (hc : (tree.createDirectories directory).2 = .ok ()) (hn : Path.IsPlain name) :
    (∃ error, error ≠ .notFound ∧
      tree.resolve (Path.join directory name) = .error error ∧
      (tree.createDirectories directory).1.resolve (Path.join directory name) = .error error) ∨
    tree.resolve (Path.join directory name) = .error .notFound := by
  have hd : directory ≠ "" := fun he => h (.inl he)
  rw [resolve_join_of_notFound (stat_of_createDirectories h hc) hd hn,
    (stands_of_createDirectories hc).resolve_join hn]
  split
  · exact .inl ⟨_, by simp, rfl, rfl⟩
  · split
    · next hl => exact .inl ⟨_, by simp, rfl, by rw [if_pos (.inl hl)]⟩
    · exact .inr rfl

/-- What is not found by its path cannot be listed, for the same reason. -/
theorem list_of_stat_error {error : FileError} (h : tree.stat directory = .error error) :
    tree.list directory = .error error := by
  unfold stat at h
  unfold list
  cases hr : tree.resolve directory with
  | error cause =>
    rw [hr] at h
    exact congrArg Except.error (Except.error.inj h)
  | ok place =>
    rw [hr] at h
    simp only [bind, Except.bind] at h ⊢
    cases hg : tree.get? place with
    | none =>
      rw [hg] at h
      exact congrArg Except.error (Except.error.inj h)
    | some entry =>
      rw [hg] at h
      cases h

/-- A part of a tree at whose places nothing stands is empty. -/
theorem part_eq_empty {p : Place → Bool} (ha : ∀ place, p place = true → alwaysExists place = false)
    (h : ∀ place, p place = true → tree.get? place = none) : tree.part p = {} := by
  have hnone : tree.entries.filter (fun entry => p entry.1) = [] := by
    refine List.filter_eq_nil_iff.2 fun entry hm hp => ?_
    have hg := h _ hp
    rw [get?, ha _ hp] at hg
    have hne := List.lookup_eq_none_iff.1 hg entry hm
    simp at hne
  rw [part, hnone]

/-! ## Creating a directory without what is trimmed from its end -/

/-- If a path leads somewhere, the directory that it lies in need not be created. -/
theorem Stands.of_parent? {path : Path} {place : Place}
    (h : tree.resolve (Path.trimmed path) = .ok place) {up : Path}
    (hup : Path.parent? path = some up) : tree.Stands up := by
  by_cases hne : up = ""
  · exact .inl hne
  · obtain ⟨name, rest, hcomponents⟩ := Path.exists_components_eq hup
    rw [← Path.parent?_trimmed] at hup
    obtain ⟨hr, hwalk⟩ := resolve_of_append hne (Path.exists_eq_append_of_parent? hup)
      (Path.leadsTo_of_parent? hup hne).start.symm hcomponents h
    exact .inr (stat_eq_ok_iff.2 ⟨hr, get?_of_foldlM_cons hwalk⟩)

/-- What comes to a directory that is created leads there without what is trimmed too. -/
theorem createDirectory_trimmed (h : tree.createDirectory directory = .ok tree') :
    tree.createDirectory (Path.trimmed directory) = .ok tree' := by
  unfold createDirectory at h ⊢
  cases hr : tree.resolve directory with
  | error error =>
    rw [hr] at h
    cases h
  | ok place =>
    rw [hr] at h
    rw [resolve_trimmed hr]
    exact h

/-- A text that resolves in one tree is walked through in every tree. -/
theorem resolve_eq_foldlM {path : Path} {place : Place} (h : tree'.resolve path = .ok place)
    (tree : FileTree) :
    tree.resolve path = (Path.components path).foldlM (descend tree) (start path) := by
  obtain ⟨hnull, hne, hlength, -⟩ := resolve_eq_ok_iff.1 h
  rw [resolve, if_neg (by rw [hnull]; exact Bool.false_ne_true), if_neg hne, if_neg (by omega)]

theorem exists_resolve_of_createDirectory (h : tree.createDirectory directory = .ok tree') :
    ∃ place, tree.resolve directory = .ok place := by
  cases hr : tree.resolve directory with
  | error error =>
    rw [createDirectory, hr] at h
    cases h
  | ok place => exact ⟨place, rfl⟩

/-- A directory that is not found is none that stands or is a file. -/
theorem resolve_of_createDirectory_notFound
    (h : tree.createDirectory directory = .error .notFound) :
    tree.resolve directory = .error .notFound := by
  cases hr : tree.resolve directory with
  | error error =>
    rw [createDirectory, hr] at h
    exact congrArg Except.error (Except.error.inj h)
  | ok place =>
    rw [createDirectory, hr] at h
    simp only [bind, Except.bind] at h
    split at h <;> cases h

/-- What is trimmed cannot be found before the directory above it has been created: else that would
not be created, and the directory itself would still be missing. -/
theorem createDirectory_trimmed_notFound {tree₁ : FileTree}
    (h : tree.createDirectory directory = .error .notFound)
    (ha : tree.createAlong ((Path.parent? directory).elim [] Path.ancestors) = (tree₁, .ok ()))
    (hc : tree₁.createDirectory directory = .ok tree') :
    tree.createDirectory (Path.trimmed directory) = .error .notFound := by
  obtain ⟨_, hr'⟩ := exists_resolve_of_createDirectory hc
  obtain ⟨-, hd, -, -⟩ := resolve_eq_ok_iff.1 hr'
  cases hr : tree.resolve (Path.trimmed directory) with
  | ok place =>
    have habove : tree.createAlong ((Path.parent? directory).elim [] Path.ancestors) =
        (tree, .ok ()) := by
      cases hup : Path.parent? directory with
      | none => rfl
      | some up => exact (Stands.of_parent? hr hup).createDirectories
    rw [habove] at ha
    obtain rfl := (Prod.mk.inj ha).1
    rw [h] at hc
    cases hc
  | error error =>
    obtain ⟨count, hcomponents⟩ := Path.components_trimmed directory
    have hnone := resolve_of_createDirectory_notFound h
    have hwalk := hr
    rw [resolve_eq_foldlM (resolve_trimmed hr') tree] at hwalk
    rw [resolve_eq_foldlM hr' tree, hcomponents, List.foldlM_append, ← Path.start_trimmed hd,
      hwalk] at hnone
    rw [createDirectory, hr]
    exact congrArg Except.error (Except.error.inj hnone)

/-- If a directory can be created, so it can without what is trimmed from its end, and that comes to
the same. -/
theorem createDirectories_trimmed (h : (tree.createDirectories directory).2 = .ok ()) :
    tree.createDirectories (Path.trimmed directory) = tree.createDirectories directory := by
  by_cases hd : directory = ""
  · rw [hd]
    rfl
  unfold createDirectories at h ⊢
  rw [Path.ancestors_eq hd, createAlong] at h ⊢
  rw [Path.ancestors_eq (Path.trimmed_ne_empty hd), Path.parent?_trimmed, createAlong]
  cases hc : tree.createDirectory directory with
  | ok tree' => rw [createDirectory_trimmed hc]
  | error error =>
    rw [hc] at h
    cases error with
    | notFound =>
      dsimp only at h ⊢
      rcases ha : tree.createAlong ((Path.parent? directory).elim [] Path.ancestors)
        with ⟨tree₁, done⟩
      rw [ha] at h
      cases done with
      | error error => cases h
      | ok _ =>
        dsimp only at h ⊢
        cases hc' : tree₁.createDirectory directory with
        | error error =>
          rw [hc'] at h
          cases h
        | ok tree' =>
          rw [createDirectory_trimmed_notFound hc ha hc', createDirectory_trimmed hc']
    | _ => cases h

/-- A directory can be missing whose name can be created: `out/.` needs `out`. -/
example : ({} : FileTree).createDirectories "out/." = ({}, .error .notFound) ∧
    ({} : FileTree).createDirectories (Path.trimmed "out/.") =
      (⟨[(["out"], .directory)]⟩, .ok ()) := ⟨rfl, rfl⟩

end FileTree

end TelemetrySpool
