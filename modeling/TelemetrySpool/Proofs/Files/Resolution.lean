import TelemetrySpool.Files.Tree

/-!
# Where paths lead

A path that resolves leads to a place that its text alone determines; the tree only decides whether
the way is there. So a path still resolves when directories have been added, and a plain name joined
to a directory leads to the child of that name.
-/

namespace TelemetrySpool

namespace Path

/-- One name further from a place, whatever stands there. -/
def step (place : Place) (name : String) : Place :=
  if name = "." then place else if name = ".." then FileTree.above place else place ++ [name]

/-- The place that a path leads to, if it leads anywhere. -/
def place (path : Path) : Place := (components path).foldl step (FileTree.start path)

/-- A name that leads from a directory to one of its own entries. -/
structure IsPlain (name : String) : Prop where
  ne_dot : name ≠ "."
  ne_dots : name ≠ ".."
  ne_empty : name.toList ≠ []
  noSlash : '/' ∉ name.toList

/-- A plain name is no root. -/
theorem IsPlain.ne_root {name : String} (h : IsPlain name) : name ≠ "/" := by
  rintro rfl
  exact h.noSlash (by decide)

/-- A plain name is one step further down. -/
theorem step_of_isPlain (place : Place) {name : String} (h : IsPlain name) :
    step place name = place ++ [name] := by
  simp only [step, h.ne_dot, h.ne_dots, if_false]

/-- There is at least one piece. -/
theorem pieces_ne_nil (separator : Char) (text : List Char) : Text.pieces separator text ≠ [] := by
  cases text with
  | nil => simp [Text.pieces]
  | cons c text =>
    rw [Text.pieces]
    split
    · simp
    · split <;> simp

/-- The pieces on both sides of a separator are cut independently. -/
theorem pieces_append_separator (separator : Char) (text rest : List Char) :
    Text.pieces separator (text ++ separator :: rest) =
      Text.pieces separator text ++ Text.pieces separator rest := by
  induction text with
  | nil => simp only [List.nil_append, Text.pieces, if_true, List.cons_append]
  | cons c text ih =>
    by_cases hc : c = separator
    · simp only [List.cons_append, Text.pieces, hc, if_true, ih]
    · simp only [List.cons_append, Text.pieces, hc, if_false, ih]
      cases ht : Text.pieces separator text with
      | nil => exact absurd ht (pieces_ne_nil _ _)
      | cons first others => rfl

/-- What a directory contributes to the components of a path is not changed by a slash. -/
theorem pieces_filter_append_slash (text rest : List Char) :
    (Text.pieces '/' (text ++ '/' :: rest)).filter (· ≠ []) =
      (Text.pieces '/' text).filter (· ≠ []) ++ (Text.pieces '/' rest).filter (· ≠ []) := by
  rw [pieces_append_separator, List.filter_append]

/-- The components of a directory with a plain name below it. -/
theorem components_join (directory : Path) {name : String} (h : IsPlain name) :
    components (join directory name) = components directory ++ [name] := by
  have hn : (Text.pieces '/' name.toList).filter (· ≠ []) = [name.toList] := by
    rw [Text.pieces_of_notMem h.noSlash]
    simp [h.ne_empty]
  unfold join components
  split
  · next hd =>
    rw [List.getLast?_eq_none_iff] at hd
    have he : (Text.pieces '/' ([] : List Char)).filter (· ≠ []) = [] := by simp [Text.pieces]
    rw [hd, hn, he]
    simp
  · next hd =>
    obtain ⟨text, ht⟩ := List.getLast?_eq_some_iff.1 hd
    have he : (Text.pieces '/' ([] : List Char)).filter (· ≠ []) = [] := by simp [Text.pieces]
    rw [String.toList_append, ht, List.append_assoc, List.singleton_append,
      pieces_filter_append_slash, pieces_filter_append_slash, hn, he]
    simp
  · rw [String.toList_append, String.toList_append, List.append_assoc,
      show "/".toList = ['/'] from rfl, List.singleton_append, pieces_filter_append_slash, hn]
    simp

/-- No separator is left in a piece. -/
theorem notMem_of_mem_pieces {separator : Char} {text piece : List Char}
    (h : piece ∈ Text.pieces separator text) : separator ∉ piece := by
  induction text generalizing piece with
  | nil =>
    rw [Text.pieces, List.mem_singleton] at h
    rw [h]
    exact List.not_mem_nil
  | cons c text ih =>
    rw [Text.pieces] at h
    split at h
    · rcases List.mem_cons.1 h with rfl | h
      · exact List.not_mem_nil
      · exact ih h
    · next hc =>
      split at h
      · next hp => exact absurd hp (pieces_ne_nil _ _)
      · next first others hp =>
        rw [hp] at ih
        rcases List.mem_cons.1 h with rfl | h
        · rw [List.mem_cons, not_or]
          exact ⟨Ne.symm hc, ih List.mem_cons_self⟩
        · exact ih (List.mem_cons_of_mem _ h)

/-- No component has a slash. -/
theorem noSlash_of_mem_components {path name : String} (h : name ∈ components path) :
    '/' ∉ name.toList := by
  obtain ⟨piece, hp, rfl⟩ := List.mem_map.1 h
  rw [String.toList_ofList]
  exact notMem_of_mem_pieces (List.mem_filter.1 hp).1

/-- A place on the way to which no name but that of the root has a slash. -/
def Proper (place : Place) : Prop :=
  ∃ root names, place = root ++ names ∧ (root = [] ∨ root = ["/"]) ∧
    ∀ name ∈ names, '/' ∉ name.toList

/-- Above a place without slashes in its names there are none either. -/
theorem Proper.above {place : Place} (h : Proper place) : Proper (FileTree.above place) := by
  obtain ⟨root, names, rfl, hr, hn⟩ := h
  unfold FileTree.above
  split
  · refine ⟨root, names ++ [".."], List.append_assoc _ _ _, hr, fun name hm => ?_⟩
    rcases List.mem_append.1 hm with hm | hm
    · exact hn name hm
    · rw [List.mem_singleton.1 hm]
      decide
  · split
    · exact ⟨root, names, rfl, hr, hn⟩
    · by_cases hnames : names = []
      · refine ⟨[], [], ?_, Or.inl rfl, fun _ hm => absurd hm List.not_mem_nil⟩
        rcases hr with rfl | rfl <;> rw [hnames] <;> rfl
      · refine ⟨root, names.dropLast, List.dropLast_append_of_ne_nil hnames, hr, fun name hm => ?_⟩
        exact hn name (List.dropLast_subset _ hm)

/-- A name without slashes keeps a place so. -/
theorem Proper.step {place : Place} (h : Proper place) {name : String} (hn : '/' ∉ name.toList) :
    Proper (step place name) := by
  unfold Path.step
  split
  · exact h
  · split
    · exact h.above
    · obtain ⟨root, names, rfl, hr, hs⟩ := h
      refine ⟨root, names ++ [name], List.append_assoc _ _ _, hr, fun other hm => ?_⟩
      rcases List.mem_append.1 hm with hm | hm
      · exact hs other hm
      · rw [List.mem_singleton.1 hm]
        exact hn

/-- Paths lead to proper places alone. -/
theorem proper_place (path : Path) : Proper path.place := by
  have hstart : Proper (FileTree.start path) := by
    refine ⟨FileTree.start path, [], (List.append_nil _).symm, ?_,
      fun _ hm => absurd hm List.not_mem_nil⟩
    unfold FileTree.start
    split
    · exact Or.inr rfl
    · exact Or.inl rfl
  have walk : ∀ names : List String, (∀ name ∈ names, '/' ∉ name.toList) →
      ∀ place, Proper place → Proper (names.foldl Path.step place) := by
    intro names
    induction names with
    | nil => exact fun _ _ hp => hp
    | cons name names ih =>
      intro hn place hp
      exact ih (fun other hm => hn other (List.mem_cons_of_mem _ hm)) _
        (hp.step (hn name List.mem_cons_self))
  exact walk _ (fun _ hm => noSlash_of_mem_components hm) _ hstart

/-- The last name on the way to a proper place has no slash, unless it is the root. -/
theorem Proper.noSlash {place : Place} {name : String} (h : Proper (place ++ [name]))
    (hr : name ≠ "/") : '/' ∉ name.toList := by
  obtain ⟨root, names, he, hroot, hn⟩ := h
  rcases List.eq_nil_or_concat names with rfl | ⟨init, last, rfl⟩
  · rw [List.append_nil] at he
    rcases hroot with rfl | rfl
    · simp at he
    · have hl := congrArg List.getLast? he
      rw [List.getLast?_concat] at hl
      exact absurd (Option.some.inj hl) hr
  · rw [List.concat_eq_append, ← List.append_assoc] at he
    have hl := congrArg List.getLast? he
    rw [List.getLast?_concat, List.getLast?_concat] at hl
    rw [Option.some.inj hl]
    exact hn last (by simp)

/-- A name below a directory is absolute if the directory is. -/
theorem isAbsolute_join (directory : Path) {name : String} (h : IsPlain name) :
    isAbsolute (join directory name) = isAbsolute directory := by
  unfold join isAbsolute
  split
  · next hd =>
    rw [List.getLast?_eq_none_iff] at hd
    have hs := h.noSlash
    cases hc : name.toList with
    | nil => simp [hd]
    | cons c rest =>
      rw [hc, List.mem_cons, not_or] at hs
      simp [hd, Ne.symm hs.1]
  · next hd =>
    cases hc : directory.toList with
    | nil => simp [hc] at hd
    | cons c rest => simp [hc]
  · next hd =>
    cases hc : directory.toList with
    | nil => rw [hc] at hd; cases hd
    | cons c rest => simp [hc]

/-- Joining keeps the text of the directory. -/
theorem exists_join_eq_append {directory : Path} (h : directory ≠ "") (name : Path) :
    ∃ rest, join directory name = directory ++ rest := by
  unfold join
  split
  · next he =>
    rw [List.getLast?_eq_none_iff] at he
    exact absurd (String.toList_inj.1 he) h
  · exact ⟨name, rfl⟩
  · exact ⟨"/" ++ name, String.append_assoc⟩

/-- A plain name below a directory leads to the child of that name. -/
theorem place_join (directory : Path) {name : String} (h : IsPlain name) :
    place (join directory name) = place directory ++ [name] := by
  rw [place, FileTree.start, isAbsolute_join directory h, components_join directory h,
    List.foldl_append, List.foldl_cons, List.foldl_nil, step_of_isPlain _ h]
  rfl

end Path

namespace FileTree

/-- One name leads on from a directory alone, and never to a place of the tree's choice. -/
theorem descend_eq_ok_iff {tree : FileTree} {place place' : Place} {name : String} :
    tree.descend place name = .ok place' ↔
      tree.get? place = some .directory ∧ place' = Path.step place name ∧
        (name = "." ∨ name = ".." ∨ name.utf8ByteSize ≤ maxNameBytes) := by
  unfold descend Path.step
  cases tree.get? place with
  | none => simp
  | some entry =>
    cases entry with
    | file content => simp
    | directory =>
      by_cases h : name = "."
      · simp [h, eq_comm]
      · by_cases hd : name = ".."
        · simp [hd, eq_comm]
        · by_cases hl : maxNameBytes < name.utf8ByteSize
          · simp only [h, hd, hl, if_false, if_true, reduceCtorEq, true_and, false_or, false_iff,
              not_and]
            intro _
            omega
          · simp only [h, hd, hl, if_false, Except.ok.injEq, true_and, false_or]
            constructor
            · intro he
              exact ⟨he.symm, by omega⟩
            · intro he
              exact he.1.symm

/-- A walk through names ends where the names lead. -/
theorem foldlM_descend_place {tree : FileTree} {names : List String} {place place' : Place}
    (h : names.foldlM (descend tree) place = .ok place') :
    place' = names.foldl Path.step place := by
  induction names generalizing place with
  | nil => exact (Except.ok.inj h).symm
  | cons name names ih =>
    rw [List.foldlM_cons] at h
    cases hd : tree.descend place name with
    | error error => rw [hd] at h; cases h
    | ok next =>
      rw [hd] at h
      rw [List.foldl_cons, ← (descend_eq_ok_iff.1 hd).2.1]
      exact ih h

/-- A walk succeeds in every tree that has the directories it passes. -/
theorem foldlM_descend_mono {tree tree' : FileTree}
    (hd : ∀ place, tree.get? place = some .directory → tree'.get? place = some .directory)
    {names : List String} {place place' : Place}
    (h : names.foldlM (descend tree) place = .ok place') :
    names.foldlM (descend tree') place = .ok place' := by
  induction names generalizing place with
  | nil => exact h
  | cons name names ih =>
    rw [List.foldlM_cons] at h ⊢
    cases hn : tree.descend place name with
    | error error => rw [hn] at h; cases h
    | ok next =>
      rw [hn] at h
      obtain ⟨hp, hs⟩ := descend_eq_ok_iff.1 hn
      rw [descend_eq_ok_iff.2 ⟨hd _ hp, hs⟩]
      exact ih h

/-- The three conditions on the text of a path that resolves. -/
theorem resolve_eq_ok_iff {tree : FileTree} {path : Path} {place : Place} :
    tree.resolve path = .ok place ↔
      path.toList.contains '\x00' = false ∧ path ≠ "" ∧ path.utf8ByteSize ≤ maxPathBytes ∧
        (Path.components path).foldlM (descend tree) (start path) = .ok place := by
  unfold resolve
  split
  · next hz => simp only [hz, Bool.true_eq_false, false_and, reduceCtorEq]
  · next hz =>
    split
    · next he => simp [he]
    · next he =>
      split
      · next hl =>
        simp only [reduceCtorEq, false_iff, not_and]
        intro _ _
        omega
      · next hl =>
        simp only [Bool.not_eq_true] at hz
        simp only [hz, he, ne_eq, not_false_eq_true, true_and]
        constructor
        · exact fun h => ⟨by omega, h⟩
        · exact fun h => h.2

/-- A path that resolves leads to its place. -/
theorem place_of_resolve {tree : FileTree} {path : Path} {place : Place}
    (h : tree.resolve path = .ok place) : place = path.place :=
  foldlM_descend_place (resolve_eq_ok_iff.1 h).2.2.2

/-- A path resolves in every tree that has the directories of one where it does. -/
theorem resolve_mono {tree tree' : FileTree}
    (hd : ∀ place, tree.get? place = some .directory → tree'.get? place = some .directory)
    {path : Path} {place : Place} (h : tree.resolve path = .ok place) :
    tree'.resolve path = .ok place := by
  obtain ⟨hz, he, hl, hw⟩ := resolve_eq_ok_iff.1 h
  exact resolve_eq_ok_iff.2 ⟨hz, he, hl, foldlM_descend_mono hd hw⟩

/-- Where a walk goes on there is a directory. -/
theorem get?_of_foldlM_cons {tree : FileTree} {place place' : Place} {name : String}
    {names : List String} (h : (name :: names).foldlM (descend tree) place = .ok place') :
    tree.get? place = some .directory := by
  cases hd : tree.descend place name with
  | error error =>
    rw [List.foldlM_cons, hd] at h
    cases h
  | ok next => exact (descend_eq_ok_iff.1 hd).1

/-- A path that another one goes on from resolves with it. -/
theorem resolve_of_append {tree : FileTree} {up path : Path} {place : Place} {names : List String}
    (hne : up ≠ "") (htext : ∃ rest, path = up ++ rest) (hstart : start path = start up)
    (hnames : Path.components path = Path.components up ++ names)
    (h : tree.resolve path = .ok place) :
    tree.resolve up = .ok up.place ∧ names.foldlM (descend tree) up.place = .ok place := by
  obtain ⟨hz, -, hl, hw⟩ := resolve_eq_ok_iff.1 h
  obtain ⟨rest, hrest⟩ := htext
  have hz' : up.toList.contains '\x00' = false := by
    rw [hrest, String.toList_append, Bool.eq_false_iff, ne_eq, List.contains_iff_mem,
      List.mem_append] at hz
    rw [Bool.eq_false_iff, ne_eq, List.contains_iff_mem]
    exact fun hm => hz (.inl hm)
  rw [hrest, String.utf8ByteSize_append] at hl
  rw [hnames, hstart, List.foldlM_append] at hw
  cases hp : (Path.components up).foldlM (descend tree) (start up) with
  | error error =>
    rw [hp] at hw
    cases hw
  | ok found =>
    have hr : tree.resolve up = .ok found := resolve_eq_ok_iff.2 ⟨hz', hne, by omega, hp⟩
    obtain rfl := place_of_resolve hr
    rw [hp] at hw
    exact ⟨hr, hw⟩

/-- A plain name below a directory resolves where the directory does and is one. -/
theorem resolve_directory_of_join {tree : FileTree} {directory : Path} {name : String}
    {place : Place} (hn : Path.IsPlain name) (hd : directory ≠ "")
    (h : tree.resolve (Path.join directory name) = .ok place) :
    tree.resolve directory = .ok directory.place ∧
      tree.get? directory.place = some .directory := by
  have hstart : start (Path.join directory name) = start directory := by
    rw [start, start, Path.isAbsolute_join directory hn]
  obtain ⟨hr, hw⟩ := resolve_of_append hd (Path.exists_join_eq_append hd name) hstart
    (Path.components_join directory hn) h
  exact ⟨hr, get?_of_foldlM_cons hw⟩

end FileTree

end TelemetrySpool
