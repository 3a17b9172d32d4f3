import TelemetrySpool.Proofs.Files.Parts

/-!
# What lies above a path

The directory above a name is the one that the name was joined to, but for slashes and names of the
current directory at its end, which lead nowhere. All directories above a path lie on the way to it,
so creating them again after the path has been taken away puts nothing into it.
-/

namespace TelemetrySpool

namespace Path

/-- The characters of a joined path. -/
theorem mem_toList_join {directory name : Path} {c : Char} (h : c ∈ (join directory name).toList) :
    c ∈ directory.toList ∨ c = '/' ∨ c ∈ name.toList := by
  unfold join at h
  split at h
  · exact .inr (.inr h)
  · rw [String.toList_append, List.mem_append] at h
    exact h.imp_right .inr
  · rw [String.toList_append, String.toList_append, List.mem_append, List.mem_append] at h
    rcases h with (h | h) | h
    · exact .inl h
    · exact .inr (.inl (List.mem_singleton.1 h))
    · exact .inr (.inr h)

/-- The components of a reversed text. -/
def reversedPieces (text : List Char) : List (List Char) :=
  (Text.pieces '/' text.reverse).filter (· ≠ [])

/-- The names of a path are the pieces of its text, read from the end. -/
theorem components_reverse (text : List Char) :
    components (String.ofList text.reverse) = (reversedPieces text).map String.ofList := by
  rw [components, String.toList_ofList, reversedPieces]

/-- A slash at the end adds no component. -/
theorem reversedPieces_slash (rest : List Char) :
    reversedPieces ('/' :: rest) = reversedPieces rest := by
  have hnil : (Text.pieces '/' ([] : List Char)).filter (· ≠ []) = [] := by simp [Text.pieces]
  rw [reversedPieces, List.reverse_cons, pieces_filter_append_slash, hnil, List.append_nil]
  rfl

/-- What follows the last slash is the last component. -/
theorem reversedPieces_append {name rest : List Char} (hn : '/' ∉ name) (hne : name ≠ []) :
    reversedPieces (name ++ '/' :: rest) = reversedPieces rest ++ [name.reverse] := by
  have hname : (Text.pieces '/' name.reverse).filter (· ≠ []) = [name.reverse] := by
    rw [Text.pieces_of_notMem (by simpa using hn)]
    simp [hne]
  rw [reversedPieces, List.reverse_append, List.reverse_cons, List.append_assoc,
    List.singleton_append, pieces_filter_append_slash, hname]
  rfl

/-- What is trimmed from the end of a text are names of the current directory, and no text that is
absolute or not empty ceases to be so. -/
structure Trims (text trimmed : List Char) : Prop where
  pieces : ∃ count, reversedPieces text = reversedPieces trimmed ++ List.replicate count ['.']
  suffix : trimmed <:+ text
  ne_nil : text ≠ [] → trimmed ≠ []

namespace Trims

protected theorem refl (text : List Char) : Trims text text :=
  ⟨⟨0, by simp⟩, List.suffix_refl text, id⟩

/-- A slash at the end is trimmed from a longer text. -/
theorem slash {rest trimmed : List Char} (h : Trims rest trimmed) (hne : rest ≠ []) :
    Trims ('/' :: rest) trimmed :=
  ⟨by rw [reversedPieces_slash]; exact h.pieces, h.suffix.trans (List.suffix_cons _ _),
    fun _ => h.ne_nil hne⟩

/-- So is a point behind a slash. -/
theorem dot {rest trimmed : List Char} (h : Trims ('/' :: rest) trimmed) :
    Trims ('.' :: '/' :: rest) trimmed := by
  obtain ⟨count, hpieces⟩ := h.pieces
  refine ⟨⟨count + 1, ?_⟩, h.suffix.trans (List.suffix_cons _ _), fun _ => h.ne_nil (by simp)⟩
  have hdot : reversedPieces (['.'] ++ '/' :: rest) = reversedPieces rest ++ [['.']] :=
    reversedPieces_append (by decide) (by decide)
  rw [List.singleton_append] at hdot
  rw [hdot, ← reversedPieces_slash, hpieces, List.append_assoc, List.replicate_succ']

end Trims

/-- Trimming takes slashes and points away from the end. -/
theorem trims_trimReversed (text : List Char) : Trims text (trimReversed text) := by
  induction text using trimReversed.induct with
  | case1 => exact .refl _
  | case2 rest hne ih =>
    rw [trimReversed]
    · exact ih.slash hne
    · exact hne
  | case3 => exact (Trims.refl ['/']).dot
  | case4 rest hne ih =>
    rw [trimReversed, if_neg hne]
    exact (ih.slash hne).dot
  | case5 text h₁ h₂ h₃ =>
    rw [trimReversed]
    · exact .refl _
    · exact h₁
    · exact h₂
    · exact h₃

/-- A path without the slashes and names of the current directory at its end. -/
def trimmed (path : Path) : Path := String.ofList (trimReversed path.toList.reverse).reverse

/-- One path lies on the way to another one. -/
structure LeadsTo (up path : Path) : Prop where
  components : components up <+: components path
  start : FileTree.start up = FileTree.start path

/-- A path whose reversed text ends another one starts where that does. -/
theorem start_of_suffix {up path : Path} (hne : up ≠ "")
    (h : up.toList.reverse <:+ path.toList.reverse) :
    FileTree.start up = FileTree.start path := by
  have hprefix : up.toList <+: path.toList := List.reverse_suffix.1 h
  have hhead : path.toList.head? = up.toList.head? := by
    obtain ⟨rest, hrest⟩ := hprefix
    cases hup : up.toList with
    | nil => exact absurd (String.toList_inj.1 hup) hne
    | cons c others => rw [← hrest, hup, List.cons_append, List.head?_cons, List.head?_cons]
  rw [FileTree.start, FileTree.start, isAbsolute, isAbsolute, hhead]

/-- A path is trimmed at its end. -/
theorem toList_reverse_trimmed (path : Path) :
    (trimmed path).toList.reverse = trimReversed path.toList.reverse := by
  rw [trimmed, String.toList_ofList, List.reverse_reverse]

/-- Something is left of every path. -/
theorem trimmed_ne_empty {path : Path} (h : path ≠ "") : trimmed path ≠ "" := by
  intro he
  have hnil : trimReversed path.toList.reverse = [] := by
    rw [← toList_reverse_trimmed, he]
    rfl
  refine (trims_trimReversed path.toList.reverse).ne_nil ?_ hnil
  rw [ne_eq, List.reverse_eq_nil_iff]
  exact fun hl => h (String.toList_inj.1 hl)

/-- What is left is the beginning of the path. -/
theorem exists_append_trimmed (path : Path) : ∃ rest, path = trimmed path ++ rest := by
  have hsuffix := (trims_trimReversed path.toList.reverse).suffix
  rw [← toList_reverse_trimmed, List.reverse_suffix] at hsuffix
  obtain ⟨rest, hrest⟩ := hsuffix
  refine ⟨String.ofList rest, String.toList_inj.1 ?_⟩
  rw [String.toList_append, String.toList_ofList, hrest]

/-- What has been trimmed leads nowhere. -/
theorem components_trimmed (path : Path) :
    ∃ count, components path = components (trimmed path) ++ List.replicate count "." := by
  obtain ⟨count, hpieces⟩ := (trims_trimReversed path.toList.reverse).pieces
  have hpath : components path = components (String.ofList path.toList.reverse.reverse) := by
    rw [List.reverse_reverse, String.ofList_toList]
  refine ⟨count, ?_⟩
  rw [hpath, trimmed, components_reverse, components_reverse, hpieces, List.map_append,
    List.map_replicate]

/-- Trimming keeps where a path starts from. -/
theorem start_trimmed {path : Path} (h : path ≠ "") :
    FileTree.start (trimmed path) = FileTree.start path := by
  refine start_of_suffix (trimmed_ne_empty h) ?_
  rw [toList_reverse_trimmed]
  exact (trims_trimReversed path.toList.reverse).suffix

/-- A name is no part of what is trimmed. -/
theorem trimReversed_of_isPlain {name : String} (hn : IsPlain name) (rest : List Char) :
    trimReversed (name.toList.reverse ++ '/' :: rest) = name.toList.reverse ++ '/' :: rest := by
  have hslash : ∀ c ∈ name.toList.reverse, c ≠ '/' := by
    rintro c hc rfl
    exact hn.noSlash (List.mem_reverse.1 hc)
  obtain ⟨c, others, hname⟩ : ∃ c others, name.toList.reverse = c :: others :=
    List.exists_cons_of_ne_nil (by simpa using hn.ne_empty)
  rw [hname] at hslash ⊢
  have hc : c ≠ '/' := hslash c List.mem_cons_self
  rw [trimReversed]
  · intro h
    exact hc (List.cons.inj h).1
  · intro _ h
    exact hc (List.cons.inj h).1
  · intro _ h
    obtain ⟨rfl, hrest⟩ := List.cons.inj h
    cases others with
    | nil =>
      have hdot : name.toList = ['.'] := by simpa using congrArg List.reverse hname
      exact hn.ne_dot (String.toList_inj.1 hdot)
    | cons d _ => exact hslash d (by simp) (List.cons.inj hrest).1

/-- The directory above a name is the one that it was joined to. -/
theorem parent?_join {directory : Path} (hd : directory ≠ "") {name : String} (hn : IsPlain name) :
    parent? (join directory name) = some (trimmed directory) := by
  have hne : directory.toList.reverse ≠ [] := by
    rw [ne_eq, List.reverse_eq_nil_iff]
    exact fun h => hd (String.toList_inj.1 h)
  obtain ⟨rest, htext, htrim⟩ : ∃ rest,
      (join directory name).toList.reverse = name.toList.reverse ++ '/' :: rest ∧
        trimReversed ('/' :: rest) = trimReversed directory.toList.reverse := by
    unfold join
    split
    · next h => exact absurd (List.getLast?_eq_none_iff.1 h) (by simpa using hne)
    · next h =>
      obtain ⟨init, hinit⟩ := List.getLast?_eq_some_iff.1 h
      exact ⟨init.reverse, by simp [hinit], by simp [hinit]⟩
    · refine ⟨directory.toList.reverse, by simp, ?_⟩
      rw [trimReversed]
      exact hne
  have hdrop : (name.toList.reverse ++ '/' :: rest).dropWhile (· ≠ '/') = '/' :: rest := by
    rw [List.dropWhile_append_of_pos]
    · simp
    · intro c hc
      have hcs : c ≠ '/' := by
        rintro rfl
        exact hn.noSlash (List.mem_reverse.1 hc)
      simpa using hcs
  unfold parent?
  rw [htext, trimReversed_of_isPlain hn]
  split
  · next h => simp at h
  · next h =>
    have hl := congrArg List.length h
    have hpos := List.length_pos_iff.2 hn.ne_empty
    simp at hl
    omega
  · rw [hdrop, htrim, trimmed]

/-- What comes first in a reversed text is its last component. -/
theorem exists_reversedPieces_eq {text : List Char} (h : text.takeWhile (· ≠ '/') ≠ []) :
    ∃ name, reversedPieces text = reversedPieces (text.dropWhile (· ≠ '/')) ++ [name] := by
  have hsplit := List.takeWhile_append_dropWhile (p := (· ≠ '/')) (l := text)
  have hname : '/' ∉ text.takeWhile (· ≠ '/') := by
    intro hm
    have hall := List.all_eq_true.1 (List.all_takeWhile (p := (· ≠ '/')) (l := text)) _ hm
    simp at hall
  refine ⟨(text.takeWhile (· ≠ '/')).reverse, ?_⟩
  cases hdrop : text.dropWhile (· ≠ '/') with
  | nil =>
    rw [hdrop, List.append_nil] at hsplit
    rw [hsplit] at hname h ⊢
    rw [reversedPieces, Text.pieces_of_notMem (by simpa using hname)]
    simp [h, reversedPieces, Text.pieces]
  | cons c rest =>
    have hcons : text.dropWhile (· ≠ '/') ≠ [] := by
      rw [hdrop]
      exact List.cons_ne_nil _ _
    obtain rfl : c = '/' := by
      have hhead : (text.dropWhile (· ≠ '/')).head hcons = c := by
        simp only [hdrop, List.head_cons]
      have hc := List.head_dropWhile_not (· ≠ '/') hcons
      rw [hhead] at hc
      simpa using hc
    rw [hdrop] at hsplit
    rw [reversedPieces_slash, ← reversedPieces_append hname h, hsplit]

/-- Without what follows its last slash a text has the same components but the last. -/
theorem reversedPieces_dropWhile (text : List Char) :
    reversedPieces (text.dropWhile (· ≠ '/')) <+: reversedPieces text := by
  by_cases hne : text.takeWhile (· ≠ '/') = []
  · have hsplit := List.takeWhile_append_dropWhile (p := (· ≠ '/')) (l := text)
    rw [hne, List.nil_append] at hsplit
    exact ⟨[], by rw [hsplit, List.append_nil]⟩
  · obtain ⟨name, hname⟩ := exists_reversedPieces_eq hne
    exact ⟨[name], hname.symm⟩

/-- The directory above a path lies on the way to it. -/
theorem leadsTo_of_parent? {path up : Path} (h : parent? path = some up) (hne : up ≠ "") :
    LeadsTo up path := by
  have hup : up.toList.reverse =
      trimReversed ((trimReversed path.toList.reverse).dropWhile (· ≠ '/')) := by
    unfold parent? at h
    split at h
    · cases h
    · cases h
    · rw [← Option.some.inj h, String.toList_ofList, List.reverse_reverse]
  have houter := trims_trimReversed path.toList.reverse
  have hinner := trims_trimReversed ((trimReversed path.toList.reverse).dropWhile (· ≠ '/'))
  rw [← hup] at hinner
  constructor
  · obtain ⟨_, hpath⟩ := houter.pieces
    obtain ⟨_, hdrop⟩ := hinner.pieces
    have htext := reversedPieces_dropWhile (trimReversed path.toList.reverse)
    have hpieces : reversedPieces up.toList.reverse <+: reversedPieces path.toList.reverse := by
      rw [hpath]
      exact (List.IsPrefix.trans ⟨_, hdrop.symm⟩ htext).trans (List.prefix_append _ _)
    simpa only [components, reversedPieces, List.reverse_reverse] using
      hpieces.map String.ofList
  · refine start_of_suffix hne ?_
    exact (hinner.suffix.trans (List.dropWhile_suffix _)).trans houter.suffix

/-- A path may be led to in several steps. -/
protected theorem LeadsTo.trans {a b c : Path} (hab : LeadsTo a b) (hbc : LeadsTo b c) :
    LeadsTo a c :=
  ⟨hab.components.trans hbc.components, hab.start.trans hbc.start⟩

/-- The empty path has no ancestors. -/
theorem ancestorsFrom_empty (fuel : Nat) : ancestorsFrom fuel "" = [] := by
  cases fuel <;> rfl

/-- All directories that are created for a path lie on the way to it. -/
theorem leadsTo_of_mem_ancestors {path up : Path} (h : up ∈ ancestors path) :
    LeadsTo up path := by
  have all : ∀ fuel path, up ∈ ancestorsFrom fuel path → LeadsTo up path := by
    intro fuel
    induction fuel with
    | zero => exact fun _ h => absurd h List.not_mem_nil
    | succ fuel ih =>
      intro path h
      by_cases hpath : path = ""
      · rw [hpath, ancestorsFrom_empty] at h
        exact absurd h List.not_mem_nil
      · have hcons : ancestorsFrom (fuel + 1) path =
            path :: (parent? path).elim [] (ancestorsFrom fuel) := by
          rw [ancestorsFrom]
          exact hpath
        rw [hcons] at h
        rcases List.mem_cons.1 h with rfl | h
        · exact ⟨List.prefix_refl _, rfl⟩
        · cases hparent : parent? path with
          | none =>
            rw [hparent] at h
            exact absurd h List.not_mem_nil
          | some above =>
            rw [hparent] at h
            have hne : above ≠ "" := by
              rintro rfl
              rw [Option.elim_some, ancestorsFrom_empty] at h
              exact absurd h List.not_mem_nil
            exact (ih above h).trans (leadsTo_of_parent? hparent hne)
  exact all _ _ h

/-- Whether the way to a place never leads back: every part of it ends above the place or there. -/
def Straight (path : Path) : Prop :=
  ∀ names, names <+: components path → names.foldl step (FileTree.start path) <+: path.place

/-- Without a name of the directory above no way leads back. -/
theorem straight_of_notMem {path : Path} (h : ".." ∉ components path) : Straight path := by
  have grows : ∀ (names : List String) (place : Place), ".." ∉ names →
      place <+: names.foldl step place := by
    intro names
    induction names with
    | nil => exact fun place _ => List.prefix_refl place
    | cons name names ih =>
      intro place hn
      rw [List.mem_cons, not_or] at hn
      refine List.IsPrefix.trans ?_ (ih (step place name) hn.2)
      unfold step
      split
      · exact List.prefix_refl _
      · rw [if_neg (Ne.symm hn.1)]
        exact List.prefix_append _ _
  rintro names ⟨rest, hrest⟩
  rw [place, ← hrest, List.foldl_append]
  exact grows rest _ fun hm => h (by rw [← hrest]; exact List.mem_append_right _ hm)

/-- What leads to a straight path has its place above it. -/
theorem Straight.place_prefix {path up : Path} (h : Straight path) (hup : LeadsTo up path) :
    up.place <+: path.place := by
  have hprefix := h _ hup.components
  rwa [← hup.start] at hprefix

/-- A directory leads to the same place without what is trimmed from its end. -/
theorem place_trimmed {path : Path} (h : path ≠ "") : (trimmed path).place = path.place := by
  obtain ⟨count, hcomponents⟩ := components_trimmed path
  have stays : ∀ (count : Nat) (place : Place),
      (List.replicate count ".").foldl step place = place := by
    intro count
    induction count with
    | zero => exact fun _ => rfl
    | succ count ih =>
      intro place
      rw [List.replicate_succ, List.foldl_cons, step, if_pos rfl, ih]
  rw [place, place, hcomponents, List.foldl_append, stays, start_trimmed h]

end Path

namespace FileTree

variable {tree : FileTree} {directory : Path}

/-- A path resolves without what is trimmed from its end. -/
theorem resolve_trimmed {place : Place} (h : tree.resolve directory = .ok place) :
    tree.resolve (Path.trimmed directory) = .ok place := by
  obtain ⟨-, hne, -, -⟩ := resolve_eq_ok_iff.1 h
  obtain ⟨count, hcomponents⟩ := Path.components_trimmed directory
  have hr := (resolve_of_append (Path.trimmed_ne_empty hne) (Path.exists_append_trimmed directory)
    (Path.start_trimmed hne).symm hcomponents h).1
  rwa [Path.place_trimmed hne, ← place_of_resolve h] at hr

/-- A directory is found without what is trimmed from its end. -/
theorem stat_trimmed (h : tree.stat directory = .ok .directory) :
    tree.stat (Path.trimmed directory) = .ok .directory := by
  obtain ⟨hr, hg⟩ := stat_eq_ok_iff.1 h
  have hplace := Path.place_trimmed (resolve_eq_ok_iff.1 hr).2.1
  rw [stat_eq_ok_iff, hplace]
  exact ⟨resolve_trimmed hr, hg⟩

/-- What stands nowhere is found neither. -/
theorem exists_stat_trimmed_error (hne : directory ≠ "") (h : tree.get? directory.place = none) :
    ∃ error, tree.stat (Path.trimmed directory) = .error error := by
  cases hs : tree.stat (Path.trimmed directory) with
  | error error => exact ⟨error, rfl⟩
  | ok entry =>
    have hg := (stat_eq_ok_iff.1 hs).2
    rw [Path.place_trimmed hne, h] at hg
    cases hg

/-- Creating a directory puts nothing anywhere else. -/
theorem get?_createDirectory {tree' : FileTree} {path : Path}
    (h : tree.createDirectory path = .ok tree') {place : Place} (hp : place ≠ path.place) :
    tree'.get? place = tree.get? place := by
  unfold createDirectory at h
  cases hr : tree.resolve path with
  | error error =>
    rw [hr] at h
    cases h
  | ok found =>
    obtain rfl := place_of_resolve hr
    rw [hr] at h
    simp only [bind, Except.bind] at h
    split at h
    · next hg =>
      obtain rfl := Except.ok.inj h
      have hnot : tree.get? path.place ≠ some .directory := by simp [hg]
      rw [get?_set tree place _ (alwaysExists_eq_false hnot), if_neg hp]
    · rw [Except.ok.inj h]
    · cases h

/-- Creating directories puts nothing anywhere but in their places. -/
theorem get?_createAlong {paths : List Path} {place : Place}
    (h : ∀ path ∈ paths, place ≠ path.place) :
    (tree.createAlong paths).1.get? place = tree.get? place := by
  induction paths generalizing tree with
  | nil => rfl
  | cons path above ih =>
    have hpath := h path List.mem_cons_self
    have habove := @ih tree fun other hm => h other (List.mem_cons_of_mem _ hm)
    rw [createAlong]
    split
    · next hc => exact get?_createDirectory hc hpath
    · split
      · next ha =>
        rw [ha] at habove
        exact habove
      · next ha =>
        rw [ha] at habove
        split
        · next hc => exact (get?_createDirectory hc hpath).trans habove
        · exact habove
    · rfl

/-- What is taken away with a directory is gone, and everything else stays. -/
theorem get?_eraseAll (tree : FileTree) {top place : Place} (h : alwaysExists place = false) :
    (tree.eraseAll top).get? place = if top <+: place then none else tree.get? place := by
  simp only [get?, h, Bool.false_eq_true, if_false, eraseAll]
  split
  · next hp =>
    refine Lookup.lookup_eq_none fun hany => ?_
    obtain ⟨entry, hm, he⟩ := List.any_eq_true.1 hany
    have hkept := (List.mem_filter.1 hm).2
    rw [of_decide_eq_true he, List.isPrefixOf_iff_prefix.2 hp] at hkept
    cases hkept
  · next hp =>
    refine Lookup.lookup_filter_of (p := fun other => !top.isPrefixOf other) ?_ tree.entries
    rw [Bool.not_eq_true', Bool.eq_false_iff, ne_eq, List.isPrefixOf_iff_prefix]
    exact hp

/-- A directory that is created again after it has been taken away is empty. -/
theorem get?_recreated (hs : Path.Straight directory) {name : String} (hn : Path.IsPlain name) :
    ((tree.eraseAll directory.place).createDirectories directory).1.get?
      (directory.place ++ [name]) = none := by
  have habove : ∀ path ∈ Path.ancestors directory, directory.place ++ [name] ≠ path.place := by
    intro path hm he
    have hprefix := hs.place_prefix (Path.leadsTo_of_mem_ancestors hm)
    have hlength := hprefix.length_le
    rw [← he, List.length_append, List.length_singleton] at hlength
    omega
  rw [createDirectories, get?_createAlong habove,
    get?_eraseAll tree (alwaysExists_concat_of_isPlain _ hn),
    if_pos (List.prefix_append _ _)]

/-- On the way to a directory that stands there are directories alone. -/
theorem get?_of_prefix (hd : tree.stat directory = .ok .directory) {names : List String}
    (h : names <+: Path.components directory) :
    tree.get? (names.foldl Path.step (start directory)) = some .directory := by
  obtain ⟨hr, hg⟩ := stat_eq_ok_iff.1 hd
  have hwalk := (resolve_eq_ok_iff.1 hr).2.2.2
  obtain ⟨rest, hrest⟩ := h
  rw [← hrest, List.foldlM_append] at hwalk
  cases hfirst : names.foldlM (descend tree) (start directory) with
  | error error =>
    rw [hfirst] at hwalk
    cases hwalk
  | ok place =>
    rw [hfirst] at hwalk
    rw [← foldlM_descend_place hfirst]
    cases rest with
    | nil =>
      have hplace : place = directory.place := Except.ok.inj hwalk
      rw [hplace]
      exact hg
    | cons name rest => exact get?_of_foldlM_cons hwalk

end FileTree

end TelemetrySpool
