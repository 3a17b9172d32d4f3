import TelemetrySpool.Proofs.Files.Resolution

/-!
# How files grow

A tree is seen here through the contents of its files. Creating directories leaves every file as it
was, appending makes one file longer and leaves the others alone, and neither takes a directory
away.
-/

namespace TelemetrySpool

/-- The size that an entry reports. -/
def Entry.size : Entry → Nat
  | directory => FileTree.directorySize
  | file content => content.length

namespace FileTree

/-- The content of the file at a place. -/
def file? (tree : FileTree) (place : Place) : Option Bytes :=
  match tree.get? place with
  | some (.file content) => some content
  | _ => none

/-- A place has a content if its entry is a file. -/
theorem file?_eq_some_iff {tree : FileTree} {place : Place} {content : Bytes} :
    tree.file? place = some content ↔ tree.get? place = some (.file content) := by
  unfold file?
  cases tree.get? place with
  | none => simp
  | some entry => cases entry <;> simp

/-- The size of what a path leads to. -/
theorem size?_eq {tree : FileTree} {path : Path} {place : Place} {entry : Entry}
    (hr : tree.resolve path = .ok place) (hg : tree.get? place = some entry) :
    tree.size? path = some entry.size := by
  simp only [size?, found?, stat, hr, hg, bind, Except.bind, Except.toOption, Option.map_some]
  cases entry <;> rfl

/-- Only what stands somewhere has a size. -/
theorem exists_of_size? {tree : FileTree} {path : Path} {size : Nat}
    (h : tree.size? path = some size) :
    tree.resolve path = .ok path.place ∧ ∃ entry, tree.get? path.place = some entry := by
  unfold size? found? stat at h
  cases hr : tree.resolve path with
  | error error =>
    rw [hr] at h
    cases h
  | ok place =>
    obtain rfl := place_of_resolve hr
    rw [hr] at h
    cases hg : tree.get? path.place with
    | none =>
      simp only [bind, Except.bind, hg, Except.toOption, Option.map_none, reduceCtorEq] at h
    | some entry => exact ⟨rfl, entry, rfl⟩

/-- Where nothing stands no size can be told. -/
theorem size?_eq_none {tree : FileTree} {path : Path} (h : tree.get? path.place = none) :
    tree.size? path = none := by
  refine Option.eq_none_iff_forall_ne_some.2 fun size hs => ?_
  obtain ⟨-, entry, hg⟩ := exists_of_size? hs
  rw [h] at hg
  cases hg

/-- Nothing but a directory stands where a place exists always. -/
theorem alwaysExists_eq_false {tree : FileTree} {place : Place}
    (h : tree.get? place ≠ some .directory) : alwaysExists place = false := by
  cases ha : alwaysExists place with
  | false => rfl
  | true => exact absurd (by rw [get?, ha, if_pos rfl]) h

/-- No name but that of the directory above, or of the root, leads to a place that exists always. -/
theorem alwaysExists_concat (place : Place) {name : String} (hd : name ≠ "..")
    (hr : name ≠ "/") : alwaysExists (place ++ [name]) = false := by
  have hroot : place ++ [name] ≠ ["/"] := by
    intro h
    have hlast := congrArg List.getLast? h
    rw [List.getLast?_concat] at hlast
    exact hr (Option.some.inj hlast)
  simp [alwaysExists, hd, hroot]

/-- Behind a plain name nothing exists by itself. -/
theorem alwaysExists_concat_of_isPlain (place : Place) {name : String} (h : Path.IsPlain name) :
    alwaysExists (place ++ [name]) = false := alwaysExists_concat place h.ne_dots h.ne_root

/-- No name in the tree has a slash. -/
def Proper (tree : FileTree) : Prop := ∀ entry ∈ tree.entries, Path.Proper entry.1

/-- Nothing improper comes with an entry at the end of a path. -/
theorem Proper.set {tree : FileTree} (h : tree.Proper) {place : Place} (hp : Path.Proper place)
    (entry : Entry) : (tree.set place entry).Proper := by
  intro other ho
  unfold FileTree.set at ho
  split at ho
  · obtain ⟨old, hold, rfl⟩ := List.mem_map.1 ho
    split
    · exact hp
    · exact h old hold
  · rcases List.mem_append.1 ho with ho | ho
    · exact h other ho
    · rw [List.mem_singleton.1 ho]
      exact hp

/-- The content of a file after lines have been added at its end. -/
def extended (content : Option Bytes) (lines : List String) : Option Bytes :=
  if lines = [] then content else some (content.getD [] ++ lines.flatMap Bytes.ofText)

@[simp]
theorem extended_nil (content : Option Bytes) : extended content [] = content := if_pos rfl

/-- Lines appended in two goes are appended in one. -/
theorem extended_append (content : Option Bytes) (lines lines' : List String) :
    extended (extended content lines) lines' = extended content (lines ++ lines') := by
  by_cases h : lines = []
  · rw [h, extended_nil, List.nil_append]
  · by_cases h' : lines' = []
    · rw [h', extended_nil, List.append_nil]
    · rw [extended, if_neg h', extended, if_neg h, extended, if_neg (by simp [h]),
        Option.getD_some, List.flatMap_append, List.append_assoc]

/-- A line at the end. -/
theorem extended_concat (content : Option Bytes) (lines : List String) (line : String) :
    extended content (lines ++ [line]) =
      some ((extended content lines).getD [] ++ Bytes.ofText line) := by
  rw [← extended_append, extended, if_neg (List.cons_ne_nil _ _), List.flatMap_singleton]

/-- A file that comes into being with its first line holds nothing but lines. -/
theorem eq_of_extended_none {content : Bytes} {lines : List String}
    (h : extended none lines = some content) : content = lines.flatMap Bytes.ofText := by
  unfold extended at h
  split at h
  · cases h
  · exact (Option.some.inj h).symm

/-- A tree has all directories of another one, and no name with a slash has come into it. -/
structure Keeps (tree tree' : FileTree) : Prop where
  directory : ∀ place, tree.get? place = some .directory → tree'.get? place = some .directory
  proper : tree.Proper → tree'.Proper

protected theorem Keeps.refl (tree : FileTree) : Keeps tree tree := ⟨fun _ h => h, id⟩

protected theorem Keeps.trans {a b c : FileTree} (hab : Keeps a b) (hbc : Keeps b c) :
    Keeps a c :=
  ⟨fun place h => hbc.directory place (hab.directory place h), hbc.proper ∘ hab.proper⟩

/-- The files of one tree are those of another, which has all of its directories. -/
structure SameFiles (tree tree' : FileTree) : Prop extends Keeps tree tree' where
  file?_eq : ∀ place, tree'.file? place = tree.file? place

namespace SameFiles

protected theorem refl (tree : FileTree) : SameFiles tree tree :=
  ⟨.refl tree, fun _ => rfl⟩

protected theorem trans {a b c : FileTree} (hab : SameFiles a b) (hbc : SameFiles b c) :
    SameFiles a c :=
  ⟨hab.toKeeps.trans hbc.toKeeps, fun place => (hbc.file?_eq place).trans (hab.file?_eq place)⟩

/-- Where nothing stands now nothing stood before. -/
theorem get?_eq_none {tree tree' : FileTree} (h : SameFiles tree tree') {place : Place}
    (hn : tree'.get? place = none) : tree.get? place = none := by
  cases hg : tree.get? place with
  | none => rfl
  | some entry =>
    cases entry with
    | directory =>
      rw [h.directory place hg] at hn
      cases hn
    | file content =>
      have hf := (h.file?_eq place).trans (file?_eq_some_iff.2 hg)
      rw [file?_eq_some_iff.1 hf] at hn
      cases hn

end SameFiles

/-- The file that a path leads to has got more bytes at its end, and nothing else has changed. -/
structure Grown (tree tree' : FileTree) (path : Path) (bytes : Bytes) : Prop
    extends Keeps tree tree' where
  resolve_eq : tree.resolve path = .ok path.place
  file?_eq : ∀ place, tree'.file? place =
    if place = path.place then some ((tree.file? place).getD [] ++ bytes) else tree.file? place

namespace Grown

variable {tree tree' : FileTree} {path : Path} {bytes : Bytes}

/-- Directories may have been added before. -/
theorem of_sameFiles {tree₀ : FileTree} (hs : SameFiles tree₀ tree)
    (h : Grown tree tree' path bytes) (place : Place) : tree'.file? place =
      if place = path.place then some ((tree₀.file? place).getD [] ++ bytes)
      else tree₀.file? place := by
  rw [h.file?_eq, hs.file?_eq]

end Grown

/-- A directory that is put where nothing stood hides no file. -/
theorem sameFiles_set_directory {tree : FileTree} {place : Place} (h : tree.get? place = none)
    (hp : Path.Proper place) : SameFiles tree (tree.set place .directory) := by
  have hn : tree.get? place ≠ some .directory := by simp [h]
  have ha := alwaysExists_eq_false hn
  refine ⟨⟨fun place' hd => ?_, fun ht => ht.set hp _⟩, fun place' => ?_⟩
  · rw [get?_set tree place' .directory ha]
    split
    · rfl
    · exact hd
  · unfold file?
    rw [get?_set tree place' .directory ha]
    by_cases hp : place' = place
    · simp [hp, h]
    · simp [hp]

/-- Creating a directory changes no file. -/
theorem sameFiles_createDirectory {tree tree' : FileTree} {path : Path}
    (h : tree.createDirectory path = .ok tree') : SameFiles tree tree' := by
  unfold createDirectory at h
  cases hr : tree.resolve path with
  | error error => rw [hr] at h; cases h
  | ok place =>
    rw [hr] at h
    simp only [bind, Except.bind] at h
    split at h
    · next hn =>
      obtain rfl := Except.ok.inj h
      rw [place_of_resolve hr] at hn ⊢
      exact sameFiles_set_directory hn (Path.proper_place path)
    · obtain rfl := Except.ok.inj h
      exact .refl _
    · cases h

/-- Creating directories that lie in one another changes no file, however far it gets. -/
theorem sameFiles_createAlong (tree : FileTree) (paths : List Path) :
    SameFiles tree (tree.createAlong paths).1 := by
  induction paths generalizing tree with
  | nil => exact .refl _
  | cons path above ih =>
    rw [createAlong]
    split
    · next hc => exact sameFiles_createDirectory hc
    · have hi := ih tree
      split
      · next ha => rw [ha] at hi; exact hi
      · next ha =>
        rw [ha] at hi
        split
        · next hc => exact hi.trans (sameFiles_createDirectory hc)
        · exact hi
    · exact .refl _

/-- Creating directories changes no file, however far it gets. -/
theorem sameFiles_createDirectories (tree : FileTree) (path : Path) :
    SameFiles tree (tree.createDirectories path).1 := sameFiles_createAlong _ _

/-- A file that is put where no directory stands is the only thing that changes. -/
theorem grown_set_file {tree : FileTree} {path : Path} (bytes : Bytes)
    (hr : tree.resolve path = .ok path.place) (hd : tree.get? path.place ≠ some .directory) :
    Grown tree (tree.set path.place (.file ((tree.file? path.place).getD [] ++ bytes)))
      path bytes := by
  have ha := alwaysExists_eq_false hd
  refine ⟨⟨fun place h => ?_, fun ht => ht.set (Path.proper_place path) _⟩, hr, fun place => ?_⟩
  · rw [get?_set tree place _ ha, if_neg (by rintro rfl; exact hd h)]
    exact h
  · rw [file?, get?_set tree place _ ha]
    by_cases hp : place = path.place
    · simp only [hp, if_true]
    · simp only [hp, if_false, file?]

/-- Appending makes the file at a path longer. -/
theorem grown_of_append {tree tree' : FileTree} {path : Path} {bytes : Bytes}
    (h : tree.append path bytes = .ok tree') : Grown tree tree' path bytes := by
  unfold append at h
  cases hr : tree.resolve path with
  | error error => rw [hr] at h; cases h
  | ok place =>
    obtain rfl := place_of_resolve hr
    rw [hr] at h
    simp only [bind, Except.bind] at h
    split at h
    · cases h
    · next content hg =>
      obtain rfl := Except.ok.inj h
      have hf := file?_eq_some_iff.2 hg
      simpa only [hf, Option.getD_some] using
        grown_set_file bytes hr (by simp [hg])
    · next hg =>
      obtain rfl := Except.ok.inj h
      have hf : tree.file? path.place = none := by simp [file?, hg]
      simpa only [hf, Option.getD_none, List.nil_append] using
        grown_set_file bytes hr (by simp [hg])

/-- Appending to a file changes nothing in any other place. -/
theorem get?_append {tree tree' : FileTree} {path : Path} {bytes : Bytes}
    (h : tree.append path bytes = .ok tree') {place : Place} (hp : place ≠ path.place) :
    tree'.get? place = tree.get? place := by
  unfold append at h
  cases hr : tree.resolve path with
  | error error =>
    rw [hr] at h
    cases h
  | ok found =>
    obtain rfl := place_of_resolve hr
    rw [hr] at h
    simp only [bind, Except.bind] at h
    have hset : ∀ entry, tree.get? path.place ≠ some .directory →
        (tree.set path.place entry).get? place = tree.get? place := by
      intro entry hne
      rw [get?_set tree place _ (alwaysExists_eq_false hne), if_neg hp]
    split at h
    · cases h
    · next hg =>
      obtain rfl := Except.ok.inj h
      exact hset _ (by simp [hg])
    · next hg =>
      obtain rfl := Except.ok.inj h
      exact hset _ (by simp [hg])

end FileTree

end TelemetrySpool
