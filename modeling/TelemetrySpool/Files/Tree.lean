import TelemetrySpool.Bytes
import TelemetrySpool.Files.Path
import TelemetrySpool.Lookup

/-!
# File trees

A file tree assigns a directory or the bytes of a file to lists of names. Paths are resolved
against it: every name before the last has to be a directory. The operations are those a spool
needs, and each either fails with a cause and changes nothing or gives the changed tree.
-/

namespace TelemetrySpool

/-- Why an operation on a file tree failed. -/
inductive FileError where
  | notFound
  | alreadyExists
  | notDirectory
  | isDirectory
  | nameTooLong
  /-- The null character ends a path, so none can hold it. -/
  | nullInPath
  deriving DecidableEq, Repr

/-- The text of a cause; those that the operating system reports have a number. -/
def FileError.message : FileError → String
  | notFound => "No such file or directory (os error 2)"
  | alreadyExists => "File exists (os error 17)"
  | notDirectory => "Not a directory (os error 20)"
  | isDirectory => "Is a directory (os error 21)"
  | nameTooLong => "File name too long (os error 36)"
  | nullInPath => "file name contained an unexpected NUL byte"

/-- What stands at a place of the tree. -/
inductive Entry where
  | directory
  | file (content : Bytes)
  deriving DecidableEq, Repr

/-- A place in the tree: the names that lead to it from where relative paths start. -/
abbrev Place := List String

/-- Directories and files by place; places that are not listed do not exist. -/
structure FileTree where
  entries : List (Place × Entry) := []
  deriving Repr

namespace FileTree

/-- The size that a directory reports. -/
def directorySize : Nat := 4096

/-- The longest name, in bytes. -/
def maxNameBytes : Nat := 255

/-- The longest path, in bytes. -/
def maxPathBytes : Nat := 4095

/-- Where paths start, and what lies above it, exists always. -/
def alwaysExists (place : Place) : Bool := place.all (· = "..") || place = ["/"]

/-- What stands at a place. -/
def get? (tree : FileTree) (place : Place) : Option Entry :=
  if alwaysExists place then some .directory else tree.entries.lookup place

/-- Puts an entry at a place, over what stood there. -/
def set (tree : FileTree) (place : Place) (entry : Entry) : FileTree :=
  if tree.entries.any (·.1 = place) then ⟨Lookup.replace tree.entries place entry⟩
  else ⟨tree.entries ++ [(place, entry)]⟩

/-- Takes the entry at a place away. -/
def erase (tree : FileTree) (place : Place) : FileTree :=
  ⟨tree.entries.filter (·.1 ≠ place)⟩

/-- What is put at a place stands there, and at no other place anything changes. -/
theorem get?_set (tree : FileTree) {place : Place} (place' : Place) (entry : Entry)
    (h : alwaysExists place = false) :
    (tree.set place entry).get? place' =
      if place' = place then some entry else tree.get? place' := by
  by_cases hp : place' = place
  · subst hp
    by_cases ha : tree.entries.any (·.1 = place')
    · simp [get?, set, h, ha, Lookup.lookup_replace_self ha]
    · simp [get?, set, h, ha, Lookup.lookup_concat, Lookup.lookup_eq_none ha]
  · by_cases ha : tree.entries.any (·.1 = place)
    · simp only [get?, set, ha, if_true, hp, if_false, Lookup.lookup_replace_ne hp]
    · simp [get?, set, ha, hp, Lookup.lookup_concat]

/-- What is taken away is gone, and at no other place anything changes. -/
theorem get?_erase (tree : FileTree) {place : Place} (place' : Place)
    (h : alwaysExists place = false) :
    (tree.erase place).get? place' = if place' = place then none else tree.get? place' := by
  by_cases hp : place' = place
  · subst hp
    simp only [get?, erase, h, Bool.false_eq_true, if_false, if_true, Lookup.lookup_filter_self]
  · simp only [get?, erase, hp, if_false, Lookup.lookup_filter_ne hp]

/-- Takes a place and everything below it away. -/
def eraseAll (tree : FileTree) (place : Place) : FileTree :=
  ⟨tree.entries.filter fun entry => !place.isPrefixOf entry.1⟩

/-- The place above another; from where paths start it leads further up. -/
def above (place : Place) : Place :=
  if place.all (· = "..") then place ++ [".."]
  else if place = ["/"] then place
  else place.dropLast

/-- One name further from a directory. -/
def descend (tree : FileTree) (place : Place) (name : String) : Except FileError Place :=
  match tree.get? place with
  | none => .error .notFound
  | some (.file _) => .error .notDirectory
  | some .directory =>
    if name = "." then .ok place
    else if name = ".." then .ok (above place)
    else if maxNameBytes < name.utf8ByteSize then .error .nameTooLong
    else .ok (place ++ [name])

/-- Where the names of a path start. -/
def start (path : Path) : Place := if Path.isAbsolute path then ["/"] else []

/-- The place a path names; only its last name may be missing from the tree. -/
def resolve (tree : FileTree) (path : Path) : Except FileError Place :=
  if path.toList.contains '\x00' then .error .nullInPath
  else if path = "" then .error .notFound
  else if maxPathBytes < path.utf8ByteSize then .error .nameTooLong
  else (Path.components path).foldlM (descend tree) (start path)

/-- What stands at a path, or why it cannot be told. -/
def stat (tree : FileTree) (path : Path) : Except FileError Entry := do
  let place ← tree.resolve path
  match tree.get? place with
  | none => .error .notFound
  | some entry => .ok entry

/-- What stands at a path. -/
def found? (tree : FileTree) (path : Path) : Option Entry := (tree.stat path).toOption

/-- The size of what stands at a path, if anything does. -/
def size? (tree : FileTree) (path : Path) : Option Nat :=
  (tree.found? path).map fun
    | .directory => directorySize
    | .file content => content.length

/-- The bytes of a file. -/
def read (tree : FileTree) (path : Path) : Except FileError Bytes := do
  let place ← tree.resolve path
  match tree.get? place with
  | none => .error .notFound
  | some .directory => .error .isDirectory
  | some (.file content) => .ok content

/-- Creates the directory at a path, unless one stands there already. -/
def createDirectory (tree : FileTree) (path : Path) : Except FileError FileTree := do
  let place ← tree.resolve path
  match tree.get? place with
  | none => .ok (tree.set place .directory)
  | some .directory => .ok tree
  | some (.file _) => .error .alreadyExists

/-- Creates the first of several directories that lie in one another, and before it those that it
misses. -/
def createAlong (tree : FileTree) : List Path → FileTree × Except FileError Unit
  | [] => (tree, .ok ())
  | path :: above =>
    match tree.createDirectory path with
    | .ok tree => (tree, .ok ())
    | .error .notFound =>
      match tree.createAlong above with
      | (tree, .error error) => (tree, .error error)
      | (tree, .ok ()) =>
        match tree.createDirectory path with
        | .ok tree => (tree, .ok ())
        | .error error => (tree, .error error)
    | .error error => (tree, .error error)

/--
Creates the directory at a path with all directories above it; one that exists will do. Those that
have been created before a failure stay.
-/
def createDirectories (tree : FileTree) (path : Path) : FileTree × Except FileError Unit :=
  tree.createAlong (Path.ancestors path)

/-- Adds bytes at the end of a file, which is created if nothing stands there. -/
def append (tree : FileTree) (path : Path) (bytes : Bytes) : Except FileError FileTree := do
  let place ← tree.resolve path
  match tree.get? place with
  | some .directory => .error .isDirectory
  | some (.file content) => .ok (tree.set place (.file (content ++ bytes)))
  | none => .ok (tree.set place (.file bytes))

/-- Gives a file a new content; it is created if nothing stands there. -/
def write (tree : FileTree) (path : Path) (bytes : Bytes) : Except FileError FileTree := do
  let place ← tree.resolve path
  match tree.get? place with
  | some .directory => .error .isDirectory
  | _ => .ok (tree.set place (.file bytes))

/-- The name of an entry directly below a place. -/
def childName? (place : Place) (entry : Place × Entry) : Option String :=
  if entry.1.dropLast = place then entry.1.getLast? else none

/-- The names in a directory. -/
def list (tree : FileTree) (path : Path) : Except FileError (List String) := do
  let place ← tree.resolve path
  match tree.get? place with
  | none => .error .notFound
  | some (.file _) => .error .notDirectory
  | some .directory => .ok (tree.entries.filterMap (childName? place))

/-- Removes a file; a directory stays. -/
def remove (tree : FileTree) (path : Path) : Except FileError FileTree := do
  let place ← tree.resolve path
  match tree.get? place with
  | none => .error .notFound
  | some .directory => .error .isDirectory
  | some (.file _) => .ok (tree.erase place)

/-- Everything below a place, by the names that lead there from it. -/
def below (tree : FileTree) (place : Place) : List (Place × Entry) :=
  tree.entries.filterMap fun entry =>
    if place.isPrefixOf entry.1 ∧ entry.1 ≠ place then
      some (entry.1.drop place.length, entry.2)
    else none

end FileTree

end TelemetrySpool
