import TelemetrySpool.Text.Split

/-!
# Paths

A path is text whose components are parted by slashes. Joining keeps the text of both sides, so a
path is shown the way it was given. Two texts are the same path if they have the same route.
-/

namespace TelemetrySpool

/-- The text of a path. -/
abbrev Path := String

namespace Path

/-- Puts a name below a directory; a slash is added unless the directory is empty or ends in one. -/
def join (directory name : Path) : Path :=
  match directory.toList.getLast? with
  | none => name
  | some '/' => directory ++ name
  | some _ => directory ++ "/" ++ name

/-- The names a path walks through; empty names between two slashes count for nothing. -/
def components (path : Path) : List String :=
  ((Text.pieces '/' path.toList).filter (· ≠ [])).map String.ofList

/-- Whether a path starts at the root. -/
def isAbsolute (path : Path) : Bool := path.toList.head? = some '/'

/-- What tells one path from another: where it starts, and the names that it walks through. -/
structure Route where
  absolute : Bool
  names : List String
  deriving DecidableEq, Repr

/-- The route of a path. The name of the current directory counts only where a relative path starts
with it. -/
def route (path : Path) : Route where
  absolute := isAbsolute path
  names :=
    match components path with
    | [] => []
    | first :: names =>
      if isAbsolute path then (first :: names).filter (· ≠ ".")
      else first :: names.filter (· ≠ ".")

/-- Drops slashes and current-directory names from the end of a reversed path. -/
def trimReversed : List Char → List Char
  | ['/'] => ['/']
  | '/' :: rest => trimReversed rest
  | '.' :: '/' :: rest => if rest = [] then ['/'] else trimReversed rest
  | text => text

/-- The directory part of a path; none for an empty path and for the root. -/
def parent? (path : Path) : Option Path :=
  match trimReversed path.toList.reverse with
  | [] => none
  | ['/'] => none
  | text => some (String.ofList (trimReversed (text.dropWhile (· ≠ '/'))).reverse)

/-- A path and the directories above it, the nearest first, as far as `fuel` reaches. -/
def ancestorsFrom : (fuel : Nat) → Path → List Path
  | 0, _ => []
  | _ + 1, "" => []
  | fuel + 1, path => path :: (parent? path).elim [] (ancestorsFrom fuel)

/--
A path and the directories above it, the nearest first. Every one of them is shorter than the one
before it.
-/
def ancestors (path : Path) : List Path := ancestorsFrom path.length path

end Path

end TelemetrySpool
