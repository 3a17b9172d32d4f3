import TelemetrySpool.Files.Tree

/-!
# Volumes

The volume that holds a file tree knows how much of it is free, and it may fail in the middle of an
append. Neither can be told from the tree, so both are left to the volume: its answers may be any.
-/

namespace TelemetrySpool

/-- What a query of free space finds out. -/
inductive Space where
  /-- That many octets are free. -/
  | available (bytes : Nat)
  /-- The path could not be asked about. -/
  | unreachable (error : FileError)
  /-- The query failed for a reason of its own. -/
  | refused (reason : String)
  /-- The query did not come to an end. -/
  | aborted (reason : String)
  deriving DecidableEq, Repr

/-- How a volume answers for the files on it. -/
structure Volume where
  /-- What a query of the free space at a path finds out. -/
  space : FileTree → Path → Space
  /-- If an append of octets fails after the file at a path has been opened: how many of them got
  into the file, and why the others did not. -/
  breakOff? : FileTree → Path → Bytes → Option (Nat × String)
  /-- An append that has got all of its octets into the file does not fail. -/
  short : ∀ files path bytes count reason,
    breakOff? files path bytes = some (count, reason) → count < bytes.length

namespace Volume

/-- A volume that takes every append as a whole. -/
def Complete (volume : Volume) : Prop :=
  ∀ files path bytes, volume.breakOff? files path bytes = none

/-- The volume with that many octets free, which answers for paths that exist. -/
def ofFree (bytes : Nat) : Volume where
  space files path :=
    match files.stat path with
    | .ok _ => .available bytes
    | .error error => .unreachable error
  breakOff? _ _ _ := none
  short _ _ _ _ _ h := by cases h

/-- The volume that finds out the same about every path, and whose appends break off after so many
octets, if they have more. -/
def answering (space : Space) (fault : Option (Nat × String)) : Volume where
  space _ _ := space
  breakOff? _ _ bytes := fault.filter fun broken => broken.1 < bytes.length
  short _ _ _ _ _ h := of_decide_eq_true (Option.filter_eq_some_iff.1 h).2

/-- The volume that finds out the same about every path and takes every append. -/
def constant (space : Space) : Volume := answering space none

/-- The octets of an append that get into the file at a path. -/
def taken (volume : Volume) (files : FileTree) (path : Path) (bytes : Bytes) : Bytes :=
  match volume.breakOff? files path bytes with
  | some (count, _) => bytes.take count
  | none => bytes

/-- What a volume takes of an append is the beginning of it. -/
theorem taken_prefix (volume : Volume) (files : FileTree) (path : Path) (bytes : Bytes) :
    volume.taken files path bytes <+: bytes := by
  unfold taken
  split
  · exact List.take_prefix _ _
  · exact List.prefix_refl _

/-- A complete volume takes all of it. -/
theorem Complete.taken_eq {volume : Volume} (h : volume.Complete) (files : FileTree) (path : Path)
    (bytes : Bytes) : volume.taken files path bytes = bytes := by
  rw [taken, h]

/-- A volume that only runs out of space is complete. -/
theorem complete_ofFree (bytes : Nat) : (ofFree bytes).Complete := fun _ _ _ => rfl

end Volume

end TelemetrySpool
