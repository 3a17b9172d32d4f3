import TelemetrySpool.Files.Path
import TelemetrySpool.Lookup
import TelemetrySpool.Signal
import TelemetrySpool.Sink.Error

/-!
# Rotation

For every output directory and signal there is a slot, which holds the base path that is active
there and is leased to one holder at a time. A directory may be written in several ways: keys whose
directories have the same route lead to one slot. A slot is opened when somebody first asks for it.
After the rotation has been closed no slot can be asked for any more, while the leases that are held
stay good.
-/

namespace TelemetrySpool

/-- What somebody asks for a slot with; the directory is as it has been written. -/
structure SlotKey where
  directory : Path
  signal : Signal
  deriving DecidableEq, Repr

/-- What a slot belongs to. -/
structure SlotId where
  route : Path.Route
  signal : Signal
  deriving DecidableEq, Repr

/-- The slot that a key leads to. -/
def SlotKey.id (key : SlotKey) : SlotId := ⟨key.directory.route, key.signal⟩

/-- A slot. -/
structure Slot where
  /-- The base path that is active, if there is one. -/
  active : Option Path := none
  /-- Whether somebody holds a lease. -/
  leased : Bool := false
  deriving DecidableEq, Repr

/-- All slots. -/
structure Rotation where
  closed : Bool := false
  slots : List (SlotId × Slot) := []
  deriving DecidableEq, Repr

namespace Rotation

/-- The slot of a key; one that nobody has asked for is empty. -/
def slot (r : Rotation) (key : SlotKey) : Slot := (r.slots.lookup key.id).getD {}

/-- The active base path of a key. -/
def active? (r : Rotation) (key : SlotKey) : Option Path := (r.slot key).active

/-- Puts a slot in the place of the one that a key has. -/
def set (r : Rotation) (key : SlotKey) (slot : Slot) : Rotation :=
  { r with slots := (key.id, slot) :: r.slots.filter (·.1 ≠ key.id) }

/-- Makes a base path the active one, or none. -/
def activate (r : Rotation) (key : SlotKey) (path : Option Path) : Rotation :=
  r.set key { r.slot key with active := path }

/-- Says whether the slot of a key is leased. -/
def mark (r : Rotation) (key : SlotKey) (leased : Bool) : Rotation :=
  r.set key { r.slot key with leased }

/-- Asks for the slot of a key, which opens it. -/
def open? (r : Rotation) (key : SlotKey) : Except SinkError Rotation :=
  if key.signal = .unspecified then .error .unspecifiedSignal
  else if r.closed then .error .shutDown
  else .ok (r.set key (r.slot key))

/-- How many slots are open. -/
def count (r : Rotation) : Nat := if r.closed then 0 else r.slots.length

/-- The rotation from which no slot can be asked for. -/
def close (r : Rotation) : Rotation := { r with closed := true }

/-- The slot of a key is the one that was put there, and no other slot is changed. -/
theorem slot_set (r : Rotation) (key key' : SlotKey) (slot : Slot) :
    (r.set key slot).slot key' = if key'.id = key.id then slot else r.slot key' := by
  by_cases h : key'.id = key.id
  · simp [Rotation.slot, set, h]
  · have hb : (key'.id == key.id) = false := by simpa using h
    simp only [Rotation.slot, set, List.lookup_cons, hb, h, if_false,
      Lookup.lookup_filter_ne h]

end Rotation

end TelemetrySpool
