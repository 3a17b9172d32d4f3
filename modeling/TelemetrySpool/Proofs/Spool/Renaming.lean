import TelemetrySpool.Proofs.Spool.Base
import TelemetrySpool.Proofs.Spool.Naming
import TelemetrySpool.Proofs.Time.Order

/-!
# The search for a new name ends

A rotation tries one millisecond after the other until the name differs from the active one. Nothing
bounds this search but the names themselves: two instants a millisecond apart never have the same
name, not even across the end of a leap second or of a year. So at most one name is passed over.
-/

namespace TelemetrySpool

namespace FileName

/-- A millisecond later the base path is another one, in whichever way its directory is written. -/
theorem route_addMillis_ne (directory directory' : Path) (signal : Signal) (time : Instant) :
    (basePath directory signal (time.addMillis 1)).route ≠
      (basePath directory' signal time).route := by
  intro h
  have hrank := Instant.rank_eq_iff.2 (stamp_eq_of_route h)
  have hlt := Instant.rank_lt_addMillis time
  omega

/-- Base paths of a slot that lead to one place are the same path. -/
theorem route_eq_of_place {directory directory' : Path} {signal : Signal} {t u : Instant}
    (hd : directory.route = directory'.route)
    (h : (basePath directory signal t).place = (basePath directory' signal u).place) :
    (basePath directory signal t).route = (basePath directory' signal u).route := by
  rw [← ofStream_all directory signal t, ← ofStream_all directory' signal u, place_ofStream,
    place_ofStream, Path.place_eq_of_route hd] at h
  exact route_basePath_eq_iff.2 ⟨hd, (List.cons.inj (List.append_cancel_left h)).1⟩

end FileName

namespace Store

variable {key : SlotKey} {active : Option Path} {time last : Instant} {steps : Nat}

/-- The search for a base path from an instant on, with the number of steps that it takes and the
instant at which it ends. No bound is set to the steps: the search goes on for as long as the path
is the active one, in whichever way that is written. -/
inductive Renames (key : SlotKey) (active : Option Path) : Instant → Nat → Instant → Prop
  /-- The path is not in use, so the search ends. -/
  | free {time : Instant} :
    active.map Path.route ≠ some (FileName.basePath key.directory key.signal time).route →
    Renames key active time 0 time
  /-- The path is in use, so the search goes on from the next millisecond. -/
  | taken {time last : Instant} {steps : Nat} :
    active.map Path.route = some (FileName.basePath key.directory key.signal time).route →
    Renames key active (time.addMillis 1) steps last → Renames key active time (steps + 1) last

/-- A search ends at a path that is not the active one. -/
theorem Renames.ne (h : Renames key active time steps last) :
    active.map Path.route ≠ some (FileName.basePath key.directory key.signal last).route := by
  induction h with
  | free hne => exact hne
  | taken _ _ ih => exact ih

/-- As many steps as a search takes are enough to find its path. -/
theorem Renames.freshPath_eq (h : Renames key active time steps last) {fuel : Nat}
    (hf : steps ≤ fuel) :
    freshPath key active fuel time = FileName.basePath key.directory key.signal last := by
  induction h generalizing fuel with
  | free hne => exact freshPath_of_ne fuel hne
  | taken ha _ ih =>
    obtain ⟨fuel, rfl⟩ := Nat.exists_eq_add_of_le' (Nat.le_trans (Nat.le_add_left 1 _) hf)
    rw [freshPath, if_pos ha]
    exact ih (Nat.le_of_succ_le_succ hf)

/-- After an instant whose path is the active one, the next millisecond is free. -/
theorem Renames.once
    (ha : active.map Path.route =
      some (FileName.basePath key.directory key.signal time).route) :
    Renames key active time 1 (time.addMillis 1) := by
  refine .taken ha (.free ?_)
  rw [ha]
  exact fun he => FileName.route_addMillis_ne _ _ _ _ (Option.some.inj he).symm

/-- A search takes one step if the path of its first instant is the active one, and none
otherwise. -/
theorem renames_iff : Renames key active time steps last ↔
    if active.map Path.route = some (FileName.basePath key.directory key.signal time).route then
      steps = 1 ∧ last = time.addMillis 1
    else steps = 0 ∧ last = time := by
  split
  · next ha =>
    constructor
    · rintro (hne | ⟨-, hrest⟩)
      · exact absurd ha hne
      · cases hrest with
        | free _ => exact ⟨rfl, rfl⟩
        | taken ha' _ => exact absurd ha' (Renames.once ha).ne
    · rintro ⟨rfl, rfl⟩
      exact .once ha
  · next hne =>
    constructor
    · rintro (_ | ⟨ha, -⟩)
      · exact ⟨rfl, rfl⟩
      · exact absurd ha hne
    · rintro ⟨rfl, rfl⟩
      exact .free hne

/-- Every search ends, in one way only, after one step at most. -/
theorem exists_renames (key : SlotKey) (active : Option Path) (time : Instant) :
    ∃ steps last, (∀ steps' last', Renames key active time steps' last' ↔
        steps' = steps ∧ last' = last) ∧
      steps ≤ 1 ∧ (last = time ∨ last = time.addMillis 1) := by
  by_cases ha :
    active.map Path.route = some (FileName.basePath key.directory key.signal time).route
  · refine ⟨1, time.addMillis 1, fun _ _ => ?_, Nat.le_refl 1, Or.inr rfl⟩
    rw [renames_iff, if_pos ha]
  · refine ⟨0, time, fun _ _ => ?_, Nat.zero_le 1, Or.inl rfl⟩
    rw [renames_iff, if_neg ha]

/-- Whatever path is active, and whenever the clock is read, the search of a rotation ends after one
step at most, at the instant that was read or a millisecond later. The rotation makes the path of
that instant active and returns it. It is not the path that was active before, in whichever way that
one is written, and if that one was a path of the slot, it leads to another place. -/
theorem rotate_search_ends (key : SlotKey) (s : Store) :
    ∃ steps last path s',
      (∀ steps' last', Renames key (s.rotation.active? key) s.clock.now steps' last' ↔
        steps' = steps ∧ last' = last) ∧
      steps ≤ 1 ∧
      (last = s.clock.now ∨ last = s.clock.now.addMillis 1) ∧
      path = FileName.basePath key.directory key.signal last ∧
      (rotate key).Ends s (.ok path) s' ∧
      s'.rotation.active? key = some path ∧
      (∀ before, s.rotation.active? key = some before → before.route ≠ path.route) ∧
      ∀ directory time, directory.route = key.directory.route →
        s.rotation.active? key = some (FileName.basePath directory key.signal time) →
        (FileName.basePath directory key.signal time).place ≠ path.place := by
  obtain ⟨steps, last, huniq, hsteps, hlast⟩ :=
    exists_renames key (s.rotation.active? key) s.clock.now
  have hsearch := (huniq steps last).2 ⟨rfl, rfl⟩
  have hpath : rotated key s = FileName.basePath key.directory key.signal last :=
    hsearch.freshPath_eq (Nat.le_trans hsteps (by decide))
  have hother : ∀ before, s.rotation.active? key = some before →
      before.route ≠ (rotated key s).route := by
    intro before ha hroute
    refine hsearch.ne ?_
    rw [ha, Option.map_some, hroute, hpath]
  refine ⟨steps, last, rotated key s, afterRotation key s, huniq, hsteps, hlast, hpath,
    ends_rotate_iff.2 ⟨rfl, rfl⟩, ?_, hother, fun directory time hd ha hplace => ?_⟩
  · rw [afterRotation, Rotation.active?_activate, if_pos rfl]
  · rw [hpath] at hplace
    exact hother _ ha (hpath ▸ FileName.route_eq_of_place hd hplace)

/-- In the last millisecond of a leap second the search steps into the next year. -/
example : freshPath ⟨"out", .logs⟩ (some "out/logs.20161231_235960_999.ndjson") freshPathSteps
    ⟨1483228799, 1999500000, by decide, by decide⟩ = "out/logs.20170101_000000_000.ndjson" := by
  decide +kernel

end Store

end TelemetrySpool
