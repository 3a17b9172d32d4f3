import TelemetrySpool.Proofs.Json.Regular
import TelemetrySpool.Schema.Format

/-!
# Laws of formats

A lawful format reads back what it writes, unless the value holds an attribute value of no kind or
nests too deeply, and what it reads can be written: the doubles are finite, every attribute value
has a kind, and no more brackets are opened than before. Only the initial values that stand for
missing fields can open brackets of their own; `slack` bounds how many. The laws of formats that are
made from others follow from the laws of these.
-/

namespace TelemetrySpool

namespace Json

/-- What holds of every part of a value that a message writes. -/
def Written : Json → Prop
  | integer n => IsWord n
  | unreadable => False
  | _ => True

/-- Whether a value is not the form of an attribute value of no kind. -/
def HasKind : Json → Prop
  | object members => members ≠ []
  | _ => True

/-- Whether a value is no infinity. -/
def FiniteDouble : Json → Prop
  | double x => x.isFinite
  | _ => True

/-- What holds of every part of a value that a message was read from. -/
def Sound (j : Json) : Prop := HasKind j ∧ FiniteDouble j

/-- A sound value that opens `bound` brackets at most. -/
def Settled (bound : Nat) (j : Json) : Prop := Every Sound j ∧ depth j ≤ bound

/-- A value that settles within some levels does so within more. -/
theorem Settled.mono {m n : Nat} {j : Json} (h : Settled m j) (hmn : m ≤ n) : Settled n j :=
  ⟨h.1, Nat.le_trans h.2 hmn⟩

end Json

open Json (Every Written HasKind Regular Sound Settled depth)

variable {τ : Type} {levels slack : Nat}

/-- How the values of a scalar are written and read. -/
structure Scalar.Lawful (s : Scalar τ) : Prop where
  depth_eq : ∀ v, depth (s.toJson v) = 0
  written : ∀ v, Every Written (s.toJson v)
  ne_null : ∀ v, s.toJson v ≠ .null
  readBack : ∀ v, s.ofJson? (s.toJson v) = some v
  sound : ∀ {j v}, Regular j → s.ofJson? j = some v → Every Sound (s.toJson v)
  initial : Every Sound (s.toJson s.initial)

namespace Format

/-- How the values of a format are written and read. -/
structure Lawful (f : Format τ) (levels slack : Nat) : Prop where
  written : ∀ v, Every Written (f.toJson v)
  ne_null : f.optional = false → ∀ v, f.toJson v ≠ .null
  readBack : ∀ v, Every HasKind (f.toJson v) → depth (f.toJson v) ≤ levels →
    f.ofJson? (f.toJson v) = some v
  settled : ∀ {j v}, Every Regular j → f.ofJson? j = some v →
    Settled (max (depth j) slack) (f.toJson v)

/-- What stands for a missing field opens one bracket at most, and none if it may be missing. -/
structure Starts (f : Format τ) : Prop where
  sound : Every Sound (f.toJson f.initial)
  depth_le : depth (f.toJson f.initial) ≤ 1
  depth_eq : f.optional = true → depth (f.toJson f.initial) = 0

/-- A lawful scalar is read back. -/
theorem scalar_lawful {s : Scalar τ} (h : s.Lawful) : (scalar s).Lawful levels 0 where
  written := h.written
  ne_null := fun _ => h.ne_null
  readBack := fun v _ _ => h.readBack v
  settled := fun {_ v} hj hv =>
    ⟨h.sound hj.self hv, Nat.le_trans (Nat.le_of_eq (h.depth_eq v)) (Nat.zero_le _)⟩

theorem scalar_starts {s : Scalar τ} (h : s.Lawful) : (scalar s).Starts where
  sound := h.initial
  depth_le := Nat.le_trans (Nat.le_of_eq (h.depth_eq _)) (Nat.zero_le _)
  depth_eq := fun _ => h.depth_eq _

/-- Only null stands for an absent value. -/
theorem option_ofJson?_of_ne {f : Format τ} {j : Json} (h : j ≠ .null) :
    f.option.ofJson? j = (f.ofJson? j).map some := by
  cases j with
  | null => exact absurd rfl h
  | _ => rfl

/-- An optional value is read back, present or absent. -/
theorem option_lawful {f : Format τ} (ho : f.optional = false) (h : f.Lawful levels slack) :
    f.option.Lawful levels slack where
  written := by
    intro v
    cases v with
    | none => exact Json.every_null.2 trivial
    | some v => exact h.written v
  ne_null := nofun
  readBack := by
    intro v hk hd
    cases v with
    | none => rfl
    | some v =>
      have hn : f.option.toJson (some v) ≠ .null := h.ne_null ho v
      rw [option_ofJson?_of_ne hn]
      show (f.ofJson? (f.toJson v)).map some = some (some v)
      rw [h.readBack v hk hd]
      rfl
  settled := by
    intro j v hj hv
    by_cases hn : j = .null
    · subst hn
      cases hv
      exact ⟨Json.every_null.2 ⟨trivial, trivial⟩, Nat.zero_le _⟩
    · rw [option_ofJson?_of_ne hn, Option.map_eq_some_iff] at hv
      obtain ⟨w, hw, rfl⟩ := hv
      exact h.settled hj hw

theorem option_starts {f : Format τ} : f.option.Starts where
  sound := Json.every_null.2 ⟨trivial, trivial⟩
  depth_le := Nat.zero_le _
  depth_eq := fun _ => rfl

/-- An array of values that are read back is read back. -/
theorem items?_map {toJson : τ → Json} {item? : Json → Option τ} {values : List τ}
    (h : ∀ v ∈ values, item? (toJson v) = some v) :
    items? item? (.array (values.map toJson)) = some values := by
  rw [items?]
  induction values with
  | nil => rfl
  | cons v rest ih =>
    rw [List.forall_mem_cons] at h
    rw [List.map_cons, List.mapM_cons, h.1, ih h.2]
    rfl

/-- A list is read from an array, one value from each item. -/
theorem forall₂_of_items? {item? : Json → Option τ} {j : Json} {values : List τ}
    (h : items? item? j = some values) :
    ∃ items, j = .array items ∧ List.Forall₂ (fun x v => item? x = some v) items values := by
  cases j with
  | array items =>
    refine ⟨items, rfl, ?_⟩
    rw [items?] at h
    induction items generalizing values with
    | nil =>
      cases h
      exact .nil
    | cons x rest ih =>
      rw [List.mapM_cons] at h
      obtain ⟨v, hv, h⟩ := Option.bind_eq_some_iff.1 h
      obtain ⟨vs, hvs, h⟩ := Option.bind_eq_some_iff.1 h
      cases h
      exact .cons hv (ih hvs)
  | _ => cases h

/-- Every value of a list was read from an item of an array. -/
theorem exists_of_items? {item? : Json → Option τ} {j : Json} {values : List τ}
    (h : items? item? j = some values) :
    ∃ items, j = .array items ∧ ∀ v ∈ values, ∃ x ∈ items, item? x = some v := by
  obtain ⟨items, rfl, hall⟩ := forall₂_of_items? h
  refine ⟨items, rfl, ?_⟩
  clear h
  induction hall with
  | nil => exact List.forall_mem_nil _
  | cons hx _ ih =>
    refine List.forall_mem_cons.2 ⟨⟨_, List.mem_cons_self, hx⟩, fun v hv => ?_⟩
    obtain ⟨x, hmem, hxv⟩ := ih v hv
    exact ⟨x, List.mem_cons_of_mem _ hmem, hxv⟩

/-- Values that are written in brackets open one bracket more. -/
theorem settled_array {toJson : τ → Json} {item? : Json → Option τ} {slack slack' : Nat}
    (hs : slack = 0 ∨ slack < slack')
    (h : ∀ {j v}, Every Regular j → item? j = some v → Settled (max (depth j) slack) (toJson v))
    {j : Json} {values : List τ} (hj : Every Regular j) (hv : items? item? j = some values) :
    Settled (max (depth j) slack') (.array (values.map toJson)) := by
  obtain ⟨items, rfl, hread⟩ := exists_of_items? hv
  have hitem : ∀ x ∈ values.map toJson, Every Sound x ∧
      depth x < max (depth (.array items)) slack' := by
    intro x hx
    obtain ⟨v, hv, rfl⟩ := List.mem_map.1 hx
    obtain ⟨y, hy, hyv⟩ := hread v hv
    have hsettled := h ((Json.every_array.1 hj).2 y hy) hyv
    have hlt := Json.depth_lt_of_item hy
    have hle := hsettled.2
    refine ⟨hsettled.1, ?_⟩
    rcases hs with rfl | hs
    · omega
    · omega
  refine ⟨Json.every_array.2 ⟨⟨trivial, trivial⟩, fun x hx => (hitem x hx).1⟩, ?_⟩
  have hpos : 0 < max (depth (.array items)) slack' :=
    Nat.lt_of_lt_of_le (Nat.succ_pos _) (Nat.le_max_left (depth (.array items)) slack')
  obtain ⟨bound, hb⟩ := Nat.exists_eq_add_of_lt hpos
  rw [Nat.zero_add] at hb
  rw [hb] at hitem ⊢
  exact Json.depth_array_le.2 fun x hx => Nat.le_of_lt_succ (hitem x hx).2

/-- An array is written if its items are. -/
theorem written_array {toJson : τ → Json} (h : ∀ v, Every Written (toJson v)) (values : List τ) :
    Every Written (.array (values.map toJson)) := by
  refine Json.every_array.2 ⟨trivial, fun x hx => ?_⟩
  obtain ⟨v, _, rfl⟩ := List.mem_map.1 hx
  exact h v

/-- A list is read back value by value. -/
theorem list_lawful {f : Format τ} {slack' : Nat} (h : f.Lawful levels slack)
    (hs : slack = 0 ∨ slack < slack') : f.list.Lawful levels slack' where
  written := written_array h.written
  ne_null := nofun
  readBack := by
    intro values hk hd
    refine items?_map fun v hv => ?_
    have hm := List.mem_map_of_mem (f := f.toJson) hv
    refine h.readBack v ((Json.every_array.1 hk).2 _ hm) ?_
    exact Nat.le_of_lt (Nat.lt_of_lt_of_le (Json.depth_lt_of_item hm) hd)
  settled := settled_array hs h.settled

theorem list_starts {f : Format τ} : f.list.Starts where
  sound := Json.every_array.2 ⟨⟨trivial, trivial⟩, nofun⟩
  depth_le := Nat.le_refl _
  depth_eq := nofun

/-- So are packed scalars. -/
theorem packed_lawful {s : Scalar τ} (h : s.Lawful) : (packed s).Lawful levels 0 where
  written := written_array h.written
  ne_null := nofun
  readBack := fun _ _ _ => items?_map fun v _ => h.readBack v
  settled := settled_array (.inl rfl) (scalar_lawful h : (scalar s).Lawful levels 0).settled

theorem packed_starts {s : Scalar τ} : (packed s).Starts where
  sound := Json.every_array.2 ⟨⟨trivial, trivial⟩, nofun⟩
  depth_le := Nat.le_refl _
  depth_eq := nofun

end Format

end TelemetrySpool
