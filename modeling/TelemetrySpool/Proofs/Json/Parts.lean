import TelemetrySpool.Json.Basic

/-!
# Parts of JSON values

A part of a value is the value itself or a part of one of its items or members. What holds of every
part is decided from the outside to the inside, and so is the depth of a value.
-/

namespace TelemetrySpool.Json

mutual

/-- A property of the values inside brackets that passes on to the brackets holds of all values. -/
theorem induct {p : Json → Prop}
    (array : ∀ items : List Json, (∀ x ∈ items, p x) → p (.array items))
    (object : ∀ members : List (String × Json), (∀ x ∈ members, p x.2) → p (.object members))
    (leaf : ∀ j : Json, (∀ items, j ≠ .array items) → (∀ members, j ≠ .object members) → p j) :
    ∀ j : Json, p j
  | .array items => array items (inductItems array object leaf items)
  | .object members => object members (inductMembers array object leaf members)
  | .null => leaf _ nofun nofun
  | .bool _ => leaf _ nofun nofun
  | .integer _ => leaf _ nofun nofun
  | .double _ => leaf _ nofun nofun
  | .string _ => leaf _ nofun nofun
  | .unreadable => leaf _ nofun nofun

private theorem inductItems {p : Json → Prop}
    (array : ∀ items : List Json, (∀ x ∈ items, p x) → p (.array items))
    (object : ∀ members : List (String × Json), (∀ x ∈ members, p x.2) → p (.object members))
    (leaf : ∀ j : Json, (∀ items, j ≠ .array items) → (∀ members, j ≠ .object members) → p j) :
    ∀ items : List Json, ∀ x ∈ items, p x
  | [] => nofun
  | item :: rest => List.forall_mem_cons.2
      ⟨induct array object leaf item, inductItems array object leaf rest⟩

private theorem inductMembers {p : Json → Prop}
    (array : ∀ items : List Json, (∀ x ∈ items, p x) → p (.array items))
    (object : ∀ members : List (String × Json), (∀ x ∈ members, p x.2) → p (.object members))
    (leaf : ∀ j : Json, (∀ items, j ≠ .array items) → (∀ members, j ≠ .object members) → p j) :
    ∀ members : List (String × Json), ∀ x ∈ members, p x.2
  | [] => nofun
  | (_, value) :: rest => List.forall_mem_cons.2
      ⟨induct array object leaf value, inductMembers array object leaf rest⟩

end

/-- A value that stands somewhere in another one. -/
inductive Part : Json → Json → Prop
  | self (j : Json) : Part j j
  | item {items : List Json} {x part : Json} : x ∈ items → Part part x → Part part (array items)
  | member {members : List (String × Json)} {x : String × Json} {part : Json} :
    x ∈ members → Part part x.2 → Part part (object members)

/-- Whether all parts of a value have a property. -/
def Every (p : Json → Prop) (j : Json) : Prop := ∀ part, Part part j → p part

variable {p q : Json → Prop}

/-- What holds of every part holds of the whole. -/
theorem Every.self {j : Json} (h : Every p j) : p j := h j (.self j)

/-- What follows for each part follows for every one. -/
theorem Every.mono {j : Json} (h : Every p j) (hpq : ∀ x, p x → q x) : Every q j :=
  fun part hp => hpq part (h part hp)

/-- The parts of an array are itself and those of its items. -/
@[simp] theorem every_array {items : List Json} :
    Every p (array items) ↔ p (array items) ∧ ∀ x ∈ items, Every p x := by
  constructor
  · intro h
    exact ⟨h.self, fun x hx part hp => h part (.item hx hp)⟩
  · rintro ⟨hs, hi⟩ part hp
    cases hp with
    | self => exact hs
    | item hx hp => exact hi _ hx part hp

/-- The parts of an object are itself and those of its members. -/
@[simp] theorem every_object {members : List (String × Json)} :
    Every p (object members) ↔ p (object members) ∧ ∀ x ∈ members, Every p x.2 := by
  constructor
  · intro h
    exact ⟨h.self, fun x hx part hp => h part (.member hx hp)⟩
  · rintro ⟨hs, hm⟩ part hp
    cases hp with
    | self => exact hs
    | member hx hp => exact hm _ hx part hp

/-- A value without brackets has no part but itself. -/
theorem every_leaf {j : Json} (ha : ∀ items, j ≠ array items) (ho : ∀ members, j ≠ object members) :
    Every p j ↔ p j := by
  constructor
  · exact Every.self
  · intro h part hp
    cases hp with
    | self => exact h
    | item => exact absurd rfl (ha _)
    | member => exact absurd rfl (ho _)

@[simp] theorem every_null : Every p null ↔ p null := every_leaf nofun nofun

@[simp] theorem every_bool {b : Bool} : Every p (bool b) ↔ p (bool b) := every_leaf nofun nofun

@[simp] theorem every_integer {n : Int} : Every p (integer n) ↔ p (integer n) :=
  every_leaf nofun nofun

@[simp] theorem every_double {x : Double} : Every p (double x) ↔ p (double x) :=
  every_leaf nofun nofun

@[simp] theorem every_string {text : String} : Every p (string text) ↔ p (string text) :=
  every_leaf nofun nofun

@[simp] theorem every_unreadable : Every p unreadable ↔ p unreadable := every_leaf nofun nofun

mutual

/-- The doubles that stand somewhere in a value. -/
def doubles : Json → List Double
  | double x => [x]
  | array items => doublesOfItems items
  | object members => doublesOfMembers members
  | _ => []

/-- The doubles that stand somewhere in items. -/
def doublesOfItems : List Json → List Double
  | [] => []
  | item :: rest => doubles item ++ doublesOfItems rest

/-- The doubles that stand somewhere in the values of members. -/
def doublesOfMembers : List (String × Json) → List Double
  | [] => []
  | (_, value) :: rest => doubles value ++ doublesOfMembers rest

end

/-- The doubles of items are those of each of them. -/
theorem mem_doublesOfItems {items : List Json} {x : Double} :
    x ∈ doublesOfItems items ↔ ∃ item ∈ items, x ∈ doubles item := by
  induction items with
  | nil => simp [doublesOfItems]
  | cons item rest ih => simp [doublesOfItems, ih]

/-- The doubles of members are those of their values. -/
theorem mem_doublesOfMembers {members : List (String × Json)} {x : Double} :
    x ∈ doublesOfMembers members ↔ ∃ member ∈ members, x ∈ doubles member.2 := by
  induction members with
  | nil => simp [doublesOfMembers]
  | cons member rest ih => simp [doublesOfMembers, ih]

/-- The doubles of a value are its parts that are doubles. -/
theorem mem_doubles {j : Json} {x : Double} : x ∈ doubles j ↔ Part (double x) j := by
  constructor
  · intro h
    induction j using induct with
    | array items ih =>
      obtain ⟨item, hi, hx⟩ := mem_doublesOfItems.1 h
      exact .item hi (ih item hi hx)
    | object members ih =>
      obtain ⟨member, hm, hx⟩ := mem_doublesOfMembers.1 h
      exact .member hm (ih member hm hx)
    | leaf j ha ho =>
      cases j with
      | array items => exact absurd rfl (ha items)
      | object members => exact absurd rfl (ho members)
      | double y =>
        rw [doubles, List.mem_singleton] at h
        rw [h]
        exact .self _
      | _ => cases h
  · intro h
    generalize hp : double x = part at h
    induction h with
    | self j =>
      subst hp
      exact List.mem_singleton_self x
    | item hi _ ih => exact mem_doublesOfItems.2 ⟨_, hi, ih hp⟩
    | member hm _ ih => exact mem_doublesOfMembers.2 ⟨_, hm, ih hp⟩

/-- Items are as deep as the deepest of them. -/
theorem depthItems_le {items : List Json} {n : Nat} :
    depthItems items ≤ n ↔ ∀ x ∈ items, depth x ≤ n := by
  induction items with
  | nil => simp [depthItems]
  | cons item rest ih => rw [depthItems, Nat.max_le, ih, List.forall_mem_cons]

/-- Members are as deep as the deepest value. -/
theorem depthMembers_le {members : List (String × Json)} {n : Nat} :
    depthMembers members ≤ n ↔ ∀ x ∈ members, depth x.2 ≤ n := by
  induction members with
  | nil => simp [depthMembers]
  | cons member rest ih => rw [depthMembers, Nat.max_le, ih, List.forall_mem_cons]

/-- An array opens one bracket around its items. -/
theorem depth_array_le {items : List Json} {n : Nat} :
    depth (array items) ≤ n + 1 ↔ ∀ x ∈ items, depth x ≤ n := by
  simp only [depth, Nat.add_le_add_iff_right, depthItems_le]

/-- An object opens one bracket around its members. -/
theorem depth_object_le {members : List (String × Json)} {n : Nat} :
    depth (object members) ≤ n + 1 ↔ ∀ x ∈ members, depth x.2 ≤ n := by
  simp only [depth, Nat.add_le_add_iff_right, depthMembers_le]

/-- An item is less deep than its array. -/
theorem depth_lt_of_item {items : List Json} {x : Json} (h : x ∈ items) :
    depth x < depth (array items) := by
  have hle : depth (array items) ≤ depthItems items + 1 := Nat.le_refl _
  exact Nat.lt_succ_of_le (depth_array_le.1 hle x h)

/-- A value is less deep than its object. -/
theorem depth_lt_of_member {members : List (String × Json)} {x : String × Json} (h : x ∈ members) :
    depth x.2 < depth (object members) := by
  have hle : depth (object members) ≤ depthMembers members + 1 := Nat.le_refl _
  exact Nat.lt_succ_of_le (depth_object_le.1 hle x h)

/-- A value of which every part is readable is readable. -/
theorem readable_of_every {j : Json} (h : Every (· ≠ unreadable) j) : readable j := by
  induction j using induct with
  | array items ih =>
    have hi : ∀ x ∈ items, readable x := fun x hx => ih x hx ((every_array.1 h).2 x hx)
    clear h ih
    rw [readable]
    induction items with
    | nil => rfl
    | cons item rest ih =>
      rw [List.forall_mem_cons] at hi
      rw [readableItems, hi.1, ih hi.2, Bool.and_self]
  | object members ih =>
    have hm : ∀ x ∈ members, readable x.2 := fun x hx => ih x hx ((every_object.1 h).2 x hx)
    clear h ih
    rw [readable]
    induction members with
    | nil => rfl
    | cons member rest ih =>
      rw [List.forall_mem_cons] at hm
      rw [readableMembers, hm.1, ih hm.2, Bool.and_self]
  | leaf j ha ho =>
    cases j with
    | array items => exact absurd rfl (ha items)
    | object members => exact absurd rfl (ho members)
    | unreadable => exact absurd rfl h.self
    | _ => rfl

end TelemetrySpool.Json
