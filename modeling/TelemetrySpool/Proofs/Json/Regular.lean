import TelemetrySpool.Proofs.Json.Numeral
import TelemetrySpool.Proofs.Json.Parts
import TelemetrySpool.Proofs.Number.Rounding

/-!
# What the reader makes of any document

Whatever a document says, the value read from it opens no more brackets than allowed, its whole
numbers have sixty-four bits and its doubles are finite. The proof goes with the fuel, since each
of the three readers calls the others with less of it.
-/

namespace TelemetrySpool.Json

/-- What holds of every part of a value that was read. -/
def Regular : Json → Prop
  | integer n => IsWord n
  | double x => x.isFinite
  | _ => True

/-- Values that may stand where `room` brackets can still be opened. -/
def Fits (room : Nat) (j : Json) : Prop := depth j ≤ room ∧ Every Regular j

theorem fits_unreadable (room : Nat) : Fits room unreadable :=
  ⟨Nat.zero_le _, every_unreadable.2 trivial⟩

/-- A numeral is an integer only within a word. -/
theorem integer?_isWord {n : Numeral} {value : Int} (h : n.integer? = some value) :
    IsWord value := by
  have hl : Numeral.limit = 18446744073709551616 := rfl
  rw [Numeral.integer?, hl] at h
  split at h
  · cases h
  · simp only at h
    split at h
    · split at h
      · next hv =>
        cases h
        constructor
        · omega
        · omega
      · cases h
    · split at h
      · next hv =>
        cases h
        constructor
        · omega
        · omega
      · cases h

/-- Every numeral fits, whatever room is left. -/
theorem fits_numeral (n : Numeral) (room : Nat) : Fits room n.toJson := by
  rw [Numeral.toJson]
  split
  · next value h => exact ⟨Nat.zero_le _, every_integer.2 (integer?_isWord h)⟩
  · split
    · next x h =>
      have hx := Numeral.magnitude?_isFinite h
      refine ⟨Nat.zero_le _, every_double.2 ?_⟩
      show (if n.negative then x.negate else x).isFinite
      split
      · rwa [Double.negate_isFinite]
      · exact hx
    · exact fits_unreadable room

/-- An array takes one level from the room of its items. -/
theorem fits_array {items : List Json} {room : Nat} (h : ∀ x ∈ items, Fits (room - 1) x) :
    Fits room (within room (array items)) := by
  cases room with
  | zero => exact fits_unreadable 0
  | succ room =>
    refine ⟨depth_array_le.2 fun x hx => (h x hx).1, ?_⟩
    exact every_array.2 ⟨trivial, fun x hx => (h x hx).2⟩

/-- An object takes one from that of its values. -/
theorem fits_object {members : List (String × Json)} {room : Nat}
    (h : ∀ x ∈ members, Fits (room - 1) x.2) : Fits room (within room (object members)) := by
  cases room with
  | zero => exact fits_unreadable 0
  | succ room =>
    refine ⟨depth_object_le.2 fun x hx => (h x hx).1, ?_⟩
    exact every_object.2 ⟨trivial, fun x hx => (h x hx).2⟩

theorem fits_ofMembers {members : Option (List (String × Json))} {room : Nat}
    (h : ∀ l ∈ members, ∀ x ∈ l, Fits (room - 1) x.2) :
    Fits room (within room (ofMembers members)) := by
  cases members with
  | none =>
    have hu : within room (ofMembers none) = unreadable := by cases room <;> rfl
    rw [hu]
    exact fits_unreadable room
  | some l =>
    exact fits_object fun x hx => h l rfl x (List.mem_reverse.1 hx)

/-- What the three readers make of any octets with some fuel. -/
structure Bounded (fuel : Nat) : Prop where
  value : ∀ {room bytes j rest}, value fuel room bytes = some (j, rest) → Fits room j
  items : ∀ {room read bytes found rest}, (∀ x ∈ read, Fits room x) →
    itemsFrom fuel room read bytes = some (found, rest) → ∀ x ∈ found, Fits room x
  members : ∀ {room} {read : Option (List (String × Json))} {bytes found rest},
    (∀ l ∈ read, ∀ x ∈ l, Fits room x.2) →
    membersFrom fuel room read bytes = some (found, rest) → ∀ l ∈ found, ∀ x ∈ l, Fits room x.2

theorem Bounded.value_succ {fuel room : Nat} (h : Bounded fuel) {bytes rest : Bytes} {j : Json}
    (hv : Json.value (fuel + 1) room bytes = some (j, rest)) : Fits room j := by
  rw [Json.value] at hv
  split at hv
  · cases hv
  · next b tail hs =>
    split at hv
    · obtain ⟨⟨pieces, r⟩, hl, he⟩ := Option.bind_eq_some_iff.1 hv
      cases he
      cases spelled? pieces with
      | none => exact fits_unreadable room
      | some text => exact ⟨Nat.zero_le _, every_string.2 trivial⟩
    split at hv
    · split at hv
      · cases hv
        exact fits_array (List.forall_mem_nil _)
      · obtain ⟨⟨found, r⟩, hi, he⟩ := Option.bind_eq_some_iff.1 hv
        cases he
        have hfound := h.items (List.forall_mem_nil _) hi
        exact fits_array fun x hx => hfound x (List.mem_reverse.1 hx)
    split at hv
    · split at hv
      · cases hv
        exact fits_object (List.forall_mem_nil _)
      · obtain ⟨⟨found, r⟩, hm, he⟩ := Option.bind_eq_some_iff.1 hv
        cases he
        exact fits_ofMembers (h.members (by simp) hm)
    split at hv
    · obtain ⟨r, _, he⟩ := Option.map_eq_some_iff.1 hv
      cases he
      exact ⟨Nat.zero_le _, every_bool.2 trivial⟩
    split at hv
    · obtain ⟨r, _, he⟩ := Option.map_eq_some_iff.1 hv
      cases he
      exact ⟨Nat.zero_le _, every_bool.2 trivial⟩
    split at hv
    · obtain ⟨r, _, he⟩ := Option.map_eq_some_iff.1 hv
      cases he
      exact ⟨Nat.zero_le _, every_null.2 trivial⟩
    split at hv
    · obtain ⟨⟨n, r⟩, _, he⟩ := Option.map_eq_some_iff.1 hv
      cases he
      exact fits_numeral n room
    · obtain ⟨⟨n, r⟩, _, he⟩ := Option.map_eq_some_iff.1 hv
      cases he
      exact fits_numeral n room

theorem Bounded.items_succ {fuel room : Nat} (h : Bounded fuel) {read found : List Json}
    {bytes rest : Bytes} (hread : ∀ x ∈ read, Fits room x)
    (hi : itemsFrom (fuel + 1) room read bytes = some (found, rest)) :
    ∀ x ∈ found, Fits room x := by
  rw [itemsFrom] at hi
  split at hi
  · cases hi
  · next item r hv =>
    have hnext : ∀ x ∈ item :: read, Fits room x := List.forall_mem_cons.2 ⟨h.value hv, hread⟩
    split at hi
    · exact h.items hnext hi
    · cases hi
      exact hnext
    · cases hi

/-- A separator or the closing bracket leaves the members that have been read as they are. -/
theorem Bounded.members_next {fuel room : Nat} (h : Bounded fuel)
    {read found : Option (List (String × Json))} {bytes rest : Bytes}
    (hread : ∀ l ∈ read, ∀ x ∈ l, Fits room x.2)
    (hm : (match skipSpace bytes with
      | 0x2c :: rest => membersFrom fuel room read rest
      | 0x7d :: rest => some (read, rest)
      | _ => none) = some (found, rest)) : ∀ l ∈ found, ∀ x ∈ l, Fits room x.2 := by
  split at hm
  · exact h.members hread hm
  · cases hm
    exact hread
  · cases hm

theorem Bounded.members_succ {fuel room : Nat} (h : Bounded fuel)
    {read found : Option (List (String × Json))} {bytes rest : Bytes}
    (hread : ∀ l ∈ read, ∀ x ∈ l, Fits room x.2)
    (hm : membersFrom (fuel + 1) room read bytes = some (found, rest)) :
    ∀ l ∈ found, ∀ x ∈ l, Fits room x.2 := by
  rw [membersFrom] at hm
  split at hm
  · cases hm
  · next name r hk =>
    split at hm
    · cases hm
    · next item r' hv =>
      -- A name or a member that was unreadable before makes the whole object unreadable.
      cases read with
      | none => exact h.members_next (by simp) hm
      | some members =>
        cases name with
        | none => exact h.members_next (by simp) hm
        | some name =>
          refine h.members_next ?_ hm
          intro l hl
          cases hl
          exact List.forall_mem_cons.2 ⟨h.value hv, hread members rfl⟩

/-- Whatever is read fits the room that it was read in. -/
theorem bounded (fuel : Nat) : Bounded fuel := by
  induction fuel with
  | zero =>
    constructor
    · intro room bytes j rest h
      cases h
    · intro room read bytes found rest _ h
      cases h
    · intro room read bytes found rest _ h
      cases h
  | succ fuel ih => exact ⟨ih.value_succ, ih.items_succ, ih.members_succ⟩

/-- A document is read as a value of bounded depth with words and finite doubles. -/
theorem fits_of_parse? {bytes : Bytes} {j : Json} (h : parse? bytes = some j) :
    Fits maxDepth j := by
  rw [parse?] at h
  split at h
  · next v r hv =>
    split at h
    · cases h
      exact (bounded _).value hv
    · cases h
  · cases h

end TelemetrySpool.Json
