import TelemetrySpool.Wire.Basic

/-!
# Binary fields read back

A payload that fits into its shape is read back from its octets, whatever follows, and so are a
field with its key, a message that consists of fields, and payloads packed into one. A message is
read one field after the other: what one field takes off the octets decides what the rest of them
gives.
-/

namespace TelemetrySpool.Wire

/-- Whether a payload can be written: groups cannot, and the others have to fit into their shape. -/
def Value.Fits : Value → Prop
  | .varint n => n < wordLimit
  | .fixed64 n => n < wordLimit
  | .fixed32 n => n < UInt32.size
  | .counted bytes => bytes.length < wordLimit
  | .group _ => False

/-- The first number that is none of a field. -/
def numberLimit : Nat := 536870912

theorem takeExactly_append (bytes rest : Bytes) :
    takeExactly bytes.length (bytes ++ rest) = some (bytes, rest) := by
  rw [takeExactly, if_pos (by simp), List.take_left, List.drop_left]

/-- A payload that fits is read back, whatever follows. -/
theorem readPayload_payloadBytes {p : Value} (h : p.Fits) (rest : Bytes) :
    readPayload (shape p) (payloadBytes p ++ rest) = some (p, rest) := by
  cases p with
  | varint n =>
    show (readVarint (varint n ++ rest)).map _ = _
    rw [readVarint_varint h]
    rfl
  | fixed64 n =>
    have htake := takeExactly_append (Bytes.ofNat 8 n) rest
    rw [Bytes.length_ofNat] at htake
    have hnumber : (Bytes.ofNat 8 n).toNat = n :=
      Bytes.toNat_ofNat (Nat.lt_of_lt_of_le h (by decide))
    simp only [readPayload, shape, payloadBytes, htake, Option.map_some, hnumber]
  | fixed32 n =>
    have htake := takeExactly_append (Bytes.ofNat 4 n) rest
    rw [Bytes.length_ofNat] at htake
    have hnumber : (Bytes.ofNat 4 n).toNat = n :=
      Bytes.toNat_ofNat (Nat.lt_of_lt_of_le h (by decide))
    simp only [readPayload, shape, payloadBytes, htake, Option.map_some, hnumber]
  | counted bytes =>
    have hcount := readVarint_varint h (bytes ++ rest)
    simp only [readPayload, shape, payloadBytes, List.append_assoc, hcount, Option.bind_eq_bind,
      Option.bind_some, takeExactly_append]
  | group fields => exact h.elim

/-- The key of a field is read back, whatever follows. -/
theorem readKey_key {number : Nat} (hpos : 0 < number) (hlt : number < numberLimit) (s : Shape)
    (rest : Bytes) : readKey (key number s ++ rest) = some (number, .payload s, rest) := by
  have hcode : s.code < 8 := by cases s <;> decide
  have htag : tag? ((8 * number + s.code) % 8) = some (.payload s) := by
    rw [Nat.mul_add_mod, Nat.mod_eq_of_lt hcode]
    cases s <;> rfl
  unfold numberLimit at hlt
  have hquotient : (8 * number + s.code) / 8 = number := by omega
  have hfits : ¬(4294967296 ≤ 8 * number + s.code ∨ number = 0) := by omega
  have hword : 8 * number + s.code < wordLimit :=
    Nat.lt_of_lt_of_le (Nat.lt_of_not_le fun h => hfits (.inl h)) (by decide)
  simp only [readKey, key, readVarint_varint hword, Option.bind_eq_bind, Option.bind_some, htag,
    hquotient, UInt32.size, if_neg hfits]

theorem varint_ne_nil (n : Nat) : varint n ≠ [] := by
  show varintWithin 9 n ≠ []
  rw [varintWithin]
  split <;> exact List.cons_ne_nil _ _

theorem field_ne_nil (number : Nat) (p : Value) : field number p ≠ [] := fun h =>
  varint_ne_nil _ (List.append_eq_nil_iff.1 h).1

/-- Counted octets are no longer than the field that holds them. -/
theorem length_le_field_counted (number : Nat) (bytes : Bytes) :
    bytes.length ≤ (field number (.counted bytes)).length := by
  rw [field, payloadBytes, List.length_append, List.length_append]
  omega

/-- A payload that fits has at least one octet. -/
theorem payloadBytes_ne_nil {p : Value} (h : p.Fits) : payloadBytes p ≠ [] := by
  cases p with
  | varint n => exact varint_ne_nil n
  | fixed64 n => exact List.cons_ne_nil _ _
  | fixed32 n => exact List.cons_ne_nil _ _
  | counted bytes => exact fun h => varint_ne_nil _ (List.append_eq_nil_iff.1 h).1
  | group fields => exact h.elim

/-- Pieces that are not empty are no more than what they hold together. -/
theorem length_le_length_flatMap {α : Type} {f : α → Bytes} {l : List α}
    (h : ∀ a ∈ l, f a ≠ []) : l.length ≤ (l.flatMap f).length := by
  induction l with
  | nil => exact Nat.le_refl 0
  | cons a rest ih =>
    rw [List.forall_mem_cons] at h
    have hpos := List.length_pos_iff.2 h.1
    have hrest := ih h.2
    rw [List.flatMap_cons, List.length_append, List.length_cons]
    omega

/-- Each piece is no longer than all of them together. -/
theorem length_le_of_mem {α : Type} {f : α → Bytes} {l : List α} {a : α} (ha : a ∈ l) :
    (f a).length ≤ (l.flatMap f).length := by
  obtain ⟨before, after, rfl⟩ := List.append_of_mem ha
  rw [List.flatMap_append, List.flatMap_cons, List.length_append, List.length_append]
  omega

/-- Whether a numbered payload can be written as a field. -/
def Writable (entry : Nat × Value) : Prop :=
  0 < entry.1 ∧ entry.1 < numberLimit ∧ entry.2.Fits

/-- Reading a field takes its octets off and remembers its payload. -/
theorem readFieldsFrom_field {entry : Nat × Value} (h : Writable entry) (fuel : Nat)
    (read : List (Nat × Value)) (rest : Bytes) :
    readFieldsFrom (fuel + 1) none read (field entry.1 entry.2 ++ rest) =
      readFieldsFrom fuel none (entry :: read) rest := by
  obtain ⟨hpos, hlt, hfits⟩ := h
  have hkey := readKey_key hpos hlt (shape entry.2) (payloadBytes entry.2 ++ rest)
  rw [← List.append_assoc] at hkey
  have hne : key entry.1 (shape entry.2) ++ payloadBytes entry.2 ++ rest ≠ [] := fun h =>
    field_ne_nil entry.1 entry.2 (List.append_eq_nil_iff.1 h).1
  rw [field, readFieldsFrom.eq_4 _ _ _ _ (fun _ => hne) (fun _ _ => hne), hkey]
  simp only [readPayload_payloadBytes hfits]

theorem readFieldsFrom_flatMap {entries : List (Nat × Value)} (h : ∀ e ∈ entries, Writable e)
    {fuel : Nat} (hfuel : entries.length < fuel) (read : List (Nat × Value)) :
    readFieldsFrom fuel none read (entries.flatMap fun e => field e.1 e.2) =
      some (read.reverse ++ entries, []) := by
  induction entries generalizing fuel read with
  | nil =>
    obtain ⟨fuel, rfl⟩ := Nat.exists_eq_add_of_lt hfuel
    simp [readFieldsFrom]
  | cons e rest ih =>
    rw [List.forall_mem_cons] at h
    obtain ⟨fuel, rfl⟩ := Nat.exists_eq_add_of_le' (Nat.lt_of_le_of_lt (Nat.zero_le _) hfuel)
    rw [List.flatMap_cons, readFieldsFrom_field h.1, ih h.2 (Nat.lt_of_succ_lt_succ hfuel)]
    simp

/-- A message is read back as its fields. -/
theorem readFields_flatMap {entries : List (Nat × Value)} (h : ∀ e ∈ entries, Writable e) :
    readFields (entries.flatMap fun e => field e.1 e.2) = some entries := by
  have hlength := length_le_length_flatMap (f := fun e : Nat × Value => field e.1 e.2)
    (l := entries) fun e _ => field_ne_nil e.1 e.2
  rw [readFields, readFieldsFrom_flatMap h (Nat.lt_succ_of_le hlength)]
  rfl

theorem readPacked_flatMap {s : Shape} {values : List Value}
    (h : ∀ p ∈ values, p.Fits ∧ shape p = s) {fuel : Nat} (hfuel : values.length ≤ fuel)
    (read : List Value) :
    readPacked s fuel read (values.flatMap payloadBytes) = some (read.reverse ++ values) := by
  induction values generalizing fuel read with
  | nil => simp [readPacked]
  | cons p rest ih =>
    rw [List.forall_mem_cons] at h
    obtain ⟨⟨hfits, hshape⟩, hrest⟩ := h
    obtain ⟨fuel, rfl⟩ := Nat.exists_eq_add_of_le' (Nat.lt_of_lt_of_le (Nat.succ_pos _) hfuel)
    have hne : payloadBytes p ++ rest.flatMap payloadBytes ≠ [] := fun h =>
      payloadBytes_ne_nil hfits (List.append_eq_nil_iff.1 h).1
    have hread := readPayload_payloadBytes hfits (rest.flatMap payloadBytes)
    rw [hshape] at hread
    rw [List.flatMap_cons, readPacked.eq_3 _ _ _ _ hne, hread]
    simp [ih hrest (Nat.le_of_succ_le_succ hfuel)]

/-- Packed payloads of one shape are read back. -/
theorem readPacked_payloads {s : Shape} {values : List Value}
    (h : ∀ p ∈ values, p.Fits ∧ shape p = s) :
    readPacked s (values.flatMap payloadBytes).length [] (values.flatMap payloadBytes) =
      some values :=
  readPacked_flatMap h (length_le_length_flatMap fun p hp => payloadBytes_ne_nil (h p hp).1) []

end TelemetrySpool.Wire
