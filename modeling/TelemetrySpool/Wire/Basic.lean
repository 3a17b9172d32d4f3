import TelemetrySpool.Bytes

/-!
# Tagged binary fields

A binary message is a list of numbered fields. The key of a field is a variable-length integer that
holds its number and the shape of its payload: a variable-length integer, four or eight octets, a
counted string of octets, or a group of fields between two keys. A message is read into all its
fields first; what they mean is decided later, by number.
-/

namespace TelemetrySpool.Wire

/-- The payload of a field. -/
inductive Value where
  /-- A number below `2 ^ 64`, in as many octets as it needs. -/
  | varint (n : Nat)
  /-- Eight octets. -/
  | fixed64 (n : Nat)
  /-- Octets behind their count. -/
  | counted (bytes : Bytes)
  /-- Fields between an opening and a closing key. -/
  | group (fields : List (Nat × Value))
  /-- Four octets. -/
  | fixed32 (n : Nat)

/-- The shape of a payload that needs no closing key. -/
inductive Shape where
  | varint
  | fixed64
  | counted
  | fixed32
  deriving DecidableEq, Repr

/-- The number of a shape in a key. -/
def Shape.code : Shape → Nat
  | varint => 0
  | fixed64 => 1
  | counted => 2
  | fixed32 => 5

/-- The first number that needs more than sixty-four bits. -/
def wordLimit : Nat := UInt64.size

/-- The most octets of a variable-length integer. -/
def maxVarintBytes : Nat := 10

/-- A number in at most `budget + 1` groups of seven bits, the lowest first. -/
def varintWithin : (budget : Nat) → Nat → Bytes
  | 0, n => [UInt8.ofNat n]
  | budget + 1, n =>
    if n < 128 then [UInt8.ofNat n]
    else UInt8.ofNat (n % 128 + 128) :: varintWithin budget (n / 128)

/-- A number of sixty-four bits as a variable-length integer: all octets but the last set a high
bit. -/
def varint (n : Nat) : Bytes := varintWithin (maxVarintBytes - 1) n

/-- Reads a variable-length integer of at most `budget` octets. -/
def readVarintWithin : (budget : Nat) → Bytes → Option (Nat × Bytes)
  | 0, _ => none
  | _, [] => none
  | budget + 1, b :: rest =>
    if b.toNat < 128 then some (b.toNat, rest)
    else
      match readVarintWithin budget rest with
      | some (high, rest) => some (b.toNat - 128 + 128 * high, rest)
      | none => none

/-- Reads a variable-length integer that fits into sixty-four bits. -/
def readVarint (bytes : Bytes) : Option (Nat × Bytes) :=
  match readVarintWithin maxVarintBytes bytes with
  | some (n, rest) => if n < wordLimit then some (n, rest) else none
  | none => none

/-- A number that fits is read back from its groups, whatever follows. -/
theorem readVarintWithin_varintWithin (budget : Nat) {n : Nat} (h : n < Nat.pow 128 (budget + 1))
    (rest : Bytes) :
    readVarintWithin (budget + 1) (varintWithin budget n ++ rest) = some (n, rest) := by
  induction budget generalizing n with
  | zero =>
    have hn : n < 128 := h
    have hb : (UInt8.ofNat n).toNat = n := by simp; omega
    simp [varintWithin, readVarintWithin, hn, hb]
  | succ budget ih =>
    by_cases hn : n < 128
    · have hb : (UInt8.ofNat n).toNat = n := by simp; omega
      simp [varintWithin, readVarintWithin, hn, hb]
    · have hq : n / 128 < Nat.pow 128 (budget + 1) := (Nat.div_lt_iff_lt_mul (by decide)).2 h
      have hb : (UInt8.ofNat (n % 128 + 128)).toNat = n % 128 + 128 := by simp; omega
      have hs : 128 ≤ n % 128 + 128 := by omega
      have ht : n % 128 + 128 - 128 + 128 * (n / 128) = n := by omega
      simp only [varintWithin, hn, if_false, List.cons_append, readVarintWithin, hb,
        Nat.not_lt.2 hs, ih hq, ht]

/-- A number of sixty-four bits is read back, whatever follows. -/
theorem readVarint_varint {n : Nat} (h : n < wordLimit) (rest : Bytes) :
    readVarint (varint n ++ rest) = some (n, rest) := by
  have hn : n < Nat.pow 128 (9 + 1) := Nat.lt_of_lt_of_le h (by decide)
  have := readVarintWithin_varintWithin 9 hn rest
  simp only [readVarint, varint, maxVarintBytes] at this ⊢
  simp [this, h]

/-- The first `count` octets and the rest, if there are that many. -/
def takeExactly (count : Nat) (bytes : Bytes) : Option (Bytes × Bytes) :=
  if count ≤ bytes.length then some (bytes.take count, bytes.drop count) else none

/-- Reads a payload of a known shape. -/
def readPayload (shape : Shape) (bytes : Bytes) : Option (Value × Bytes) :=
  match shape with
  | .varint => (readVarint bytes).map fun (n, rest) => (.varint n, rest)
  | .fixed64 => (takeExactly 8 bytes).map fun (octets, rest) => (.fixed64 octets.toNat, rest)
  | .fixed32 => (takeExactly 4 bytes).map fun (octets, rest) => (.fixed32 octets.toNat, rest)
  | .counted => do
    let (count, rest) ← readVarint bytes
    let (octets, rest) ← takeExactly count rest
    some (.counted octets, rest)

/-- What the key of a field says about the payload. -/
inductive Tag where
  | payload (shape : Shape)
  | openGroup
  | closeGroup
  deriving DecidableEq, Repr

/-- The tag of a number in a key. -/
def tag? : Nat → Option Tag
  | 0 => some (.payload .varint)
  | 1 => some (.payload .fixed64)
  | 2 => some (.payload .counted)
  | 3 => some .openGroup
  | 4 => some .closeGroup
  | 5 => some (.payload .fixed32)
  | _ => none

/-- Reads the number and the tag of a field; numbers start at 1 and keys fit into 32 bits. -/
def readKey (bytes : Bytes) : Option (Nat × Tag × Bytes) := do
  let (key, rest) ← readVarint bytes
  let tag ← tag? (key % 8)
  if UInt32.size ≤ key ∨ key / 8 = 0 then none else some (key / 8, tag, rest)

/--
Reads fields up to the closing key of the group they are in, or up to the end outside of groups;
`read` holds those so far, the last one first.
-/
def readFieldsFrom : (fuel : Nat) → (group : Option Nat) → (read : List (Nat × Value)) → Bytes →
    Option (List (Nat × Value) × Bytes)
  | 0, _, _, _ => none
  | _ + 1, none, read, [] => some (read.reverse, [])
  | _ + 1, some _, _, [] => none
  | fuel + 1, group, read, bytes =>
    match readKey bytes with
    | none => none
    | some (number, .closeGroup, rest) =>
      if group = some number then some (read.reverse, rest) else none
    | some (number, .openGroup, rest) =>
      match readFieldsFrom fuel (some number) [] rest with
      | some (fields, rest) => readFieldsFrom fuel group ((number, .group fields) :: read) rest
      | none => none
    | some (number, .payload shape, rest) =>
      match readPayload shape rest with
      | some (payload, rest) => readFieldsFrom fuel group ((number, payload) :: read) rest
      | none => none

/-- Reads all fields of a message. -/
def readFields (bytes : Bytes) : Option (List (Nat × Value)) :=
  (readFieldsFrom (bytes.length + 1) none [] bytes).map Prod.fst

/-- Reads payloads of one shape that stand one after the other. -/
def readPacked (shape : Shape) : (fuel : Nat) → (read : List Value) → Bytes → Option (List Value)
  | _, read, [] => some read.reverse
  | 0, _, _ => none
  | fuel + 1, read, bytes =>
    match readPayload shape bytes with
    | some (payload, rest) => readPacked shape fuel (payload :: read) rest
    | none => none

mutual

/-- Whether a field that is not known may be skipped where `depth` levels may still be entered. -/
def Value.skippable (depth : Nat) : Value → Bool
  | .group fields =>
    match depth with
    | 0 => false
    | depth + 1 => fieldsSkippable depth fields
  | _ => 0 < depth

/-- Whether all fields of a group may be skipped. -/
def fieldsSkippable (depth : Nat) : List (Nat × Value) → Bool
  | [] => true
  | (_, value) :: rest => value.skippable depth && fieldsSkippable depth rest

end

/-- The key of a field. -/
def key (number : Nat) (shape : Shape) : Bytes := varint (8 * number + shape.code)

/-- A payload without its key; groups are never written. -/
def payloadBytes : Value → Bytes
  | .varint n => varint n
  | .fixed64 n => Bytes.ofNat 8 n
  | .fixed32 n => Bytes.ofNat 4 n
  | .counted bytes => varint bytes.length ++ bytes
  | .group _ => []

/-- The shape of a payload; groups are never written. -/
def shape : Value → Shape
  | .varint _ => .varint
  | .fixed64 _ => .fixed64
  | .fixed32 _ => .fixed32
  | .counted _ => .counted
  | .group _ => .counted

/-- A field with its key. -/
def field (number : Nat) (value : Value) : Bytes := key number (shape value) ++ payloadBytes value

end TelemetrySpool.Wire
