import TelemetrySpool.Bytes

/-!
# Hexadecimal text

Octets as two lowercase digits each. Reading takes digits of either case, an even number of them,
and lets one mark of hexadecimal notation stand in front.
-/

namespace TelemetrySpool.Hex

/-- The lowercase digit of a number below sixteen. -/
def digit (n : Nat) : Char := Nat.digitChar n

/-- The value of a hexadecimal digit of either case. -/
def value? (c : Char) : Option Nat :=
  if '0' ≤ c ∧ c ≤ '9' then some (c.toNat - '0'.toNat)
  else if 'a' ≤ c ∧ c ≤ 'f' then some (c.toNat - 'a'.toNat + 10)
  else if 'A' ≤ c ∧ c ≤ 'F' then some (c.toNat - 'A'.toNat + 10)
  else none

/-- The two digits of an octet, the higher first. -/
def ofByte (b : UInt8) : List Char := [digit (b.toNat / 16), digit (b.toNat % 16)]

/-- Octets in hexadecimal. -/
def encode (bytes : Bytes) : List Char := bytes.flatMap ofByte

/-- Reads pairs of digits. -/
def decodePairs? : List Char → Option Bytes
  | [] => some []
  | [_] => none
  | a :: b :: rest =>
    match value? a, value? b, decodePairs? rest with
    | some hi, some lo, some bytes => some (UInt8.ofNat (16 * hi + lo) :: bytes)
    | _, _, _ => none

/-- Reads hexadecimal text that one mark of notation may precede. -/
def decode? : List Char → Option Bytes
  | '0' :: 'x' :: rest => decodePairs? rest
  | '0' :: 'X' :: rest => decodePairs? rest
  | digits => decodePairs? digits

/-- A digit is read back. -/
theorem value?_digit {n : Nat} (h : n < 16) : value? (digit n) = some n := by
  have all : ∀ m ∈ List.range 16, value? (digit m) = some m := by decide
  exact all n (List.mem_range.2 h)

/-- Octets are read back from their digits. -/
theorem decodePairs?_encode (bytes : Bytes) : decodePairs? (encode bytes) = some bytes := by
  induction bytes with
  | nil => rfl
  | cons b rest ih =>
    have hb := b.toNat_lt
    have hi := value?_digit (n := b.toNat / 16) (by omega)
    have lo := value?_digit (n := b.toNat % 16) (by omega)
    have hs : 16 * (b.toNat / 16) + b.toNat % 16 = b.toNat := by omega
    simp only [encode, List.flatMap_cons, ofByte, List.cons_append, List.nil_append, decodePairs?,
      hi, lo] at ih ⊢
    simp only [ih, hs, UInt8.ofNat_toNat]

end TelemetrySpool.Hex
