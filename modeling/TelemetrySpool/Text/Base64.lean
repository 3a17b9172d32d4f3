import TelemetrySpool.Bytes

/-!
# Base64 text

Three octets are written as four digits of the standard alphabet, and a shorter end is filled up
with padding. Reading takes canonical text only: the padding has to be there, and the bits that no
octet uses have to be zero.
-/

namespace TelemetrySpool.Base64

/-- The digits in the order of their values. -/
def alphabet : List Char :=
  "ABCDEFGHIJKLMNOPQRSTUVWXYZabcdefghijklmnopqrstuvwxyz0123456789+/".toList

/-- The digit of a value below sixty-four. -/
def digit (n : Nat) : Char := alphabet.getD n '='

/-- The value of a digit. -/
def value? (c : Char) : Option Nat :=
  if 'A' ≤ c ∧ c ≤ 'Z' then some (c.toNat - 'A'.toNat)
  else if 'a' ≤ c ∧ c ≤ 'z' then some (c.toNat - 'a'.toNat + 26)
  else if '0' ≤ c ∧ c ≤ '9' then some (c.toNat - '0'.toNat + 52)
  else if c = '+' then some 62
  else if c = '/' then some 63
  else none

/-- Octets in base64, with padding. -/
def encode : Bytes → List Char
  | [] => []
  | [a] => [digit (a.toNat / 4), digit (a.toNat % 4 * 16), '=', '=']
  | [a, b] =>
    [digit (a.toNat / 4), digit (a.toNat % 4 * 16 + b.toNat / 16), digit (b.toNat % 16 * 4), '=']
  | a :: b :: c :: rest =>
    digit (a.toNat / 4) :: digit (a.toNat % 4 * 16 + b.toNat / 16) ::
      digit (b.toNat % 16 * 4 + c.toNat / 64) :: digit (c.toNat % 64) :: encode rest

/-- Reads canonical base64. -/
def decode? : List Char → Option Bytes
  | [] => some []
  | [p, q, '=', '='] => do
    let a ← value? p
    let b ← value? q
    if b % 16 = 0 then some [UInt8.ofNat (4 * a + b / 16)] else none
  | [p, q, r, '='] => do
    let a ← value? p
    let b ← value? q
    let c ← value? r
    if c % 4 = 0 then some [UInt8.ofNat (4 * a + b / 16), UInt8.ofNat (b % 16 * 16 + c / 4)]
    else none
  | p :: q :: r :: s :: rest => do
    let a ← value? p
    let b ← value? q
    let c ← value? r
    let d ← value? s
    let bytes ← decode? rest
    some (UInt8.ofNat (4 * a + b / 16) :: UInt8.ofNat (b % 16 * 16 + c / 4) ::
      UInt8.ofNat (c % 4 * 64 + d) :: bytes)
  | _ => none

/-- A digit is read back. -/
theorem value?_digit {n : Nat} (h : n < 64) : value? (digit n) = some n := by
  have all : ∀ m ∈ List.range 64, value? (digit m) = some m := by decide
  exact all n (List.mem_range.2 h)

/-- No digit is the padding. -/
theorem digit_ne_padding {n : Nat} (h : n < 64) : digit n ≠ '=' := by
  have all : ∀ m ∈ List.range 64, digit m ≠ '=' := by decide
  exact all n (List.mem_range.2 h)

/-- Octets are read back from their text. -/
theorem decode?_encode (bytes : Bytes) : decode? (encode bytes) = some bytes := by
  induction bytes using encode.induct with
  | case1 => rfl
  | case2 a =>
    have ha := a.toNat_lt
    have h₁ := value?_digit (n := a.toNat / 4) (by omega)
    have h₂ := value?_digit (n := a.toNat % 4 * 16) (by omega)
    have hs : 4 * (a.toNat / 4) + a.toNat % 4 * 16 / 16 = a.toNat := by omega
    simp only [encode, decode?, h₁, h₂, Option.bind_eq_bind, Option.bind_some, Nat.mul_mod_left,
      if_true, hs, UInt8.ofNat_toNat]
  | case3 a b =>
    have ha := a.toNat_lt
    have hb := b.toNat_lt
    have h₁ := value?_digit (n := a.toNat / 4) (by omega)
    have h₂ := value?_digit (n := a.toNat % 4 * 16 + b.toNat / 16) (by omega)
    have h₃ := value?_digit (n := b.toNat % 16 * 4) (by omega)
    have hp := digit_ne_padding (n := b.toNat % 16 * 4) (by omega)
    have hs : 4 * (a.toNat / 4) + (a.toNat % 4 * 16 + b.toNat / 16) / 16 = a.toNat := by omega
    have ht : (a.toNat % 4 * 16 + b.toNat / 16) % 16 * 16 + b.toNat % 16 * 4 / 4 = b.toNat := by
      omega
    simp only [encode]
    rw [decode?.eq_3 _ _ _ fun h => hp h]
    simp only [h₁, h₂, h₃, Option.bind_eq_bind, Option.bind_some, Nat.mul_mod_left, if_true, hs, ht,
      UInt8.ofNat_toNat]
  | case4 a b c rest ih =>
    have ha := a.toNat_lt
    have hb := b.toNat_lt
    have hc := c.toNat_lt
    have h₁ := value?_digit (n := a.toNat / 4) (by omega)
    have h₂ := value?_digit (n := a.toNat % 4 * 16 + b.toNat / 16) (by omega)
    have h₃ := value?_digit (n := b.toNat % 16 * 4 + c.toNat / 64) (by omega)
    have h₄ := value?_digit (n := c.toNat % 64) (by omega)
    have hp := digit_ne_padding (n := c.toNat % 64) (by omega)
    have hs : 4 * (a.toNat / 4) + (a.toNat % 4 * 16 + b.toNat / 16) / 16 = a.toNat := by omega
    have ht : (a.toNat % 4 * 16 + b.toNat / 16) % 16 * 16 +
        (b.toNat % 16 * 4 + c.toNat / 64) / 4 = b.toNat := by omega
    have hu : (b.toNat % 16 * 4 + c.toNat / 64) % 4 * 64 + c.toNat % 64 = c.toNat := by omega
    simp only [encode]
    rw [decode?.eq_4 _ _ _ _ _ (fun _ h _ => hp h) (fun h _ => hp h)]
    simp only [h₁, h₂, h₃, h₄, ih, Option.bind_eq_bind, Option.bind_some, hs, ht, hu,
      UInt8.ofNat_toNat]

end TelemetrySpool.Base64
