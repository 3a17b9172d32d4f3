import TelemetrySpool.Json.Basic
import TelemetrySpool.Text.Base64
import TelemetrySpool.Text.Digits
import TelemetrySpool.Text.Hex
import TelemetrySpool.Wire.Basic

/-!
# Scalars

A scalar is a value that a message holds directly. It has one form in JSON and one payload in
binary messages. Two scalars may share a type and differ in form: a count of nanoseconds is text in
some messages and a plain number in others.
-/

namespace TelemetrySpool

/-- How the values of one scalar kind are written and read. -/
structure Scalar (τ : Type) where
  /-- The value that is left out of binary messages and stands for a missing one. -/
  initial : τ
  /-- Whether a value is the initial one. -/
  isInitial : τ → Bool
  toJson : τ → Json
  ofJson? : Json → Option τ
  /-- The shape of the payload. -/
  shape : Wire.Shape
  toValue : τ → Wire.Value
  ofValue? : Wire.Value → Option τ

namespace Scalar

/-- A whole number between two bounds. -/
def integer? (least greatest : Int) : Json → Option Int
  | .integer n => if least ≤ n ∧ n ≤ greatest then some n else none
  | _ => none

/-- The payload of a variable-length integer. -/
def varint? : Wire.Value → Option Nat
  | .varint n => some n
  | _ => none

/-- The payload of eight octets. -/
def fixed64? : Wire.Value → Option Nat
  | .fixed64 n => some n
  | _ => none

/-- The payload of four octets. -/
def fixed32? : Wire.Value → Option Nat
  | .fixed32 n => some n
  | _ => none

/-- The payload of counted octets. -/
def counted? : Wire.Value → Option Bytes
  | .counted bytes => some bytes
  | _ => none

/-- The text of a JSON string. -/
def string? : Json → Option String
  | .string text => some text
  | _ => none

/-- Text in UTF-8. -/
def text : Scalar String where
  initial := ""
  isInitial := (· = "")
  toJson := .string
  ofJson? := string?
  shape := .counted
  toValue := fun text => .counted (Bytes.ofText text)
  ofValue? := fun value => (counted? value).bind Bytes.toText?

/-- Octets, in hexadecimal in JSON. -/
def hex : Scalar Bytes where
  initial := []
  isInitial := (·.isEmpty)
  toJson := fun bytes => .string (String.ofList (Hex.encode bytes))
  ofJson? := fun json => (string? json).bind fun text => Hex.decode? text.toList
  shape := .counted
  toValue := .counted
  ofValue? := counted?

/-- Octets, in base64 in JSON. -/
def base64 : Scalar Bytes where
  initial := []
  isInitial := (·.isEmpty)
  toJson := fun bytes => .string (String.ofList (Base64.encode bytes))
  ofJson? := fun json => (string? json).bind fun text => Base64.decode? text.toList
  shape := .counted
  toValue := .counted
  ofValue? := counted?

/-- A truth value. -/
def bool : Scalar Bool where
  initial := false
  isInitial := (!·)
  toJson := .bool
  ofJson?
    | .bool b => some b
    | _ => none
  shape := .varint
  toValue := fun b => .varint b.toNat
  ofValue? := fun value => (varint? value).map (· != 0)

/-- A natural number of 32 bits; higher bits of the payload are dropped. -/
def uint32 : Scalar UInt32 where
  initial := 0
  isInitial := (· = 0)
  toJson := fun n => .integer n.toNat
  ofJson? := fun json => (integer? 0 4294967295 json).map fun n => UInt32.ofNat n.toNat
  shape := .varint
  toValue := fun n => .varint n.toNat
  ofValue? := fun value => (varint? value).map UInt32.ofNat

/-- A natural number in four octets. -/
def fixed32 : Scalar UInt32 where
  initial := 0
  isInitial := (· = 0)
  toJson := fun n => .integer n.toNat
  ofJson? := fun json => (integer? 0 4294967295 json).map fun n => UInt32.ofNat n.toNat
  shape := .fixed32
  toValue := fun n => .fixed32 n.toNat
  ofValue? := fun value => (fixed32? value).map UInt32.ofNat

/-- A whole number of 32 bits, extended to 64 bits in its payload. -/
def int32 : Scalar Int32 where
  initial := 0
  isInitial := (· = 0)
  toJson := fun n => .integer n.toInt
  ofJson? := fun json => (integer? (-2147483648) 2147483647 json).map Int32.ofInt
  shape := .varint
  toValue := fun n => .varint n.toInt64.toUInt64.toNat
  ofValue? := fun value => (varint? value).map fun n => (UInt32.ofNat n).toInt32

/-- The natural number that stands for a whole one when the signs alternate. -/
def zigzag (n : Int) : Nat := if 0 ≤ n then (2 * n).toNat else (-2 * n - 1).toNat

/-- The whole number that an alternating natural number stands for. -/
def unzigzag (n : Nat) : Int :=
  if n % 2 = 0 then ((n / 2 : Nat) : Int) else -((n / 2 : Nat) : Int) - 1

/-- A whole number of 32 bits whose payload alternates between the signs. -/
def sint32 : Scalar Int32 where
  initial := 0
  isInitial := (· = 0)
  toJson := fun n => .integer n.toInt
  ofJson? := fun json => (integer? (-2147483648) 2147483647 json).map Int32.ofInt
  shape := .varint
  toValue := fun n => .varint (zigzag n.toInt)
  ofValue? := fun value => (varint? value).map fun n => Int32.ofInt (unzigzag (n % 4294967296))

/-- A natural number of 64 bits in JSON. -/
def word? (json : Json) : Option UInt64 :=
  (integer? 0 18446744073709551615 json).map fun n => UInt64.ofNat n.toNat

/-- A natural number of 64 bits with a variable-length payload. -/
def uint64 : Scalar UInt64 where
  initial := 0
  isInitial := (· = 0)
  toJson := fun n => .integer n.toNat
  ofJson? := word?
  shape := .varint
  toValue := fun n => .varint n.toNat
  ofValue? := fun value => (varint? value).map UInt64.ofNat

/-- A natural number in eight octets. -/
def fixed64 : Scalar UInt64 where
  initial := 0
  isInitial := (· = 0)
  toJson := fun n => .integer n.toNat
  ofJson? := word?
  shape := .fixed64
  toValue := fun n => .fixed64 n.toNat
  ofValue? := fun value => (fixed64? value).map UInt64.ofNat

/-- A natural number in eight octets whose decimal digits are text in JSON. -/
def fixed64Text : Scalar UInt64 where
  initial := 0
  isInitial := (· = 0)
  toJson := fun n => .string (Digits.text n.toNat)
  ofJson? := fun json => do
    let text ← string? json
    let n ← Digits.readUnsigned? text.toList
    if n < 18446744073709551616 then some (UInt64.ofNat n) else none
  shape := .fixed64
  toValue := fun n => .fixed64 n.toNat
  ofValue? := fun value => (fixed64? value).map UInt64.ofNat

/-- The bounds of whole numbers of 64 bits. -/
def fitsInt64 (n : Int) : Bool := -9223372036854775808 ≤ n && n ≤ 9223372036854775807

/-- A whole number in eight octets. -/
def sfixed64 : Scalar Int64 where
  initial := 0
  isInitial := (· = 0)
  toJson := fun n => .integer n.toInt
  ofJson? := fun json =>
    (integer? (-9223372036854775808) 9223372036854775807 json).map Int64.ofInt
  shape := .fixed64
  toValue := fun n => .fixed64 n.toUInt64.toNat
  ofValue? := fun value => (fixed64? value).map fun n => (UInt64.ofNat n).toInt64

/-- A whole number of 64 bits whose decimal digits are text in JSON; plain numbers are read too. -/
def int64Text : Scalar Int64 where
  initial := 0
  isInitial := (· = 0)
  toJson := fun n => .string (String.ofList (Digits.ofInt n.toInt))
  ofJson?
    | .integer n => if fitsInt64 n then some (Int64.ofInt n) else none
    | .string text => do
      let n ← Digits.readSigned? text.toList
      if fitsInt64 n then some (Int64.ofInt n) else none
    | _ => none
  shape := .varint
  toValue := fun n => .varint n.toUInt64.toNat
  ofValue? := fun value => (varint? value).map fun n => (UInt64.ofNat n).toInt64

/-- A double; whole numbers are read too, and rounded. -/
def double : Scalar Double where
  initial := .zero
  isInitial := (· = .zero)
  toJson := .double
  ofJson?
    | .double x => some x
    | .integer n => some (.ofInt n)
    | _ => none
  shape := .fixed64
  toValue := fun x => .fixed64 x.bits.toNat
  ofValue? := fun value => (fixed64? value).map fun n => ⟨UInt64.ofNat n⟩

end Scalar

end TelemetrySpool
