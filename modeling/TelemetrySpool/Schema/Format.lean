import TelemetrySpool.Schema.Scalar

/-!
# Formats

A format says how a field of one type is written and read: its JSON value, the binary fields that
carry it, and what a further binary field with its number does to the value read so far. Formats of
scalars are lifted to optional values, to lists and to packed lists.
-/

namespace TelemetrySpool

/-- How a field of one type is written and read. -/
structure Format (τ : Type) where
  /-- The value of a field that is missing. -/
  initial : τ
  /-- Whether the field may be missing in messages that require their fields. -/
  optional : Bool
  toJson : τ → Json
  ofJson? : Json → Option τ
  /-- The binary field of a value, written even if it is the initial one. -/
  toWire : (number : Nat) → τ → Bytes
  /-- Whether a value is left out of binary messages. -/
  omits : τ → Bool
  /-- What a payload makes of the value read so far, with `depth` levels left to enter. -/
  merge? : (depth : Nat) → τ → Wire.Value → Option τ

namespace Format

/-- A scalar field; the last payload counts. -/
def scalar {τ : Type} (s : Scalar τ) : Format τ where
  initial := s.initial
  optional := false
  toJson := s.toJson
  ofJson? := s.ofJson?
  toWire := fun number value => Wire.field number (s.toValue value)
  omits := s.isInitial
  merge? := fun _ _ payload => s.ofValue? payload

/-- A field that may be absent, which JSON writes as null. -/
def option {τ : Type} (f : Format τ) : Format (Option τ) where
  initial := none
  optional := true
  toJson
    | none => .null
    | some value => f.toJson value
  ofJson?
    | .null => some none
    | json => (f.ofJson? json).map some
  toWire
    | _, none => []
    | number, some value => f.toWire number value
  omits := Option.isNone
  merge? := fun depth value payload => (f.merge? depth (value.getD f.initial) payload).map some

/-- Reads every item of a JSON array. -/
def items? {τ : Type} (item? : Json → Option τ) : Json → Option (List τ)
  | .array items => items.mapM item?
  | _ => none

/-- A field that may occur any number of times. -/
def list {τ : Type} (f : Format τ) : Format (List τ) where
  initial := []
  optional := false
  toJson := fun values => .array (values.map f.toJson)
  ofJson? := items? f.ofJson?
  toWire := fun number values => values.flatMap (f.toWire number)
  omits := List.isEmpty
  merge? := fun depth values payload =>
    (f.merge? depth f.initial payload).map fun value => values ++ [value]

/-- A list of scalars whose payloads stand together in one field; separate ones are read too. -/
def packed {τ : Type} (s : Scalar τ) : Format (List τ) where
  initial := []
  optional := false
  toJson := fun values => .array (values.map s.toJson)
  ofJson? := items? s.ofJson?
  toWire := fun number values =>
    Wire.field number (.counted (values.flatMap fun value => Wire.payloadBytes (s.toValue value)))
  omits := List.isEmpty
  merge?
    | _, values, .counted bytes => do
      let payloads ← Wire.readPacked s.shape bytes.length [] bytes
      let read ← payloads.mapM s.ofValue?
      some (values ++ read)
    | _, values, payload => (s.ofValue? payload).map fun value => values ++ [value]

end Format

end TelemetrySpool
