import TelemetrySpool.Schema.Basic

/-!
# Attribute values

An attribute value is text, a truth value, a number, octets, a list of values, or a list of keyed
values. A binary message may also hold a value of no kind at all, which JSON writes as an empty
object and does not read. The kind stands beside the fields in JSON, but unlike other choices the
last key that names a kind counts, every such key has to fit, and there has to be one.
-/

namespace TelemetrySpool

mutual

/-- The value of an attribute. -/
inductive AnyValue where
  /-- No kind is chosen. -/
  | empty
  | text (value : String)
  | bool (value : Bool)
  | int (value : Int64)
  | double (value : Double)
  | list (values : List AnyValue)
  | keyed (values : List KeyValue)
  | octets (value : Bytes)

/-- A key with a value, which may be absent. -/
inductive KeyValue where
  | mk (key : String) (value : Option AnyValue)

end

instance : Inhabited AnyValue := ⟨.empty⟩

namespace KeyValue

/-- The key. -/
def key : KeyValue → String
  | mk key _ => key

/-- The value, if it is there. -/
def value : KeyValue → Option AnyValue
  | mk _ value => value

end KeyValue

namespace AnyValue

mutual

/-- The JSON value of an attribute value. -/
def toJson : AnyValue → Json
  | empty => .object []
  | text value => .object [("stringValue", Scalar.text.toJson value)]
  | bool value => .object [("boolValue", Scalar.bool.toJson value)]
  | int value => .object [("intValue", Scalar.int64Text.toJson value)]
  | double value => .object [("doubleValue", Scalar.double.toJson value)]
  | list values => .object [("arrayValue", .object [("values", .array (listToJson values))])]
  | keyed values => .object [("kvlistValue", .object [("values", .array (keyedToJson values))])]
  | octets value => .object [("bytesValue", Scalar.base64.toJson value)]

/-- The JSON values of a list of values. -/
def listToJson : List AnyValue → List Json
  | [] => []
  | value :: rest => toJson value :: listToJson rest

/-- The JSON values of keyed values. -/
def keyedToJson : List KeyValue → List Json
  | [] => []
  | pair :: rest => keyValueToJson pair :: keyedToJson rest

/-- The JSON value of a keyed value. -/
def keyValueToJson : KeyValue → Json
  | .mk key value => .object [("key", .string key), ("value", optionToJson value)]

/-- The JSON value of a value that may be absent. -/
def optionToJson : Option AnyValue → Json
  | none => .null
  | some value => toJson value

end

mutual

/-- The binary form of an attribute value. -/
def toWire : AnyValue → Bytes
  | empty => []
  | text value => Wire.field 1 (Scalar.text.toValue value)
  | bool value => Wire.field 2 (Scalar.bool.toValue value)
  | int value => Wire.field 3 (Scalar.int64Text.toValue value)
  | double value => Wire.field 4 (Scalar.double.toValue value)
  | list values => Wire.field 5 (.counted (listToWire values))
  | keyed values => Wire.field 6 (.counted (keyedToWire values))
  | octets value => Wire.field 7 (Scalar.base64.toValue value)

/-- The binary form of a list of values. -/
def listToWire : List AnyValue → Bytes
  | [] => []
  | value :: rest => Wire.field 1 (.counted (toWire value)) ++ listToWire rest

/-- The binary form of keyed values. -/
def keyedToWire : List KeyValue → Bytes
  | [] => []
  | pair :: rest => Wire.field 1 (.counted (keyValueToWire pair)) ++ keyedToWire rest

/-- The binary form of a keyed value. -/
def keyValueToWire : KeyValue → Bytes
  | .mk key value =>
    (if key = "" then [] else Wire.field 1 (Scalar.text.toValue key)) ++ optionToWire value

/-- The binary form of a value that may be absent. -/
def optionToWire : Option AnyValue → Bytes
  | none => []
  | some value => Wire.field 2 (.counted (toWire value))

end

/-- The schema of a list of values, given the format of its values. -/
def listSchema (value : Format AnyValue) : Schema (List AnyValue) where
  initial := []
  strict := true
  fields := [⟨"values", 1, value.list, id, fun values _ => values⟩]

/-- The schema of a keyed value, given the format of its value. -/
def keyValueSchema (value : Format AnyValue) : Schema KeyValue where
  initial := .mk "" none
  strict := true
  fields := [
    ⟨"key", 1, .scalar .text, KeyValue.key, fun key pair => .mk key pair.value⟩,
    ⟨"value", 2, value.option, KeyValue.value, fun value pair => .mk pair.key value⟩]

/-- The schema of keyed values, given the format of their values. -/
def keyedSchema (value : Format AnyValue) : Schema (List KeyValue) where
  initial := []
  strict := true
  fields := [⟨"values", 1, (keyValueSchema value).format.list, id, fun values _ => values⟩]

/-- The kinds of a value, given the format of the values inside it. -/
def kinds (value : Format AnyValue) : List (Alternative AnyValue) := [
  ⟨"stringValue", 1, .scalar .text, (fun | text v => some v | _ => none), fun v _ => text v⟩,
  ⟨"boolValue", 2, .scalar .bool, (fun | bool v => some v | _ => none), fun v _ => bool v⟩,
  ⟨"intValue", 3, .scalar .int64Text, (fun | int v => some v | _ => none), fun v _ => int v⟩,
  ⟨"doubleValue", 4, .scalar .double, (fun | double v => some v | _ => none), fun v _ => double v⟩,
  ⟨"arrayValue", 5, (listSchema value).format, (fun | list v => some v | _ => none),
    fun v _ => list v⟩,
  ⟨"kvlistValue", 6, (keyedSchema value).format, (fun | keyed v => some v | _ => none),
    fun v _ => keyed v⟩,
  ⟨"bytesValue", 7, .scalar .base64, (fun | octets v => some v | _ => none), fun v _ => octets v⟩]

/-- The schema of binary values, given the format of the values inside. -/
def schema (value : Format AnyValue) : Schema AnyValue where
  initial := empty
  strict := false
  fields := []
  placement := .beside
  alternatives := kinds value

/-- Reads the members of a value: each one that names a kind has to fit, and the last one counts. -/
def readMembers (value : Format AnyValue) (found : Option AnyValue) :
    List (String × Json) → Option AnyValue
  | [] => found
  | (key, json) :: rest =>
    match (kinds value).find? (·.key = key) with
    | none => readMembers value found rest
    | some kind =>
      match kind.read? json empty with
      | some read => readMembers value (some read) rest
      | none => none

/-- Reads a value from JSON. -/
def ofJson? (value : Format AnyValue) : Json → Option AnyValue
  | .object members =>
    if members.all (·.2.readable) then readMembers value none members else none
  | _ => none

/-- The format of values that nest at most `levels` deep. -/
def formatWithin : (levels : Nat) → Format AnyValue
  | 0 =>
    { initial := empty, optional := false, toJson, ofJson? := fun _ => none
      toWire := fun number value => Wire.field number (.counted (toWire value))
      omits := fun _ => false, merge? := fun _ _ _ => none }
  | levels + 1 =>
    let inner := formatWithin levels
    { initial := empty, optional := false, toJson, ofJson? := ofJson? inner
      toWire := fun number value => Wire.field number (.counted (toWire value))
      omits := fun _ => false, merge? := (schema inner).format.merge? }

/-- More levels than a value can nest: JSON opens a bracket and binary messages enter a level for
each, and both allow fewer. -/
def maxLevels : Nat := 128

/-- The format of attribute values. -/
def format : Format AnyValue := formatWithin maxLevels

end AnyValue

/-- The schema of attributes. -/
def KeyValue.schema : Schema KeyValue := AnyValue.keyValueSchema AnyValue.format

/-- The format of a list of attributes. -/
def KeyValue.listFormat : Format (List KeyValue) := KeyValue.schema.format.list

end TelemetrySpool
