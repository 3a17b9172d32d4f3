import TelemetrySpool.Schema.Format

/-!
# Schemas

A schema lists the fields of a message type, each with its JSON key, its binary number, its format
and its place in the message. One schema gives four functions: the JSON value of a message and its
reading, and its binary fields and their reading.

Some messages end in a choice between alternatives of which at most one is present. In JSON its
member stands beside the fields, or in an object of its own under a key. Where it stands beside
them, every member that is no field has to be readable, the first one that names an alternative is
taken, and one whose value does not fit leaves the choice absent.
-/

namespace TelemetrySpool

/-- A field of the messages of type `μ`. -/
structure Field (μ : Type) where
  /-- The JSON key. -/
  key : String
  /-- The number in binary messages. -/
  number : Nat
  {τ : Type}
  format : Format τ
  get : μ → τ
  set : τ → μ → μ

/-- One of several values of which a message holds at most one. -/
structure Alternative (μ : Type) where
  /-- The JSON key. -/
  key : String
  /-- The number in binary messages. -/
  number : Nat
  {τ : Type}
  format : Format τ
  get? : μ → Option τ
  set : τ → μ → μ

/-- Where JSON puts the choice between alternatives. -/
inductive Placement where
  /-- There is no choice. -/
  | nowhere
  /-- Beside the fields. -/
  | beside
  /-- In an object of its own, or null, under a key. -/
  | under (key : String)
  deriving DecidableEq, Repr

/-- The description of a message type. -/
structure Schema (μ : Type) where
  /-- The message without any field. -/
  initial : μ
  /-- Whether JSON has to have every field that is not optional. -/
  strict : Bool
  fields : List (Field μ)
  placement : Placement := .nowhere
  alternatives : List (Alternative μ) := []

namespace Alternative

/-- The JSON member of an alternative that is present. -/
def member? {μ : Type} (a : Alternative μ) (message : μ) : Option (String × Json) :=
  (a.get? message).map fun value => (a.key, a.format.toJson value)

/-- The binary field of an alternative that is present, behind its number. -/
def part? {μ : Type} (a : Alternative μ) (message : μ) : Option (Nat × Bytes) :=
  (a.get? message).map fun value => (a.number, a.format.toWire a.number value)

/-- Reads the value of an alternative into a message. -/
def read? {μ : Type} (a : Alternative μ) (json : Json) (message : μ) : Option μ :=
  (a.format.ofJson? json).map fun value => a.set value message

end Alternative

namespace Field

/-- The JSON member of a field. -/
def member {μ : Type} (f : Field μ) (message : μ) : String × Json :=
  (f.key, f.format.toJson (f.get message))

/-- Reads the value of a field into a message. -/
def read? {μ : Type} (f : Field μ) (json : Json) (message : μ) : Option μ :=
  (f.format.ofJson? json).map fun value => f.set value message

/-- The binary field of a value, unless it is left out. -/
def toWire {μ : Type} (f : Field μ) (message : μ) : Bytes :=
  if f.format.omits (f.get message) then [] else f.format.toWire f.number (f.get message)

end Field

namespace Schema

variable {μ : Type}

/-- The field with a JSON key. -/
def fieldByKey? (s : Schema μ) (key : String) : Option (Field μ) :=
  s.fields.find? (·.key = key)

/-- The alternative with a JSON key. -/
def alternativeByKey? (s : Schema μ) (key : String) : Option (Alternative μ) :=
  s.alternatives.find? (·.key = key)

/-- The member of the alternative that is present. -/
def chosen? (s : Schema μ) (message : μ) : Option (String × Json) :=
  s.alternatives.findSome? (·.member? message)

/-- The members that write the choice between alternatives. -/
def choiceMembers (s : Schema μ) (message : μ) : List (String × Json) :=
  match s.placement with
  | .nowhere => []
  | .beside => (s.chosen? message).toList
  | .under key => [(key, ((s.chosen? message).map fun member => .object [member]).getD .null)]

/-- The JSON value of a message: every field in order, then the choice. -/
def toJson (s : Schema μ) (message : μ) : Json :=
  .object (s.fields.map (·.member message) ++ s.choiceMembers message)

/-- Reads the object of a choice: nothing, or one member that names an alternative. -/
def readChoice? (s : Schema μ) (json : Json) (message : μ) : Option μ :=
  match json with
  | .null => some message
  | .object [(key, value)] =>
    match s.alternativeByKey? key with
    | some alternative => alternative.read? value message
    | none => none
  | _ => none

/-- Reads a member that the schema knows; none if it does not know the key. -/
def readMember? (s : Schema μ) (key : String) : Option (Json → μ → Option μ) :=
  match s.fieldByKey? key with
  | some field => some field.read?
  | none => if s.placement = .under key then some s.readChoice? else none

/--
Reads the members of an object one after the other. Keys must not repeat; members that the schema
does not know are kept for later.
-/
def readMembers (s : Schema μ) (seen : List String) (others : List (String × Json)) (message : μ) :
    List (String × Json) → Option (List String × List (String × Json) × μ)
  | [] => some (seen, others.reverse, message)
  | (key, value) :: rest =>
    match s.readMember? key with
    | none => s.readMembers seen ((key, value) :: others) message rest
    | some read =>
      if key ∈ seen then none
      else
        match read value message with
        | some message => s.readMembers (key :: seen) others message rest
        | none => none

/-- Whether all keys that have to be there have been seen. -/
def complete (s : Schema μ) (seen : List String) : Bool :=
  !s.strict || s.fields.all fun f => f.format.optional || seen.contains f.key

/-- The message with the first alternative that members name, if its value fits. -/
def takeAlternative (s : Schema μ) (others : List (String × Json)) (message : μ) : μ :=
  match others.find? fun member => (s.alternativeByKey? member.1).isSome with
  | some (key, value) =>
    match s.alternativeByKey? key with
    | some alternative => (alternative.read? value message).getD message
    | none => message
  | none => message

/-- Reads a message from the members of an object. -/
def ofMembers? (s : Schema μ) (members : List (String × Json)) : Option μ := do
  let (seen, others, message) ← s.readMembers [] [] s.initial members
  if s.complete seen then
    if s.placement = .beside then
      if others.all (·.2.readable) then some (s.takeAlternative others message) else none
    else some message
  else none

/-- The readers of all positions of a message that is written as an array. -/
def positions (s : Schema μ) : List (Json → μ → Option μ) :=
  s.fields.map Field.read? ++
    match s.placement with
    | .under _ => [s.readChoice?]
    | _ => []

/-- Reads items by position; the items that are missing at the end are counted. -/
def readPositions (message : μ) : List (Json → μ → Option μ) → List Json → Option (Nat × μ)
  | left, [] => some (left.length, message)
  | [], _ :: _ => none
  | read :: left, item :: rest =>
    match read item message with
    | some message => readPositions message left rest
    | none => none

/-- Reads a message from the items of an array. -/
def ofItems? (s : Schema μ) (items : List Json) : Option μ := do
  let (missing, message) ← readPositions s.initial s.positions items
  if s.strict ∧ missing ≠ 0 then none else some message

/-- Reads a message; one with a choice beside its fields has to be an object. -/
def ofJson? (s : Schema μ) : Json → Option μ
  | .object members => s.ofMembers? members
  | .array items => if s.placement = .beside then none else s.ofItems? items
  | _ => none

/-- The binary field of the alternative that is present, behind its number. -/
def chosenPart? (s : Schema μ) (message : μ) : Option (Nat × Bytes) :=
  s.alternatives.findSome? (·.part? message)

/-- What a message has in binary form for every field and for the choice, each behind its number. -/
def parts (s : Schema μ) (message : μ) : List (Nat × Bytes) :=
  s.fields.map (fun f => (f.number, f.toWire message)) ++ (s.chosenPart? message).toList

/-- Puts a part before the first one that has no lower number. -/
def insertPart (part : Nat × Bytes) : List (Nat × Bytes) → List (Nat × Bytes)
  | [] => [part]
  | other :: rest =>
    if part.1 ≤ other.1 then part :: other :: rest else other :: insertPart part rest

/-- Parts in the order of their numbers. -/
def ordered (parts : List (Nat × Bytes)) : List (Nat × Bytes) := parts.foldr insertPart []

/-- The binary form of a message, with its fields in the order of their numbers. -/
def toWire (s : Schema μ) (message : μ) : Bytes := (ordered (s.parts message)).flatMap (·.2)

/-- What a binary field makes of the message read so far. -/
def mergeField? (s : Schema μ) (depth : Nat) (message : μ) (number : Nat) (payload : Wire.Value) :
    Option μ :=
  match s.fields.find? (·.number = number) with
  | some field =>
    (field.format.merge? depth (field.get message) payload).map fun value => field.set value message
  | none =>
    match s.alternatives.find? (·.number = number) with
    | some alternative =>
      let value := (alternative.get? message).getD alternative.format.initial
      (alternative.format.merge? depth value payload).map fun value => alternative.set value message
    | none => if payload.skippable depth then some message else none

/-- What binary fields make of the message read so far. -/
def mergeFields? (s : Schema μ) (depth : Nat) (message : μ) :
    List (Nat × Wire.Value) → Option μ
  | [] => some message
  | (number, payload) :: rest =>
    match s.mergeField? depth message number payload with
    | some message => s.mergeFields? depth message rest
    | none => none

/-- What a binary message makes of the message read so far. -/
def merge? (s : Schema μ) (depth : Nat) (message : μ) (bytes : Bytes) : Option μ := do
  let fields ← Wire.readFields bytes
  s.mergeFields? depth message fields

/-- The format of messages as fields of other messages. -/
def format (s : Schema μ) : Format μ where
  initial := s.initial
  optional := false
  toJson := s.toJson
  ofJson? := s.ofJson?
  toWire := fun number message => Wire.field number (.counted (s.toWire message))
  omits := fun _ => false
  merge?
    | depth + 1, message, .counted bytes => s.merge? depth message bytes
    | _, _, _ => none

end Schema

end TelemetrySpool
