import TelemetrySpool.Number.Double

/-!
# JSON values

A JSON value as it is exchanged: numbers are whole numbers of at most sixty-four bits or doubles,
and members of an object keep their order and may repeat a key. Text can hold values that have the
right shape but no meaning here, such as a string that spells no text; they are kept as
`unreadable`, which no reader accepts and which does no harm where a value is skipped.
-/

namespace TelemetrySpool

/-- A JSON value. -/
inductive Json where
  | null
  | bool (value : Bool)
  /-- A number written without fraction and exponent. -/
  | integer (value : Int)
  | double (value : Double)
  | string (text : String)
  | array (items : List Json)
  | object (members : List (String × Json))
  /-- Well-formed text that stands for no value. -/
  | unreadable

namespace Json

mutual

/-- Whether nothing in a value is unreadable. -/
def readable : Json → Bool
  | array items => readableItems items
  | object members => readableMembers members
  | unreadable => false
  | _ => true

/-- Whether all items are readable. -/
def readableItems : List Json → Bool
  | [] => true
  | item :: rest => readable item && readableItems rest

/-- Whether the values of all members are readable. -/
def readableMembers : List (String × Json) → Bool
  | [] => true
  | (_, value) :: rest => readable value && readableMembers rest

end

mutual

/-- How many brackets are open at the deepest place of a value. -/
def depth : Json → Nat
  | array items => depthItems items + 1
  | object members => depthMembers members + 1
  | _ => 0

/-- The greatest depth among items. -/
def depthItems : List Json → Nat
  | [] => 0
  | item :: rest => max (depth item) (depthItems rest)

/-- The greatest depth among the values of members. -/
def depthMembers : List (String × Json) → Nat
  | [] => 0
  | (_, value) :: rest => max (depth value) (depthMembers rest)

end

/-- The last value that an object has for a key. -/
def get? (key : String) : Json → Option Json
  | object members => members.reverse.lookup key
  | _ => none

end Json

end TelemetrySpool
