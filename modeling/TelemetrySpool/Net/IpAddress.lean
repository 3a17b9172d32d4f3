import TelemetrySpool.Text.Digits
import TelemetrySpool.Text.Hex

/-!
# Network addresses

An IP address is written as four decimal octets without leading zeros, or as eight hexadecimal
groups of which two colons may replace a run and an embedded address of four octets the last two.
A socket address is an IP address with a port; one of eight groups stands in brackets there.
-/

namespace TelemetrySpool

/-- An IP address. -/
inductive IpAddress where
  /-- Four octets. -/
  | v4 (octets : List Nat)
  /-- Eight groups of sixteen bits. -/
  | v6 (groups : List Nat)
  deriving DecidableEq, Repr

/-- An IP address with a port. -/
structure SocketAddress where
  address : IpAddress
  port : Nat
  deriving DecidableEq, Repr

namespace IpAddress

/-- A reader of the start of a text; it hands back what follows. -/
abbrev Reader (α : Type) := List Char → Option (α × List Char)

/-- The digits in front of a text, and what follows them. -/
def takeDigits (value? : Char → Option Nat) : List Char → List Nat × List Char
  | [] => ([], [])
  | c :: rest =>
    match value? c with
    | some d => let (digits, rest) := takeDigits value? rest; (d :: digits, rest)
    | none => ([], c :: rest)

/-- The number that digits spell. -/
def number (radix : Nat) (digits : List Nat) : Nat :=
  digits.foldl (fun acc d => radix * acc + d) 0

/-- Reads an octet: up to three digits, and no zero in front of others. -/
def octet : Reader Nat := fun text =>
  match takeDigits Digits.value? text with
  | ([], _) => none
  | (0 :: _ :: _, _) => none
  | (digits, rest) =>
    if digits.length ≤ 3 ∧ number 10 digits < 256 then some (number 10 digits, rest) else none

/-- Reads a group: up to four hexadecimal digits. -/
def group : Reader Nat := fun text =>
  match takeDigits Hex.value? text with
  | ([], _) => none
  | (digits, rest) => if digits.length ≤ 4 then some (number 16 digits, rest) else none

/-- Reads one given character. -/
def given (c : Char) : Reader Unit
  | [] => none
  | d :: rest => if c = d then some ((), rest) else none

/-- Reads what follows a separator, which the first of several lacks. -/
def separated {α : Type} (separator : Char) (isFirst : Bool) (item : Reader α) : Reader α :=
  fun text =>
    if isFirst then item text
    else
      match given separator text with
      | some ((), rest) => item rest
      | none => none

/-- Reads four octets parted by points. -/
def octets : Reader (List Nat) := fun text => do
  let (a, text) ← octet text
  let (b, text) ← separated '.' false octet text
  let (c, text) ← separated '.' false octet text
  let (d, text) ← separated '.' false octet text
  some ([a, b, c, d], text)

/-- Two groups for four octets. -/
def groupsOfOctets (octets : List Nat) : List Nat :=
  [256 * octets.getD 0 0 + octets.getD 1 0, 256 * octets.getD 2 0 + octets.getD 3 0]

/--
Reads up to `room` groups parted by colons, and says whether four octets ended them. These take
the place of two groups, so they are tried while there is room for two.
-/
def groups : (room : Nat) → (isFirst : Bool) → List Char → List Nat × Bool × List Char
  | 0, _, text => ([], false, text)
  | room + 1, isFirst, text =>
    match if 0 < room then separated ':' isFirst octets text else none with
    | some (found, rest) => (groupsOfOctets found, true, rest)
    | none =>
      match separated ':' isFirst group text with
      | none => ([], false, text)
      | some (found, rest) =>
        let (others, embedded, rest) := groups room false rest
        (found :: others, embedded, rest)

/-- Reads eight groups, of which two colons may replace one at least. -/
def v6Groups : Reader (List Nat) := fun text =>
  let (front, embedded, rest) := groups 8 true text
  if front.length = 8 then some (front, rest)
  else if embedded then none
  else
    match rest with
    | ':' :: ':' :: rest =>
      let (back, _, rest) := groups (7 - front.length) true rest
      some (front ++ List.replicate (8 - front.length - back.length) 0 ++ back, rest)
    | _ => none

/-- Reads an address; text that starts with four octets is not read as groups. -/
def read : Reader IpAddress := fun text =>
  match octets text with
  | some (found, rest) => some (.v4 found, rest)
  | none => (v6Groups text).map fun (found, rest) => (.v6 found, rest)

/-- The address that a text spells. -/
def parse? (text : String) : Option IpAddress :=
  match read text.toList with
  | some (address, []) => some address
  | _ => none

end IpAddress

namespace SocketAddress

open IpAddress

/-- Reads a port of sixteen bits. -/
def portNumber : Reader Nat := fun text =>
  match takeDigits Digits.value? text with
  | ([], _) => none
  | (digits, rest) => if number 10 digits < 65536 then some (number 10 digits, rest) else none

/-- Reads four octets and a port. -/
def v4 : Reader SocketAddress := fun text => do
  let (found, text) ← octets text
  let ((), text) ← given ':' text
  let (port, text) ← portNumber text
  some (⟨.v4 found, port⟩, text)

/-- Reads the number of an interface, if one is given. -/
def zone : Reader Unit
  | '%' :: text =>
    match takeDigits Digits.value? text with
    | ([], _) => none
    | (digits, rest) => if number 10 digits < 4294967296 then some ((), rest) else none
  | text => some ((), text)

/-- Reads eight groups in brackets and a port. -/
def v6 : Reader SocketAddress := fun text => do
  let ((), text) ← given '[' text
  let (found, text) ← v6Groups text
  let ((), text) ← zone text
  let ((), text) ← given ']' text
  let ((), text) ← given ':' text
  let (port, text) ← portNumber text
  some (⟨.v6 found, port⟩, text)

/-- The socket address that a text spells. -/
def parse? (text : String) : Option SocketAddress :=
  match (v4 text.toList).or (v6 text.toList) with
  | some (address, []) => some address
  | _ => none

end SocketAddress

end TelemetrySpool
