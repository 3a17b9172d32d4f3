import TelemetrySpool.Bytes
import TelemetrySpool.Json.Number

/-!
# Reading JSON

The reader walks octets and hands back what it has left over. It accepts the text form of JSON and
nothing else. Where the form is right but no value can be made of it (a string that spells no text,
a number beyond the doubles, brackets nested too deeply, an object with such a key) the result is
the unreadable value, so that the text can still be skipped.
-/

namespace TelemetrySpool.Json

/-- How many brackets may be open at once. -/
def maxDepth : Nat := 127

/-- What follows white space. -/
def skipSpace : Bytes → Bytes
  | [] => []
  | b :: rest =>
    if b = 0x20 ∨ b = 0x0a ∨ b = 0x0d ∨ b = 0x09 then skipSpace rest else b :: rest

/-- What follows a given word. -/
def skipWord : (word : List Char) → Bytes → Option Bytes
  | [], rest => some rest
  | _ :: _, [] => none
  | c :: word, b :: rest => if b.toNat = c.toNat then skipWord word rest else none

/-- The value of a hexadecimal digit. -/
def hexValue? (b : UInt8) : Option Nat :=
  if 0x30 ≤ b ∧ b ≤ 0x39 then some (b.toNat - 0x30)
  else if 0x61 ≤ b ∧ b ≤ 0x66 then some (b.toNat - 0x61 + 10)
  else if 0x41 ≤ b ∧ b ≤ 0x46 then some (b.toNat - 0x41 + 10)
  else none

/-- The value of four hexadecimal digits. -/
def hexValue4? (a b c d : UInt8) : Option Nat := do
  let a ← hexValue? a
  let b ← hexValue? b
  let c ← hexValue? c
  let d ← hexValue? d
  some (4096 * a + 256 * b + 16 * c + d)

/-- What one element of a string literal stands for. -/
inductive Piece where
  | octet (b : UInt8)
  /-- A number of sixteen bits, in hexadecimal. -/
  | unit (n : Nat)
  deriving DecidableEq, Repr

/-- What the letter of a short escape stands for. -/
def shortEscape? (b : UInt8) : Option UInt8 :=
  if b = 0x22 ∨ b = 0x5c ∨ b = 0x2f then some b
  else if b = 0x62 then some 0x08
  else if b = 0x66 then some 0x0c
  else if b = 0x6e then some 0x0a
  else if b = 0x72 then some 0x0d
  else if b = 0x74 then some 0x09
  else none

/-- Reads a string literal after its opening quotation mark; `read` holds the pieces so far. -/
def literal (read : List Piece) : Bytes → Option (List Piece × Bytes)
  | [] => none
  | b :: rest =>
    if b = 0x22 then some (read.reverse, rest)
    else if b = 0x5c then
      match rest with
      | [] => none
      | e :: rest =>
        if e = 0x75 then
          match rest with
          | a :: b :: c :: d :: rest =>
            match hexValue4? a b c d with
            | some n => literal (.unit n :: read) rest
            | none => none
          | _ => none
        else
          match shortEscape? e with
          | some b => literal (.octet b :: read) rest
          | none => none
    else if b < 0x20 then none
    else literal (.octet b :: read) rest

/-- Whether a number of sixteen bits is the first half of a pair. -/
def isLeading (n : Nat) : Bool := 0xd800 ≤ n && n < 0xdc00

/-- Whether a number of sixteen bits is the second half of a pair. -/
def isTrailing (n : Nat) : Bool := 0xdc00 ≤ n && n < 0xe000

/-- The octets that pieces spell, in reverse after those already spelled; halves must be paired. -/
def spell (done : Bytes) : List Piece → Option Bytes
  | [] => some done
  | .octet b :: rest => spell (b :: done) rest
  | .unit n :: rest =>
    if isTrailing n then none
    else if isLeading n then
      match rest with
      | .unit m :: rest =>
        if isTrailing m then
          let c := Char.ofNat (0x10000 + 0x400 * (n - 0xd800) + (m - 0xdc00))
          spell ((String.utf8EncodeChar c).reverse ++ done) rest
        else none
      | _ => none
    else spell ((String.utf8EncodeChar (Char.ofNat n)).reverse ++ done) rest

/-- The text that pieces spell, if they spell one. -/
def spelled? (pieces : List Piece) : Option String := do
  let octets ← spell [] pieces
  Bytes.toText? octets.reverse

/-- The value of a decimal digit. -/
def digitValue? (b : UInt8) : Option Nat :=
  if 0x30 ≤ b ∧ b ≤ 0x39 then some (b.toNat - 0x30) else none

/-- Reads digits as long as there are any; `read` holds those so far. -/
def digits (read : List Nat) : Bytes → List Nat × Bytes
  | [] => (read.reverse, [])
  | b :: rest =>
    match digitValue? b with
    | some d => digits (d :: read) rest
    | none => (read.reverse, b :: rest)

/-- Reads one digit at least. -/
def someDigits (bytes : Bytes) : Option (List Nat × Bytes) :=
  match digits [] bytes with
  | ([], _) => none
  | found => some found

/-- Reads the whole part of a numeral: a zero alone, or digits that do not start with one. -/
def wholePart (bytes : Bytes) : Option (List Nat × Bytes) :=
  match someDigits bytes with
  | some (0 :: _ :: _, _) => none
  | found => found

/-- Reads the fraction of a numeral, if a point stands here. -/
def fractionPart : Bytes → Option (Option (List Nat) × Bytes)
  | 0x2e :: rest => (someDigits rest).map fun (digits, rest) => (some digits, rest)
  | bytes => some (none, bytes)

/-- Reads the sign of an exponent; true for a minus sign. -/
def exponentSign : Bytes → Bool × Bytes
  | 0x2d :: rest => (true, rest)
  | 0x2b :: rest => (false, rest)
  | bytes => (false, bytes)

/-- Reads the exponent of a numeral, if its letter stands here. -/
def exponentPart : Bytes → Option (Option (Bool × List Nat) × Bytes)
  | [] => some (none, [])
  | b :: rest =>
    if b = 0x65 ∨ b = 0x45 then
      let (negative, rest) := exponentSign rest
      (someDigits rest).map fun (digits, rest) => (some (negative, digits), rest)
    else some (none, b :: rest)

/-- Reads a numeral whose sign has been read. -/
def numeral (negative : Bool) (bytes : Bytes) : Option (Numeral × Bytes) := do
  let (whole, bytes) ← wholePart bytes
  let (fraction, bytes) ← fractionPart bytes
  let (exponent, bytes) ← exponentPart bytes
  some (⟨negative, whole, fraction, exponent⟩, bytes)

/-- A value inside brackets, unless they may not be opened here. -/
def within (room : Nat) (value : Json) : Json :=
  match room with
  | 0 => .unreadable
  | _ + 1 => value

/-- The object with the members read, unless one of its keys spells no text. -/
def ofMembers (members : Option (List (String × Json))) : Json :=
  match members with
  | some members => .object members.reverse
  | none => .unreadable

/-- Reads a key and the colon that follows it. -/
def key (bytes : Bytes) : Option (Option String × Bytes) :=
  match skipSpace bytes with
  | 0x22 :: rest => do
    let (pieces, rest) ← literal [] rest
    match skipSpace rest with
    | 0x3a :: rest => some (spelled? pieces, rest)
    | _ => none
  | _ => none

mutual

/-- Reads a value; `room` brackets may still be opened for it to be readable. -/
def value : (fuel room : Nat) → Bytes → Option (Json × Bytes)
  | 0, _, _ => none
  | fuel + 1, room, bytes =>
    match skipSpace bytes with
    | [] => none
    | b :: rest =>
      if b = 0x22 then do
        let (pieces, rest) ← literal [] rest
        some (((spelled? pieces).map Json.string).getD .unreadable, rest)
      else if b = 0x5b then
        match skipSpace rest with
        | 0x5d :: rest => some (within room (.array []), rest)
        | rest => do
          let (items, rest) ← itemsFrom fuel (room - 1) [] rest
          some (within room (.array items.reverse), rest)
      else if b = 0x7b then
        match skipSpace rest with
        | 0x7d :: rest => some (within room (.object []), rest)
        | rest => do
          let (members, rest) ← membersFrom fuel (room - 1) (some []) rest
          some (within room (ofMembers members), rest)
      else if b = 0x74 then (skipWord "true".toList (b :: rest)).map fun rest => (.bool true, rest)
      else if b = 0x66 then
        (skipWord "false".toList (b :: rest)).map fun rest => (.bool false, rest)
      else if b = 0x6e then (skipWord "null".toList (b :: rest)).map fun rest => (.null, rest)
      else if b = 0x2d then (numeral true rest).map fun (n, rest) => (n.toJson, rest)
      else (numeral false (b :: rest)).map fun (n, rest) => (n.toJson, rest)

/-- Reads items up to the closing bracket; `read` holds those so far, the last one first. -/
def itemsFrom : (fuel room : Nat) → (read : List Json) → Bytes → Option (List Json × Bytes)
  | 0, _, _, _ => none
  | fuel + 1, room, read, bytes =>
    match value fuel room bytes with
    | none => none
    | some (item, rest) =>
      match skipSpace rest with
      | 0x2c :: rest => itemsFrom fuel room (item :: read) rest
      | 0x5d :: rest => some (item :: read, rest)
      | _ => none

/-- Reads members up to the closing bracket; `read` holds those so far, the last one first. -/
def membersFrom : (fuel room : Nat) → (read : Option (List (String × Json))) → Bytes →
    Option (Option (List (String × Json)) × Bytes)
  | 0, _, _, _ => none
  | fuel + 1, room, read, bytes =>
    match key bytes with
    | none => none
    | some (name, rest) =>
      match value fuel room rest with
      | none => none
      | some (item, rest) =>
        let read := match read, name with
          | some members, some name => some ((name, item) :: members)
          | _, _ => none
        match skipSpace rest with
        | 0x2c :: rest => membersFrom fuel room read rest
        | 0x7d :: rest => some (read, rest)
        | _ => none

end

/-- Reads a document: one value with nothing but white space around it. -/
def parse? (bytes : Bytes) : Option Json :=
  match value (2 * bytes.length + 2) maxDepth bytes with
  | some (value, rest) => if skipSpace rest = [] then some value else none
  | none => none

end TelemetrySpool.Json
