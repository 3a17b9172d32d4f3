import TelemetrySpool.Bytes
import TelemetrySpool.Yaml.Scalar

/-!
# Tokens

The tokens of a document say where collections start and end and what stands in them. Beside
scalars they can be anchors, references, tags and directives, whose readers stand here. A tag is a
string of octets, because it may spell octets that are no text.
-/

namespace TelemetrySpool.Yaml

/-- A token of a document. -/
inductive Token where
  /-- The version a document is written for. -/
  | version (major minor : Nat)
  /-- A handle, and what it stands for in tags. -/
  | handle (name : String) (meaning : Bytes)
  | documentStart
  | documentEnd
  | blockSequenceStart
  | blockMappingStart
  | blockEnd
  | flowSequenceStart
  | flowSequenceEnd
  | flowMappingStart
  | flowMappingEnd
  | blockEntry
  | flowEntry
  | key
  | value
  | reference (name : String)
  | anchor (name : String)
  | tag (handle : String) (suffix : Bytes)
  | scalar (style : Style) (text : String)
  deriving DecidableEq, Repr

namespace Token

/-- Reads the name of an anchor behind the indicator that sets it or refers to it. -/
def anchorName (c : Cursor) : Option (String × Cursor) :=
  let name := c.span isWord
  let c := c.skip name.length
  if name ≠ [] ∧ (c.isGapAt 0 ∨ (c.peek? 0).any "?:,]\x7d%@\x60".toList.contains) then
    some (String.ofList name, c)
  else none

/-- Reads the handle of a tag: an exclamation mark, or a word between two of them. -/
def tagHandle (c : Cursor) : Option (List Char × Cursor) :=
  if c.isAt 0 '!' then
    let word := (c.skip 1).span isWord
    let c := c.skip (word.length + 1)
    if c.isAt 0 '!' then some ('!' :: word ++ ['!'], c.skip 1) else some ('!' :: word, c)
  else none

/-- Whether a character may stand in a tag; inside angle brackets there are more that may. -/
def isTagChar (bracketed : Bool) (c : Char) : Bool :=
  isWord c || ";/?:@&=+$.!~*'()%".toList.contains c || (bracketed && ",[]".toList.contains c)

/-- How many octets a character has whose first octet is given. -/
def octetCount? (first : Nat) : Option Nat :=
  if first < 0x80 then some 1
  else if 0xc0 ≤ first ∧ first < 0xe0 then some 2
  else if 0xe0 ≤ first ∧ first < 0xf0 then some 3
  else if 0xf0 ≤ first ∧ first < 0xf8 then some 4
  else none

/-- The octets that the characters of a tag spell; `due` octets of a character are outstanding. -/
def tagOctets? : (due : Nat) → List Char → Option Bytes
  | 0, [] => some []
  | _ + 1, [] => none
  | due, '%' :: a :: b :: rest => do
    let octet := 16 * (← Hex.value? a) + (← Hex.value? b)
    match due with
    | 0 => do
      let count ← octetCount? octet
      some (UInt8.ofNat octet :: (← tagOctets? (count - 1) rest))
    | due + 1 =>
      if 0x80 ≤ octet ∧ octet < 0xc0 then
        some (UInt8.ofNat octet :: (← tagOctets? due rest))
      else none
  | 0, c :: rest =>
    if c = '%' then none else (tagOctets? 0 rest).map (String.utf8EncodeChar c ++ ·)
  | _ + 1, _ :: _ => none

/-- Reads what follows the handle of a tag; it may be empty only where that is said. -/
def tagSuffix (bracketed mayBeEmpty : Bool) (c : Cursor) : Option (Bytes × Cursor) := do
  let chars := c.span (isTagChar bracketed)
  if chars = [] ∧ !mayBeEmpty then none
  else some (← tagOctets? 0 chars, c.skip chars.length)

/-- Reads a tag. One that stands alone as an exclamation mark has no handle. -/
def tagParts (c : Cursor) : Option (String × Bytes × Cursor) := do
  if c.isAt 1 '<' then
    let (suffix, c) ← tagSuffix true false (c.skip 2)
    if c.isAt 0 '>' then some ("", suffix, c.skip 1) else none
  else
    let (mark, c) ← tagHandle c
    if 1 < mark.length ∧ mark.getLast? = some '!' then
      let (suffix, c) ← tagSuffix false false c
      some (String.ofList mark, suffix, c)
    else
      let (more, c) ← tagSuffix false true c
      let suffix := Bytes.ofText (String.ofList (mark.drop 1)) ++ more
      if suffix = [] then some ("", Bytes.ofText "!", c) else some ("!", suffix, c)

/-- Reads a tag, which a gap has to follow, or a comma inside a flow collection. -/
def ofTag (inFlow : Bool) (c : Cursor) : Option (Token × Cursor) := do
  let (mark, suffix, c) ← tagParts c
  if c.isGapAt 0 ∨ (inFlow ∧ c.isAt 0 ',') then some (.tag mark suffix, c) else none

/-- Reads a number of up to nine digits. -/
def versionNumber (c : Cursor) : Option (Nat × Cursor) :=
  let digits := c.span Char.isDigit
  if digits = [] ∨ 9 < digits.length then none
  else some (digits.foldl (fun acc d => 10 * acc + (d.toNat - '0'.toNat)) 0, c.skip digits.length)

/-- Reads the two numbers of a version. -/
def ofVersion (c : Cursor) : Option (Token × Cursor) := do
  let (major, c) ← versionNumber (c.skipWhile isBlank)
  if c.isAt 0 '.' then
    let (minor, c) ← versionNumber (c.skip 1)
    some (.version major minor, c)
  else none

/-- Reads a handle and its meaning. -/
def ofHandle (c : Cursor) : Option (Token × Cursor) := do
  let (mark, c) ← tagHandle (c.skipWhile isBlank)
  if mark.getLast? ≠ some '!' then none
  else if (c.peek? 0).any isBlank then
    let (meaning, c) ← tagSuffix true false (c.skipWhile isBlank)
    if c.isGapAt 0 then some (.handle (String.ofList mark) meaning, c) else none
  else none

/-- Reads a directive with the rest of its line. -/
def ofDirective (c : Cursor) : Option (Token × Cursor) := do
  let c := c.skip 1
  let name := c.span isWord
  let c := c.skip name.length
  let (token, c) ←
    if !c.isGapAt 0 then none
    else if name = "YAML".toList then ofVersion c
    else if name = "TAG".toList then ofHandle c
    else none
  some (token, ← c.skipToLineEnd)

end Token

end TelemetrySpool.Yaml
