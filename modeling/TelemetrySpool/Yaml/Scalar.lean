import TelemetrySpool.Text.Hex
import TelemetrySpool.Yaml.Folding

/-!
# Scalars

A scalar is written plain, in single or double quotation marks, or as an indented block whose lines
are kept or folded. Each reader starts at the first character of a scalar and gives its text and
the place behind it, or nothing where the text breaks the rules of its style.
-/

namespace TelemetrySpool.Yaml

/-- How a scalar is written. -/
inductive Style where
  | plain
  | singleQuoted
  | doubleQuoted
  /-- A block whose lines are kept. -/
  | literal
  /-- A block whose lines are folded. -/
  | folded
  deriving DecidableEq, Repr

namespace Scalar

/-- Whether a character opens or closes a flow collection or parts its entries. -/
def isFlowIndicator (c : Char) : Bool := c = ',' || c = '[' || c = ']' || c = '{' || c = '}'

/-- Whether a plain scalar ends at a character that follows its text without a gap. -/
def endsPlain (inFlow : Bool) (c : Cursor) : Bool :=
  (c.isAt 0 ':' && c.isGapAt 1) || (inFlow && (c.peek? 0).any isFlowIndicator)

/-- Whether a colon of a plain scalar stands in front of an indicator of a flow collection. -/
def misplacedColon (inFlow : Bool) (c : Cursor) : Bool :=
  inFlow && c.isAt 0 ':' && (c.peek? 1).any fun char => isFlowIndicator char || char = '?'

/--
Reads a plain scalar. It goes on over line breaks as long as the next line is indented by `indent`
at least, which does not matter inside a flow collection.
-/
def plainFrom (inFlow : Bool) (indent : Int) :
    (fuel : Nat) → Folding → Cursor → Option (Folding × Cursor)
  | 0, _, _ => none
  | fuel + 1, f, c =>
    match c.rest with
    | [] => some (f, c)
    | char :: _ =>
      if isBlank char then
        if f.broken ∧ c.column < indent ∧ char = '\t' then none
        else plainFrom inFlow indent fuel (f.blank char) (c.skip 1)
      else if isBreak char then plainFrom inFlow indent fuel (f.lineBreak char) c.skipBreak
      else if f.hasGap ∧ ((!inFlow ∧ c.column < indent) ∨ c.atDocumentMarker ∨ char = '#') then
        some (f, c)
      else if misplacedColon inFlow c then none
      else if endsPlain inFlow c then some (f, c)
      else plainFrom inFlow indent fuel (f.push char) (c.skip 1)

/-- Reads a plain scalar; the truth value says whether a line break follows it. -/
def plain (inFlow : Bool) (indent : Int) (c : Cursor) : Option (List Char × Bool × Cursor) := do
  let (f, c) ← plainFrom inFlow indent (c.rest.length + 1) {} c
  some (f.text.reverse, f.broken, c)

/-- The number that hexadecimal digits spell. -/
def hexNumber? (digits : List Char) : Option Nat :=
  digits.foldlM (fun acc c => (Hex.value? c).map fun d => 16 * acc + d) 0

/-- Reads an escaped code point of a given number of digits. -/
def escapedCode (width : Nat) (c : Cursor) : Option (Char × Cursor) := do
  let digits := c.rest.take width
  if digits.length ≠ width then none
  else
    let n ← hexNumber? digits
    if n.isValidChar then some (Char.ofNat n, c.skip width) else none

/-- Reads what follows the reverse solidus of an escape. -/
def escape (c : Cursor) : Option (Char × Cursor) :=
  match c.peek? 0 with
  | some '0' => some ('\x00', c.skip 1)
  | some 'a' => some ('\x07', c.skip 1)
  | some 'b' => some ('\x08', c.skip 1)
  | some 't' => some ('\t', c.skip 1)
  | some '\t' => some ('\t', c.skip 1)
  | some 'n' => some ('\n', c.skip 1)
  | some 'v' => some ('\x0b', c.skip 1)
  | some 'f' => some ('\x0c', c.skip 1)
  | some 'r' => some ('\r', c.skip 1)
  | some 'e' => some ('\x1b', c.skip 1)
  | some ' ' => some (' ', c.skip 1)
  | some '"' => some ('"', c.skip 1)
  | some '/' => some ('/', c.skip 1)
  | some '\\' => some ('\\', c.skip 1)
  | some 'N' => some ('\u0085', c.skip 1)
  | some '_' => some ('\u00a0', c.skip 1)
  | some 'L' => some ('\u2028', c.skip 1)
  | some 'P' => some ('\u2029', c.skip 1)
  | some 'x' => escapedCode 2 (c.skip 1)
  | some 'u' => escapedCode 4 (c.skip 1)
  | some 'U' => escapedCode 8 (c.skip 1)
  | _ => none

/-- Reads a quoted scalar after its opening quotation mark. -/
def quotedFrom (single : Bool) : (fuel : Nat) → Folding → Cursor → Option (List Char × Cursor)
  | 0, _, _ => none
  | fuel + 1, f, c =>
    match c.rest with
    | [] => none
    | char :: _ =>
      if isBlank char then quotedFrom single fuel (f.blank char) (c.skip 1)
      else if isBreak char then quotedFrom single fuel (f.lineBreak char) c.skipBreak
      else if c.atDocumentMarker then none
      else if single ∧ char = '\'' ∧ c.isAt 1 '\'' then
        quotedFrom single fuel (f.push '\'') (c.skip 2)
      else if char = (if single then '\'' else '"') then some (f.joined.reverse, c.skip 1)
      else if !single ∧ char = '\\' then
        if (c.peek? 1).any isBreak then
          quotedFrom single fuel f.escapedBreak (c.skip 1).skipBreak
        else
          match escape (c.skip 1) with
          | some (char, c) => quotedFrom single fuel (f.push char) c
          | none => none
      else quotedFrom single fuel (f.push char) (c.skip 1)

/-- Reads a quoted scalar. -/
def quoted (single : Bool) (c : Cursor) : Option (List Char × Cursor) :=
  quotedFrom single (c.rest.length + 1) {} (c.skip 1)

/-- What becomes of the line breaks at the end of a block. -/
inductive Chomping where
  /-- None of them is kept. -/
  | strip
  /-- The first one is kept. -/
  | clip
  /-- All of them are kept. -/
  | keep
  deriving DecidableEq, Repr

/-- Reads a sign that tells what becomes of the line breaks at the end. -/
def chomping? (c : Cursor) : Option Chomping :=
  if c.isAt 0 '+' then some .keep else if c.isAt 0 '-' then some .strip else none

/-- Reads a digit that tells the indentation; zero stands for none, and is refused when written. -/
def increment (c : Cursor) : Option (Nat × Cursor) :=
  match c.peek? 0 with
  | some char =>
    if '1' ≤ char ∧ char ≤ '9' then some (char.toNat - '0'.toNat, c.skip 1)
    else if char = '0' then none
    else some (0, c)
  | none => some (0, c)

/-- Reads the head of a block, of which the sign and the digit may come in either order. -/
def blockHead (c : Cursor) : Option (Chomping × Nat × Cursor) := do
  match chomping? c with
  | some chomping =>
    let (digit, c) ← increment (c.skip 1)
    some (chomping, digit, ← c.skipToLineEnd)
  | none =>
    let (digit, c) ← increment c
    match if digit = 0 then none else chomping? c with
    | some chomping => some (chomping, digit, ← (c.skip 1).skipToLineEnd)
    | none => some (.clip, digit, ← c.skipToLineEnd)

/--
Passes over empty lines and the indentation of the next line. While the indentation is not known,
which zero stands for, all spaces count as indentation, and `deepest` tells how far they reach.
The line breaks are handed back, last one first.
-/
def blockBreaks (indent : Nat) :
    (fuel deepest : Nat) → List Char → Cursor → Option (Nat × List Char × Cursor)
  | 0, _, _, _ => none
  | fuel + 1, deepest, breaks, c =>
    let spaces := (c.span (· = ' ')).length
    let c := c.skip (if indent = 0 then spaces else min spaces (indent - c.column))
    let deepest := max deepest c.column
    if (indent = 0 ∨ c.column < indent) ∧ c.isAt 0 '\t' then none
    else
      match c.peek? 0 with
      | some char =>
        if isBreak char then blockBreaks indent fuel deepest (breakChar char :: breaks) c.skipBreak
        else some (deepest, breaks, c)
      | none => some (deepest, breaks, c)

/-- A block so far. -/
structure Block where
  /-- The text without the line breaks behind its last line, last character first. -/
  text : List Char := []
  /-- The line break of the last line. -/
  first : Option Char := none
  /-- The line breaks of the empty lines behind it, last one first. -/
  others : List Char := []
  /-- Whether the last line starts with a blank, so that it is not folded. -/
  startsBlank : Bool := false
  deriving DecidableEq, Repr

/-- The text of a block with the line breaks in front of a further line, last character first. -/
def Block.joined (b : Block) (isLiteral startsBlank : Bool) : List Char :=
  if !isLiteral && b.first = some '\n' && !b.startsBlank && !startsBlank then
    if b.others = [] then ' ' :: b.text else b.others ++ b.text
  else b.others ++ b.first.toList ++ b.text

/-- Reads the lines of a block, each of which is indented exactly. -/
def blockLines (isLiteral : Bool) (indent : Nat) :
    (fuel : Nat) → Block → Cursor → Option (Block × Cursor)
  | 0, _, _ => none
  | fuel + 1, b, c =>
    if c.column ≠ indent ∨ c.rest = [] then some (b, c)
    else do
      let startsBlank := (c.peek? 0).any isBlank
      let line := c.span fun char => !isBreak char
      let text := line.reverse ++ b.joined isLiteral startsBlank
      let c := c.skip line.length
      let first := (c.peek? 0).map breakChar
      let (_, others, c) ← blockBreaks indent (c.rest.length + 1) 0 [] c.skipBreak
      blockLines isLiteral indent fuel { text, first, others, startsBlank } c

/-- The text of a whole block. -/
def Block.chomped (b : Block) : Chomping → List Char
  | .strip => b.text.reverse
  | .clip => (b.first.toList ++ b.text).reverse
  | .keep => (b.others ++ b.first.toList ++ b.text).reverse

/-- Reads a block scalar inside a collection that is indented by `outer`, or by -1 outside all. -/
def block (isLiteral : Bool) (outer : Int) (c : Cursor) : Option (List Char × Cursor) := do
  let (chomping, digit, c) ← blockHead (c.skip 1)
  let given := if digit = 0 then 0 else (max outer 0).toNat + digit
  let (deepest, others, c) ← blockBreaks given (c.rest.length + 1) 0 [] c
  let indent := if given = 0 then max (max deepest (outer + 1).toNat) 1 else given
  let (b, c) ← blockLines isLiteral indent (c.rest.length + 1) { others } c
  some (b.chomped chomping, c)

end Scalar

end TelemetrySpool.Yaml
