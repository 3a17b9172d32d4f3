import TelemetrySpool.Yaml.Cursor

/-!
# Folded text

Scalars that run over several lines are folded: blanks around a line break are dropped, a single
break becomes a space, and of several breaks all but the first are kept. What lies between two
words is known only when the second one starts, so it is held back until then.
-/

namespace TelemetrySpool.Yaml

/-- The text of a scalar so far, with the gap behind its last word. -/
structure Folding where
  /-- The text without the gap, last character first. -/
  text : List Char := []
  /-- The blanks of a gap within a line, last one first. -/
  blanks : List Char := []
  /-- Whether the gap has a line break. -/
  broken : Bool := false
  /-- The first line break of the gap, unless that was escaped. -/
  first : Option Char := none
  /-- The further line breaks of the gap, last one first. -/
  others : List Char := []
  deriving DecidableEq, Repr

namespace Folding

/-- Whether a gap follows the last word. -/
def hasGap (f : Folding) : Bool := f.broken || f.blanks ≠ []

/-- The text with the gap folded into it, last character first. -/
def joined (f : Folding) : List Char :=
  if f.broken then
    if f.first = some '\n' then if f.others = [] then ' ' :: f.text else f.others ++ f.text
    else f.others ++ f.first.toList ++ f.text
  else f.blanks ++ f.text

/-- A further character of a word. -/
def push (f : Folding) (c : Char) : Folding := { text := c :: f.joined }

/-- A further blank; in a gap with a line break it counts for nothing. -/
def blank (f : Folding) (c : Char) : Folding :=
  if f.broken then f else { f with blanks := c :: f.blanks }

/-- A further line break. -/
def lineBreak (f : Folding) (c : Char) : Folding :=
  if f.broken then { f with others := breakChar c :: f.others }
  else { text := f.text, broken := true, first := some (breakChar c) }

/-- A line break that was escaped, so that it stands for nothing. -/
def escapedBreak (f : Folding) : Folding := { text := f.joined, broken := true }

end Folding

end TelemetrySpool.Yaml
