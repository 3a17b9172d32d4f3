/-!
# Cursors

A cursor stands somewhere in a text: it holds what follows and counts what lies before it, in all,
in lines and within its line. Five characters end a line, of which two are kept as they are and the
others, alone or as a pair, all count as one line feed.
-/

namespace TelemetrySpool.Yaml

/-- Whether a character ends a line. -/
def isBreak (c : Char) : Bool :=
  c = '\n' || c = '\r' || c = '\u0085' || c = '\u2028' || c = '\u2029'

/-- Whether a character is a space or a tab. -/
def isBlank (c : Char) : Bool := c = ' ' || c = '\t'

/-- Whether a character may stand in the names of anchors, tag handles and directives. -/
def isWord (c : Char) : Bool := c.isAlphanum || c = '_' || c = '-'

/-- Whether a character may stand in a document at all. -/
def isAllowed (c : Char) : Bool :=
  c = '\t' || c = '\n' || c = '\r' || (' ' ≤ c && c ≤ '~') || c = '\u0085' ||
    (0xa0 ≤ c.toNat && c.toNat ≤ 0xfffd) || 0x10000 ≤ c.toNat

/-- What a line break stands for in a scalar. -/
def breakChar (c : Char) : Char := if c = '\u2028' || c = '\u2029' then c else '\n'

/-- A place in a text. -/
structure Cursor where
  /-- The text from here on. -/
  rest : List Char
  /-- How many characters lie before this place. -/
  index : Nat := 0
  /-- How many lines lie before the line of this place. -/
  line : Nat := 0
  /-- How many characters of its line lie before this place. -/
  column : Nat := 0
  deriving DecidableEq, Repr

namespace Cursor

/-- The character at a distance, if the text goes on that far. -/
def peek? (c : Cursor) (distance : Nat) : Option Char := c.rest[distance]?

/-- Whether a given character stands at a distance. -/
def isAt (c : Cursor) (distance : Nat) (char : Char) : Bool := c.peek? distance = some char

/-- Whether a space, a tab, a line break or the end stands at a distance. -/
def isGapAt (c : Cursor) (distance : Nat) : Bool :=
  (c.peek? distance).all fun char => isBlank char || isBreak char

/-- Whether a line break or the end stands here. -/
def atLineEnd (c : Cursor) : Bool := (c.peek? 0).all isBreak

/-- The place after a number of characters of the same line. -/
def skip (c : Cursor) (count : Nat) : Cursor :=
  { c with rest := c.rest.drop count, index := c.index + count, column := c.column + count }

/-- The characters of the same line that satisfy a test. -/
def span (test : Char → Bool) (c : Cursor) : List Char := c.rest.takeWhile test

/-- The place after the characters of the same line that satisfy a test. -/
def skipWhile (test : Char → Bool) (c : Cursor) : Cursor := c.skip (c.span test).length

/-- The place after a line break, if one stands here. -/
def skipBreak (c : Cursor) : Cursor :=
  match c.rest with
  | '\r' :: '\n' :: rest => ⟨rest, c.index + 2, c.line + 1, 0⟩
  | char :: rest => if isBreak char then ⟨rest, c.index + 1, c.line + 1, 0⟩ else c
  | [] => c

/-- The end of the line, after blanks and a comment; nothing else may stand there. -/
def skipToLineEnd (c : Cursor) : Option Cursor :=
  let c := c.skipWhile isBlank
  let c := if c.isAt 0 '#' then c.skipWhile fun char => !isBreak char else c
  if c.atLineEnd then some c.skipBreak else none

/-- Whether three equal characters that mark a document start the line here. -/
def atMarker (char : Char) (c : Cursor) : Bool :=
  c.column = 0 && c.isAt 0 char && c.isAt 1 char && c.isAt 2 char && c.isGapAt 3

/-- Whether the start or the end of a document is marked here. -/
def atDocumentMarker (c : Cursor) : Bool := c.atMarker '-' || c.atMarker '.'

end Cursor

end TelemetrySpool.Yaml
