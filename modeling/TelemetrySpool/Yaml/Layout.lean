import TelemetrySpool.Yaml.Token

/-!
# Layout

The layout of a document is what its tokens depend on beside the text itself: the indentation of
the collections that are open, and the places at which a key may have started that only a later
colon shows to be one. Such a place is good for one line and for a limited number of characters;
when the colon comes, the token of the key is put in where it started.
-/

namespace TelemetrySpool.Yaml

/-- A place at which a key may have started. -/
structure KeyStart where
  /-- How many tokens lie before it. -/
  tokens : Nat
  index : Nat
  line : Nat
  column : Nat
  /-- Whether the place is that of a member of the innermost block mapping: a key has to start. -/
  required : Bool
  deriving DecidableEq, Repr

/-- The tokens read so far, and what the next ones depend on. -/
structure Layout where
  cursor : Cursor
  /-- The tokens so far, last one first. -/
  tokens : List Token := []
  /-- The column of the innermost block collection, or -1. -/
  indent : Int := -1
  /-- The columns of the collections around it. -/
  outer : List Int := []
  /-- Whether a key may start here. -/
  keyAllowed : Bool := true
  /-- Where a key may have started inside the innermost flow collection. -/
  keyStart : Option KeyStart := none
  /-- The same for the flow collections around it; each one that is open adds an element. -/
  outerKeyStarts : List (Option KeyStart) := []
  deriving Repr

namespace Layout

/-- How far behind its start the colon of a key may be. -/
def maxKeyLength : Nat := 1024

/-- Whether a flow collection is open. -/
def inFlow (s : Layout) : Bool := s.outerKeyStarts ≠ []

/-- Adds a token. -/
def add (s : Layout) (token : Token) : Layout := { s with tokens := token :: s.tokens }

/-- Puts a token in behind the first `position` ones. -/
def insertAt (s : Layout) (position : Nat) (token : Token) : Layout :=
  let later := s.tokens.length - position
  { s with tokens := s.tokens.take later ++ token :: s.tokens.drop later }

/-- Forgets where a key may have started, unless there has to be one. -/
def dropKeyStart (s : Layout) : Option Layout :=
  if s.keyStart.any (·.required) then none else some { s with keyStart := none }

/-- Notes that a key may start here. -/
def saveKeyStart (s : Layout) : Option Layout :=
  if s.keyAllowed then do
    let c := s.cursor
    let required := !s.inFlow && s.indent = (c.column : Int)
    let s ← s.dropKeyStart
    some { s with keyStart := some ⟨s.tokens.length, c.index, c.line, c.column, required⟩ }
  else some s

/-- Whether a colon here is too far from where a key may have started. -/
def isStale (c : Cursor) (start : KeyStart) : Bool :=
  start.line < c.line || start.index + maxKeyLength < c.index

/-- Forgets the key starts that are too far away; none of them may have to be a key. -/
def dropStale (s : Layout) : Option Layout :=
  let stale := fun start : Option KeyStart => start.any (isStale s.cursor)
  let required := fun start : Option KeyStart => stale start && start.any (·.required)
  if (s.keyStart :: s.outerKeyStarts).any required then none
  else
    let kept := fun start : Option KeyStart => if stale start then none else start
    some { s with keyStart := kept s.keyStart, outerKeyStarts := s.outerKeyStarts.map kept }

/-- Closes the block collections that are indented further than a column. -/
def unroll (column : Int) : List Int → Layout → Layout
  | [], s => s
  | outer :: rest, s =>
    if column < s.indent then
      unroll column rest { s with tokens := .blockEnd :: s.tokens, indent := outer, outer := rest }
    else s

/-- Closes block collections that are indented further than a column; flow collections have none. -/
def closeBlocks (s : Layout) (column : Int) : Layout :=
  if s.inFlow then s else unroll column s.outer s

/-- Opens a block collection in front of token `position` if a column is indented further. -/
def openBlock (s : Layout) (column : Nat) (position : Nat) (token : Token) : Layout :=
  if !s.inFlow ∧ s.indent < column then
    { s.insertAt position token with indent := column, outer := s.indent :: s.outer }
  else s

/-- Opens a block collection here if it is indented further, which has to be a place for keys. -/
def openHere (s : Layout) (token : Token) : Option Layout :=
  if s.inFlow then some s
  else if s.keyAllowed then some (s.openBlock s.cursor.column s.tokens.length token)
  else none

/-- Adds a token of `width` characters, after which a key may start or not. -/
def indicator (s : Layout) (token : Token) (width : Nat) (keyAllowed : Bool) : Layout :=
  { s.add token with cursor := s.cursor.skip width, keyAllowed }

/-- Passes over gaps and comments. Tabs count as gaps only where no key may start. -/
def skipGaps : (fuel : Nat) → Layout → Layout
  | 0, s => s
  | fuel + 1, s =>
    let isSpace := fun char => char = ' ' || ((s.inFlow || !s.keyAllowed) && char = '\t')
    let c := s.cursor.skipWhile isSpace
    let c := if c.isAt 0 '#' then c.skipWhile fun char => !isBreak char else c
    if (c.peek? 0).any isBreak then
      skipGaps fuel { s with cursor := c.skipBreak, keyAllowed := s.keyAllowed || !s.inFlow }
    else { s with cursor := c }

/-- Closes all blocks and adds a token that stands outside the content of a document. -/
def outside (s : Layout) (token : Token) (c : Cursor) : Option Layout := do
  let s ← (s.closeBlocks (-1)).dropKeyStart
  some { s.add token with cursor := c, keyAllowed := false }

/-- Opens a flow collection. -/
def openFlow (s : Layout) (token : Token) : Option Layout := do
  let s ← s.saveKeyStart
  some { s.indicator token 1 true with
    keyStart := none, outerKeyStarts := s.keyStart :: s.outerKeyStarts }

/-- Closes a flow collection, if one is open. -/
def closeFlow (s : Layout) (token : Token) : Option Layout := do
  let s ← s.dropKeyStart
  let s := s.indicator token 1 false
  match s.outerKeyStarts with
  | [] => some s
  | start :: rest => some { s with keyStart := start, outerKeyStarts := rest }

/-- Adds the token between the entries of a flow collection. -/
def flowEntry (s : Layout) : Option Layout := do
  let s ← s.dropKeyStart
  some (s.indicator .flowEntry 1 true)

/-- Adds the token in front of an entry of a block sequence. -/
def blockEntry (s : Layout) : Option Layout := do
  let s ← s.openHere .blockSequenceStart
  let s ← s.dropKeyStart
  some (s.indicator .blockEntry 1 true)

/-- Adds the token in front of a key that is marked as such. -/
def markedKey (s : Layout) : Option Layout := do
  let s ← s.openHere .blockMappingStart
  let s ← s.dropKeyStart
  some (s.indicator .key 1 !s.inFlow)

/-- Adds the token between a key and its value, and that of the key if it was not marked. -/
def value (s : Layout) : Option Layout :=
  match s.keyStart with
  | some start =>
    let s := s.insertAt start.tokens .key
    let s := s.openBlock start.column start.tokens .blockMappingStart
    some ({ s with keyStart := none }.indicator .value 1 false)
  | none => do
    let s ← s.openHere .blockMappingStart
    some (s.indicator .value 1 !s.inFlow)

/-- Adds a token at which a key may start. -/
def content (s : Layout) (token : Token) (c : Cursor) (keyAllowed : Bool) : Option Layout := do
  let s ← s.saveKeyStart
  some { s.add token with cursor := c, keyAllowed }

/-- Adds an anchor or a reference to one. -/
def anchor (s : Layout) (token : String → Token) : Option Layout := do
  let (name, c) ← Token.anchorName (s.cursor.skip 1)
  s.content (token name) c false

/-- Adds a tag. -/
def tag (s : Layout) : Option Layout := do
  let (token, c) ← Token.ofTag s.inFlow s.cursor
  s.content token c false

/-- Adds a scalar in quotation marks. -/
def quotedScalar (s : Layout) (single : Bool) : Option Layout := do
  let (text, c) ← Scalar.quoted single s.cursor
  s.content (.scalar (if single then .singleQuoted else .doubleQuoted) (String.ofList text)) c false

/-- Adds a plain scalar; a key may start on the line after it. -/
def plainScalar (s : Layout) : Option Layout := do
  let (text, broken, c) ← Scalar.plain s.inFlow (s.indent + 1) s.cursor
  s.content (.scalar .plain (String.ofList text)) c broken

/-- Adds a scalar written as a block. -/
def blockScalar (s : Layout) (isLiteral : Bool) : Option Layout := do
  let s ← s.dropKeyStart
  let (text, c) ← Scalar.block isLiteral s.indent s.cursor
  let token := Token.scalar (if isLiteral then .literal else .folded) (String.ofList text)
  some { s.add token with cursor := c, keyAllowed := true }

/-- Whether a plain scalar may start here. -/
def startsPlain (s : Layout) : Bool :=
  let c := s.cursor
  !(c.isGapAt 0 || (c.peek? 0).any "-?:,[]\x7b\x7d#&*!|>'\"%@\x60".toList.contains) ||
    (c.isAt 0 '-' && !(c.peek? 1).any isBlank) ||
    (!s.inFlow && (c.isAt 0 '?' || c.isAt 0 ':') && !c.isGapAt 1)

/-- Adds the token that starts here. -/
def step (s : Layout) (char : Char) : Option Layout :=
  let c := s.cursor
  if c.column = 0 ∧ char = '%' then do
    let (token, c) ← Token.ofDirective c
    s.outside token c
  else if c.atMarker '-' then s.outside .documentStart (c.skip 3)
  else if c.atMarker '.' then s.outside .documentEnd (c.skip 3)
  else if char = '[' then s.openFlow .flowSequenceStart
  else if char = '{' then s.openFlow .flowMappingStart
  else if char = ']' then s.closeFlow .flowSequenceEnd
  else if char = '}' then s.closeFlow .flowMappingEnd
  else if char = ',' then s.flowEntry
  else if char = '-' ∧ c.isGapAt 1 then s.blockEntry
  else if char = '?' ∧ (s.inFlow ∨ c.isGapAt 1) then s.markedKey
  else if char = ':' ∧ (s.inFlow ∨ c.isGapAt 1) then s.value
  else if char = '*' then s.anchor .reference
  else if char = '&' then s.anchor .anchor
  else if char = '!' then s.tag
  else if char = '|' ∧ !s.inFlow then s.blockScalar true
  else if char = '>' ∧ !s.inFlow then s.blockScalar false
  else if char = '\'' then s.quotedScalar true
  else if char = '"' then s.quotedScalar false
  else if s.startsPlain then s.plainScalar
  else none

/-- Adds the tokens up to the end of the text. -/
def run : (fuel : Nat) → Layout → Option Layout
  | 0, _ => none
  | fuel + 1, s => do
    let s ← (skipGaps (s.cursor.rest.length + 1) s).dropStale
    let s := s.closeBlocks s.cursor.column
    match s.cursor.peek? 0 with
    | none => (s.closeBlocks (-1)).dropKeyStart
    | some char => run fuel (← s.step char)

end Layout

/-- The tokens of a text. A mark of its byte order may start it, and counts as a column. -/
def tokens? (text : List Char) : Option (List Token) :=
  if text.all isAllowed then
    let start : Cursor := { rest := text }
    let start := if start.isAt 0 '\ufeff' then start.skip 1 else start
    (Layout.run (text.length + 1) { cursor := start }).map (·.tokens.reverse)
  else none

end TelemetrySpool.Yaml
