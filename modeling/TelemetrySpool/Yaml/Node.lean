import TelemetrySpool.Yaml.Layout

/-!
# Nodes

A document is a node: a scalar, a sequence, a mapping, or a reference to an anchored node.
An anchor is numbered by how many names were anchored before it, and a number stands for the last
node that got it; so a name that is anchored twice does not use up a number.
-/

namespace TelemetrySpool.Yaml

/-- A node of a document. -/
inductive Node where
  /-- A scalar with its tag. -/
  | scalar (style : Style) (tag : Option Bytes) (text : String)
  | sequence (items : List Node)
  | mapping (members : List (Node × Node))
  /-- The node with an anchor number. -/
  | reference (number : Nat)
  deriving Repr

/-- The scalar that stands where nothing is written. -/
def Node.empty : Node := .scalar .plain none ""

/-- The anchors of a document. -/
structure Anchors where
  /-- The number of each name, the last one given first. -/
  numbers : List (String × Nat) := []
  /-- The numbers in the order in which nodes got them, last one first. -/
  given : List Nat := []
  /-- The anchored nodes, each with how many nodes were anchored before it. -/
  nodes : List (Nat × Node) := []
  deriving Repr

namespace Anchors

/-- Numbers a name, whose node is then known by how many were anchored before it. -/
def start (a : Anchors) (name : String) : Anchors :=
  let number := a.numbers.length
  { a with
    numbers := (name, number) :: a.numbers.filter (·.1 ≠ name)
    given := number :: a.given }

/-- Notes the node that was the `place`-th to be anchored. -/
def finish (a : Anchors) (place : Nat) (node : Node) : Anchors :=
  { a with nodes := (place, node) :: a.nodes }

/-- The node that a number stands for. -/
def node? (a : Anchors) (number : Nat) : Option Node := do
  let later := (a.given.takeWhile (· ≠ number)).length
  a.nodes.lookup (a.given.length - 1 - later)

end Anchors

/-- A document: its node, and what its references stand for. -/
structure Document where
  root : Node
  anchors : Anchors
  deriving Repr

/-- What tag handles stand for. -/
abbrev Handles := List (String × Bytes)

namespace Handles

/-- The handles that every document has, unless it gives them another meaning. -/
def standard : Handles :=
  [("!", Bytes.ofText "!"), ("!!", Bytes.ofText "tag:yaml.org,2002:")]

/-- The whole tag of a handle and a suffix. -/
def tag? (handles : Handles) (handle : String) (suffix : Bytes) : Option Bytes :=
  if handle = "" then some suffix else (handles.lookup handle).map (· ++ suffix)

end Handles

/-- The anchor and the tag in front of a node. -/
structure Properties where
  anchor : Option String := none
  tag : Option Bytes := none
  deriving DecidableEq, Repr

namespace Properties

/-- Reads an anchor and a tag, at most one of each and in either order. -/
def read (handles : Handles) : List Token → Option (Properties × List Token)
  | .anchor name :: .tag handle suffix :: rest =>
    (handles.tag? handle suffix).map fun tag => (⟨some name, some tag⟩, rest)
  | .anchor name :: rest => some (⟨some name, none⟩, rest)
  | .tag handle suffix :: .anchor name :: rest =>
    (handles.tag? handle suffix).map fun tag => (⟨some name, some tag⟩, rest)
  | .tag handle suffix :: rest =>
    (handles.tag? handle suffix).map fun tag => (⟨none, some tag⟩, rest)
  | rest => some ({}, rest)

end Properties

/-- Where a node stands, which decides what may start there. -/
inductive Context where
  /-- Inside a flow collection. -/
  | flow
  /-- Where a block collection may start. -/
  | block
  /-- Where also a block sequence may start that is not indented further. -/
  | blockMember
  deriving DecidableEq, Repr

/-- Whether no node follows where one may be left out. -/
def endsHere (ends : List Token) (tokens : List Token) : Bool := tokens.head?.any ends.contains

namespace Node

/-- What is left after a node: the anchors so far, and the tokens that follow. -/
abbrev Left := Anchors × List Token

mutual

/-- Reads a node. -/
def read (handles : Handles) : (fuel : Nat) → Context → Anchors → List Token → Option (Node × Left)
  | 0, _, _, _ => none
  | fuel + 1, context, a, tokens =>
    match tokens with
    | .reference name :: rest =>
      (a.numbers.lookup name).map fun number => (.reference number, a, rest)
    | _ => do
      let (properties, tokens) ← Properties.read handles tokens
      let place := a.given.length
      let a := properties.anchor.elim a a.start
      let (node, a, rest) ← content handles fuel context properties a tokens
      let a := if properties.anchor.isSome then a.finish place node else a
      some (node, a, rest)

/-- Reads a node behind its anchor and tag, with which it may be left out. -/
def content (handles : Handles) :
    (fuel : Nat) → Context → Properties → Anchors → List Token → Option (Node × Left)
  | 0, _, _, _, _ => none
  | fuel + 1, context, properties, a, tokens =>
    match context, tokens with
    | _, .scalar style text :: rest => some (.scalar style properties.tag text, a, rest)
    | _, .flowSequenceStart :: rest => do
      let (items, a, rest) ← flowItems handles fuel true a rest
      some (.sequence items, a, rest)
    | _, .flowMappingStart :: rest => do
      let (members, a, rest) ← flowMembers handles fuel true a rest
      some (.mapping members, a, rest)
    | .block, .blockSequenceStart :: rest | .blockMember, .blockSequenceStart :: rest => do
      let (items, a, rest) ← blockItems handles fuel a rest
      some (.sequence items, a, rest)
    | .block, .blockMappingStart :: rest | .blockMember, .blockMappingStart :: rest => do
      let (members, a, rest) ← blockMembers handles fuel a rest
      some (.mapping members, a, rest)
    | .blockMember, .blockEntry :: rest => do
      let (items, a, rest) ← memberItems handles fuel a (.blockEntry :: rest)
      some (.sequence items, a, rest)
    | _, tokens =>
      if properties.anchor.isSome ∨ properties.tag.isSome then
        some (.scalar .plain properties.tag "", a, tokens)
      else none

/-- Reads a node, or the empty scalar in front of one of the given tokens. -/
def readUnless (handles : Handles) :
    (fuel : Nat) → Context → (ends : List Token) → Anchors → List Token → Option (Node × Left)
  | 0, _, _, _, _ => none
  | fuel + 1, context, ends, a, tokens =>
    if endsHere ends tokens then some (.empty, a, tokens) else read handles fuel context a tokens

/-- Reads the items of a block sequence up to its end. -/
def blockItems (handles : Handles) : (fuel : Nat) → Anchors → List Token → Option (List Node × Left)
  | 0, _, _ => none
  | fuel + 1, a, tokens =>
    match tokens with
    | .blockEntry :: rest => do
      let (item, a, rest) ← readUnless handles fuel .block [.blockEntry, .blockEnd] a rest
      let (items, a, rest) ← blockItems handles fuel a rest
      some (item :: items, a, rest)
    | .blockEnd :: rest => some ([], a, rest)
    | _ => none

/-- Reads the items of a block sequence that is not indented further than its key. -/
def memberItems (handles : Handles) :
    (fuel : Nat) → Anchors → List Token → Option (List Node × Left)
  | 0, _, _ => none
  | fuel + 1, a, tokens =>
    match tokens with
    | .blockEntry :: rest => do
      let ends : List Token := [.blockEntry, .key, .value, .blockEnd]
      let (item, a, rest) ← readUnless handles fuel .block ends a rest
      let (items, a, rest) ← memberItems handles fuel a rest
      some (item :: items, a, rest)
    | _ => some ([], a, tokens)

/-- Reads the members of a block mapping up to its end. -/
def blockMembers (handles : Handles) :
    (fuel : Nat) → Anchors → List Token → Option (List (Node × Node) × Left)
  | 0, _, _ => none
  | fuel + 1, a, tokens =>
    let ends : List Token := [.key, .value, .blockEnd]
    match tokens with
    | .key :: rest => do
      let (key, a, rest) ← readUnless handles fuel .blockMember ends a rest
      let (value, a, rest) ← memberValue handles fuel .blockMember ends a rest
      let (members, a, rest) ← blockMembers handles fuel a rest
      some ((key, value) :: members, a, rest)
    | .blockEnd :: rest => some ([], a, rest)
    | _ => none

/-- Reads the value of a member, which is empty if none is written. -/
def memberValue (handles : Handles) :
    (fuel : Nat) → Context → (ends : List Token) → Anchors → List Token → Option (Node × Left)
  | 0, _, _, _, _ => none
  | fuel + 1, context, ends, a, tokens =>
    match tokens with
    | .value :: rest => readUnless handles fuel context ends a rest
    | _ => some (.empty, a, tokens)

/-- Reads the items of a flow sequence up to its end; all but the first follow a comma. -/
def flowItems (handles : Handles) :
    (fuel : Nat) → (isFirst : Bool) → Anchors → List Token → Option (List Node × Left)
  | 0, _, _, _ => none
  | fuel + 1, isFirst, a, tokens =>
    match isFirst, tokens with
    | _, .flowSequenceEnd :: rest => some ([], a, rest)
    | false, .flowEntry :: rest =>
      if endsHere [.flowSequenceEnd] rest then some ([], a, rest.drop 1)
      else flowItem handles fuel a rest
    | false, _ => none
    | true, tokens => flowItem handles fuel a tokens

/-- Reads an item of a flow sequence and those that follow; a marked key makes it a mapping. -/
def flowItem (handles : Handles) : (fuel : Nat) → Anchors → List Token → Option (List Node × Left)
  | 0, _, _ => none
  | fuel + 1, a, tokens => do
    let (item, a, rest) ←
      match tokens with
      | .key :: rest => flowPair handles fuel a rest
      | tokens => read handles fuel .flow a tokens
    let (items, a, rest) ← flowItems handles fuel false a rest
    some (item :: items, a, rest)

/-- Reads the one member of a mapping without brackets. The token after an empty key is lost. -/
def flowPair (handles : Handles) : (fuel : Nat) → Anchors → List Token → Option (Node × Left)
  | 0, _, _ => none
  | fuel + 1, a, tokens => do
    let ends : List Token := [.flowEntry, .flowSequenceEnd]
    let (key, a, rest) ←
      if endsHere (.value :: ends) tokens then some (.empty, a, tokens.drop 1)
      else read handles fuel .flow a tokens
    let (value, a, rest) ← memberValue handles fuel .flow ends a rest
    some (.mapping [(key, value)], a, rest)

/-- Reads the members of a flow mapping up to its end; all but the first follow a comma. -/
def flowMembers (handles : Handles) :
    (fuel : Nat) → (isFirst : Bool) → Anchors → List Token → Option (List (Node × Node) × Left)
  | 0, _, _, _ => none
  | fuel + 1, isFirst, a, tokens =>
    match isFirst, tokens with
    | _, .flowMappingEnd :: rest => some ([], a, rest)
    | false, .flowEntry :: rest =>
      if endsHere [.flowMappingEnd] rest then some ([], a, rest.drop 1)
      else flowMember handles fuel a rest
    | false, _ => none
    | true, tokens => flowMember handles fuel a tokens

/-- Reads a member of a flow mapping and those that follow; a key without mark has no value. -/
def flowMember (handles : Handles) :
    (fuel : Nat) → Anchors → List Token → Option (List (Node × Node) × Left)
  | 0, _, _ => none
  | fuel + 1, a, tokens => do
    let ends : List Token := [.flowEntry, .flowMappingEnd]
    let (member, a, rest) ←
      match tokens with
      | .key :: rest => do
        let (key, a, rest) ← readUnless handles fuel .flow (.value :: ends) a rest
        let (value, a, rest) ← memberValue handles fuel .flow ends a rest
        some ((key, value), a, rest)
      | tokens => do
        let (key, a, rest) ← read handles fuel .flow a tokens
        some ((key, .empty), a, rest)
    let (members, a, rest) ← flowMembers handles fuel false a rest
    some (member :: members, a, rest)

end

end Node

namespace Document

/-- Reads the directives in front of a document: at most one version, and each handle once. -/
def directives (versioned : Bool) (handles : Handles) : List Token → Option (Handles × List Token)
  | .version major minor :: rest =>
    if !versioned ∧ major = 1 ∧ (minor = 1 ∨ minor = 2) then directives true handles rest else none
  | .handle name meaning :: rest =>
    if (handles.lookup name).isSome then none
    else directives versioned ((name, meaning) :: handles) rest
  | rest => some (handles ++ Handles.standard, rest)

/-- Whether a token stands in front of a document, and not in one. -/
def isOutside : Token → Bool
  | .version _ _ | .handle _ _ | .documentStart | .documentEnd => true
  | _ => false

/-- Reads a document whose start is marked; it may be empty. -/
def marked (fuel : Nat) (tokens : List Token) : Option (Document × List Token) := do
  let (handles, rest) ← directives false [] tokens
  let .documentStart :: rest := rest | none
  if rest.head?.all isOutside then some (⟨.empty, {}⟩, rest)
  else
    let (root, anchors, rest) ← Node.read handles fuel .block {} rest
    some (⟨root, anchors⟩, rest)

/-- Reads the only document of a stream, which may also have none. -/
def ofTokens? (tokens : List Token) : Option Document := do
  let fuel := 8 * tokens.length + 8
  let (document, rest) ←
    match tokens with
    | [] => some (⟨.empty, {}⟩, [])
    | .version _ _ :: _ | .handle _ _ :: _ | .documentStart :: _ => marked fuel tokens
    | tokens => do
      let (root, anchors, rest) ← Node.read Handles.standard fuel .block {} tokens
      some (⟨root, anchors⟩, rest)
  if rest.all (· = .documentEnd) then some document else none

/-- Reads a text that holds at most one document. -/
def parse? (text : String) : Option Document := (tokens? text.toList).bind ofTokens?

end Document

end TelemetrySpool.Yaml
