import TelemetrySpool.Config.Reading
import TelemetrySpool.Yaml.Node

/-!
# Configurations in YAML

The YAML dialect takes the text of any scalar for a text. Truth values and numbers have to be plain
or tagged blocks, and are spelled as the core schema says; digits with a zero in front spell no
number. A section is a mapping, or a place where nothing is written.
-/

namespace TelemetrySpool.Yaml

/-- The tag of truth values. -/
def flagTag : Bytes := Bytes.ofText "tag:yaml.org,2002:bool"

/-- The tag of whole numbers. -/
def integerTag : Bytes := Bytes.ofText "tag:yaml.org,2002:int"

/-- The number that digits of a radix spell. -/
def digitsOf? (radix : Nat) (text : List Char) : Option Nat :=
  if text = [] then none
  else
    text.foldlM
      (fun acc c => ((Hex.value? c).filter (· < radix)).map fun digit => radix * acc + digit) 0

/-- Whether text is a zero with further digits, which spells no number. -/
def isPaddedNumber (text : List Char) : Bool :=
  1 < text.length && text.head? = some '0' && text.all Char.isDigit

/-- The natural number that text spells: hexadecimal, octal, binary or decimal. -/
def naturalOf? (text : List Char) : Option Nat :=
  let unsigned :=
    match text with
    | '+' :: rest => rest
    | text => text
  match unsigned with
  | '0' :: 'x' :: rest => digitsOf? 16 rest
  | '0' :: 'o' :: rest => digitsOf? 8 rest
  | '0' :: 'b' :: rest => digitsOf? 2 rest
  | _ => if isPaddedNumber unsigned then none else digitsOf? 10 unsigned

/-- The truth value that text spells. -/
def flagOf? (text : String) : Option Bool :=
  if ["true", "True", "TRUE"].contains text then some true
  else if ["false", "False", "FALSE"].contains text then some false
  else none

namespace Node

/-- The node itself, or the one that it refers to. -/
def target (anchors : Anchors) : Node → Node
  | reference number => (anchors.node? number).getD (.reference number)
  | node => node

/-- The text of a scalar. -/
def text? : Node → Option String
  | scalar _ _ text => some text
  | _ => none

/-- The text of a scalar that is plain, or a block with a given tag. -/
def plainText? (tag : Bytes) : Node → Option String
  | scalar .plain _ text => some text
  | scalar .literal found text => if found = some tag then some text else none
  | _ => none

/-- The members of a mapping whose keys are texts. -/
def namedMembers? (anchors : Anchors) (members : List (Node × Node)) :
    Option (List (String × Node)) :=
  members.mapM fun member => (member.1.target anchors).text?.map fun key => (key, member.2)

/-- The members of a section that have one of the given keys, unless one of these repeats. -/
def section? (anchors : Anchors) (keys : List String) : Node → Option (List (String × Node))
  | mapping members => do
    let known := (← namedMembers? anchors members).filter fun member => keys.contains member.1
    if (known.map (·.1)).Nodup then some known else none
  | scalar .plain _ "" => some []
  | _ => none

end Node

/-- The dialect of the documents with given anchors. -/
def dialect (anchors : Anchors) : Dialect Node where
  text? node := (node.target anchors).text?
  flag? node := ((node.target anchors).plainText? flagTag).bind flagOf?
  natural? node :=
    ((node.target anchors).plainText? integerTag).bind fun text => naturalOf? text.toList
  members? keys node := (node.target anchors).section? anchors keys

end TelemetrySpool.Yaml

namespace TelemetrySpool.Config

/-- The configuration that a YAML text holds. -/
def ofYaml? (text : String) : Option Config := do
  let document ← Yaml.Document.parse? text
  read? (Yaml.dialect document.anchors) document.root

end TelemetrySpool.Config
