import TelemetrySpool.Json.Number

/-!
# Writing JSON

The compact form has no white space at all. The pretty form puts every item and member on a line
of its own, two spaces deeper than its bracket, and keeps empty brackets together. Strings are
written the same way in both: a quotation mark, a reverse solidus and the control characters are
escaped, and everything else stands for itself.
-/

namespace TelemetrySpool.Json

/-- A character inside a string literal. -/
def escapeChar (c : Char) : List Char :=
  if c = '"' then ['\\', '"']
  else if c = '\\' then ['\\', '\\']
  else if c = '\x08' then ['\\', 'b']
  else if c = '\x0c' then ['\\', 'f']
  else if c = '\n' then ['\\', 'n']
  else if c = '\r' then ['\\', 'r']
  else if c = '\t' then ['\\', 't']
  else if c.toNat < 0x20 then
    ['\\', 'u', '0', '0', Nat.digitChar (c.toNat / 16), Nat.digitChar (c.toNat % 16)]
  else [c]

/-- A hexadecimal digit is no control character. -/
theorem le_digitChar {n : Nat} (h : n < 16) : 0x20 ≤ (Nat.digitChar n).toNat := by
  have all : ∀ m ∈ List.range 16, 0x20 ≤ (Nat.digitChar m).toNat := by decide
  exact all n (List.mem_range.2 h)

/-- Inside a string literal there are no control characters. -/
theorem le_of_mem_escapeChar {c d : Char} (h : d ∈ escapeChar c) : 0x20 ≤ d.toNat := by
  unfold escapeChar at h
  iterate 7
    split at h
    · simp only [List.mem_cons, List.not_mem_nil, or_false] at h
      rcases h with rfl | rfl <;> decide
  split at h
  · next hc =>
    simp only [List.mem_cons, List.not_mem_nil, or_false] at h
    rcases h with rfl | rfl | rfl | rfl | rfl | rfl
    · decide
    · decide
    · decide
    · decide
    · exact le_digitChar (by omega)
    · exact le_digitChar (by omega)
  · simp only [List.mem_singleton] at h
    subst h
    omega

/-- A string literal. -/
def stringText (text : String) : List Char :=
  '"' :: text.toList.flatMap escapeChar ++ ['"']

/-- A string literal has no control characters. -/
theorem le_of_mem_stringText {text : String} {d : Char} (h : d ∈ stringText text) :
    0x20 ≤ d.toNat := by
  simp only [stringText, List.cons_append, List.mem_cons, List.mem_append, List.mem_flatMap,
    List.not_mem_nil, or_false] at h
  rcases h with rfl | ⟨c, _, hd⟩ | rfl
  · decide
  · exact le_of_mem_escapeChar hd
  · decide

/-- A value that is no array and no object. -/
def leafText : Json → List Char
  | bool true => "true".toList
  | bool false => "false".toList
  | integer n => Digits.ofInt n
  | double x => if x.isFinite then doubleText x else "null".toList
  | string text => stringText text
  | _ => "null".toList

mutual

/-- A value without white space. -/
def compact : Json → List Char
  | array items => '[' :: compactItems items ++ [']']
  | object members => '{' :: compactMembers members ++ ['}']
  | leaf => leafText leaf

/-- Items without white space, parted by commas. -/
def compactItems : List Json → List Char
  | [] => []
  | [item] => compact item
  | item :: rest => compact item ++ ',' :: compactItems rest

/-- Members without white space, parted by commas. -/
def compactMembers : List (String × Json) → List Char
  | [] => []
  | [(key, value)] => stringText key ++ ':' :: compact value
  | (key, value) :: rest => stringText key ++ ':' :: (compact value ++ ',' :: compactMembers rest)

end

/-- A new line, indented by two spaces for each bracket that is open. -/
def newLine (level : Nat) : List Char := '\n' :: List.replicate (2 * level) ' '

mutual

/-- A value on lines of its own inside `level` brackets. -/
def prettyAt (level : Nat) : Json → List Char
  | array [] => ['[', ']']
  | array items => '[' :: prettyItems (level + 1) items ++ newLine level ++ [']']
  | object [] => ['{', '}']
  | object members => '{' :: prettyMembers (level + 1) members ++ newLine level ++ ['}']
  | leaf => leafText leaf

/-- Items on lines of their own, parted by commas. -/
def prettyItems (level : Nat) : List Json → List Char
  | [] => []
  | [item] => newLine level ++ prettyAt level item
  | item :: rest => newLine level ++ prettyAt level item ++ ',' :: prettyItems level rest

/-- Members on lines of their own, parted by commas. -/
def prettyMembers (level : Nat) : List (String × Json) → List Char
  | [] => []
  | [(key, value)] => newLine level ++ stringText key ++ ':' :: ' ' :: prettyAt level value
  | (key, value) :: rest =>
    newLine level ++ stringText key ++ ':' :: ' ' :: (prettyAt level value ++
      ',' :: prettyMembers level rest)

end

/-- A value on lines of its own. -/
def pretty (value : Json) : List Char := prettyAt 0 value

/-- A value as text, in the pretty form or in the compact one. -/
def render (isPretty : Bool) (value : Json) : String :=
  String.ofList (if isPretty then pretty value else compact value)

end TelemetrySpool.Json
