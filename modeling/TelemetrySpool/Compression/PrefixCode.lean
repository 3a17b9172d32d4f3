/-!
# Prefix codes

A prefix code is a binary tree with symbols at its leaves; the bits of a word lead from the root to
its symbol. A canonical code is given by the lengths of its words alone: shorter words come first,
and words of one length are in the order of their symbols.
-/

namespace TelemetrySpool.Compression

/-- A prefix code. -/
inductive PrefixCode where
  /-- No word goes this way. -/
  | empty
  /-- A word ends here. -/
  | leaf (symbol : Nat)
  | node (zero one : PrefixCode)
  deriving Repr

namespace PrefixCode

/-- The longest words, in bits. -/
def maxLength : Nat := 15

/-- The code with one more word, the first bit of which is the highest of `word`. -/
def insert (word symbol : Nat) : (length : Nat) → PrefixCode → PrefixCode
  | 0, _ => leaf symbol
  | length + 1, code =>
    let (zero, one) :=
      match code with
      | node zero one => (zero, one)
      | _ => (empty, empty)
    if word.testBit length then node zero (insert word symbol length one)
    else node (insert word symbol length zero) one

/-- The symbols with words of one length, in order. -/
def symbolsOf (lengths : List Nat) (length : Nat) : List Nat :=
  (lengths.zipIdx.filter (·.1 = length)).map (·.2)

/-- The code with the words of `length` bits for some symbols, and the word that comes next. -/
def insertAll (length : Nat) : List Nat → Nat × PrefixCode → Nat × PrefixCode
  | [], state => state
  | symbol :: rest, (word, code) => insertAll length rest (word + 1, insert word symbol length code)

/-- The code with all words of a length; going to the next length adds a bit to the next word. -/
def insertLength (lengths : List Nat) (state : Nat × PrefixCode) (length : Nat) :
    Nat × PrefixCode :=
  insertAll length (symbolsOf lengths length) (2 * state.1, state.2)

/-- The part of all words of `maxLength` bits that words of given lengths take up. -/
def weight : (lengths : List Nat) → Nat
  | [] => 0
  | 0 :: rest => weight rest
  | length :: rest => Nat.pow 2 (maxLength - length) + weight rest

/--
The canonical code of word lengths, where zero stands for no word. The words have to take up
everything, unless there is one word at most.
-/
def ofLengths? (lengths : List Nat) : Option PrefixCode :=
  let used := (lengths.filter (· ≠ 0)).length
  if weight lengths = Nat.pow 2 maxLength ∨ used ≤ 1 then
    some ((List.range' 1 maxLength).foldl (insertLength lengths) (0, empty)).2
  else none

end PrefixCode

end TelemetrySpool.Compression
