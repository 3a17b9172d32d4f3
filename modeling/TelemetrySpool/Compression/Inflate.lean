import TelemetrySpool.Bytes
import TelemetrySpool.Compression.PrefixCode

/-!
# Inflating

A deflated stream is a sequence of blocks of bits, the lowest bit of each octet first. A block holds
octets as they are, or words of two prefix codes: one for octets and lengths, and one for the
distances at which that many octets of the output are repeated. The codes are fixed, or stand in
front of the block in a code of their own.
-/

namespace TelemetrySpool.Compression

/-- Why compressed octets cannot be expanded. -/
inductive Fault where
  /-- The octets end too early. -/
  | truncated
  /-- The octets are no compressed stream. -/
  | corrupt
  deriving DecidableEq, Repr

/-- Octets that are read bit by bit. -/
structure Bits where
  /-- The bits left over of the last octet read, lowest first. -/
  held : Nat := 0
  /-- How many bits are left over. -/
  count : Nat := 0
  /-- The octets not read yet. -/
  rest : Bytes
  deriving Repr

namespace Bits

/-- Reads the next bit. -/
def next (bits : Bits) : Except Fault (Nat × Bits) :=
  match bits.count with
  | count + 1 => .ok (bits.held % 2, ⟨bits.held / 2, count, bits.rest⟩)
  | 0 =>
    match bits.rest with
    | [] => .error .truncated
    | b :: rest => .ok (b.toNat % 2, ⟨b.toNat / 2, 7, rest⟩)

/-- Reads a number of given width, its lowest bit first. -/
def number : (width : Nat) → Bits → Except Fault (Nat × Bits)
  | 0, bits => .ok (0, bits)
  | width + 1, bits => do
    let (low, bits) ← bits.next
    let (high, bits) ← number width bits
    .ok (low + 2 * high, bits)

/-- Drops the bits left over of the last octet. -/
def aligned (bits : Bits) : Bits := ⟨0, 0, bits.rest⟩

/-- Reads a symbol of a prefix code. -/
def symbol : PrefixCode → Bits → Except Fault (Nat × Bits)
  | .empty, _ => .error .corrupt
  | .leaf symbol, bits => .ok (symbol, bits)
  | .node zero one, bits => do
    let (bit, bits) ← bits.next
    if bit = 0 then symbol zero bits else symbol one bits

end Bits

namespace Inflate

/-- The output so far. -/
abbrev Output := Array UInt8

/-- The least length, and the number of further bits, that the symbols from 257 on stand for. -/
def lengthTable : Array (Nat × Nat) :=
  #[(3, 0), (4, 0), (5, 0), (6, 0), (7, 0), (8, 0), (9, 0), (10, 0), (11, 1), (13, 1), (15, 1),
    (17, 1), (19, 2), (23, 2), (27, 2), (31, 2), (35, 3), (43, 3), (51, 3), (59, 3), (67, 4),
    (83, 4), (99, 4), (115, 4), (131, 5), (163, 5), (195, 5), (227, 5), (258, 0)]

/-- The least distance, and the number of further bits, that symbols stand for. -/
def distanceTable : Array (Nat × Nat) :=
  #[(1, 0), (2, 0), (3, 0), (4, 0), (5, 1), (7, 1), (9, 2), (13, 2), (17, 3), (25, 3), (33, 4),
    (49, 4), (65, 5), (97, 5), (129, 6), (193, 6), (257, 7), (385, 7), (513, 8), (769, 8),
    (1025, 9), (1537, 9), (2049, 10), (3073, 10), (4097, 11), (6145, 11), (8193, 12), (12289, 12),
    (16385, 13), (24577, 13)]

/-- Reads the number that an entry of a table and its further bits stand for. -/
def tableNumber (table : Array (Nat × Nat)) (index : Nat) (bits : Bits) :
    Except Fault (Nat × Bits) :=
  match table[index]? with
  | none => .error .corrupt
  | some (least, width) => do
    let (more, bits) ← bits.number width
    .ok (least + more, bits)

/-- Repeats octets that stand `distance` before the end of the output. -/
def repeated (distance : Nat) : (length : Nat) → Output → Output
  | 0, out => out
  | length + 1, out => repeated distance length (out.push (out.getD (out.size - distance) 0))

/-- What one symbol of a block does to the output; none if it ends the block. -/
def step (literals distances : PrefixCode) (bits : Bits) (out : Output) :
    Except Fault (Bits × Option Output) := do
  let (symbol, bits) ← Bits.symbol literals bits
  if symbol < 256 then .ok (bits, some (out.push (UInt8.ofNat symbol)))
  else if symbol = 256 then .ok (bits, none)
  else do
    let (length, bits) ← tableNumber lengthTable (symbol - 257) bits
    let (index, bits) ← Bits.symbol distances bits
    let (distance, bits) ← tableNumber distanceTable index bits
    if distance ≤ out.size then .ok (bits, some (repeated distance length out))
    else .error .corrupt

/-- Expands a block of symbols. Whatever ends the work, the output up to there is handed back. -/
def symbols (literals distances : PrefixCode) :
    (fuel : Nat) → Bits → Output → Except Fault Bits × Output
  | 0, _, out => (.error .truncated, out)
  | fuel + 1, bits, out =>
    match step literals distances bits out with
    | .error fault => (.error fault, out)
    | .ok (bits, none) => (.ok bits, out)
    | .ok (bits, some out) => symbols literals distances fuel bits out

/-- Expands a block of octets that stand as they are. -/
def stored (bits : Bits) (out : Output) : Except Fault Bits × Output :=
  match bits.aligned.rest with
  | a :: b :: c :: d :: rest =>
    let length := a.toNat + 256 * b.toNat
    if length + (c.toNat + 256 * d.toNat) ≠ 65535 then (.error .corrupt, out)
    else
      let out := out ++ (rest.take length).toArray
      if rest.length < length then (.error .truncated, out)
      else (.ok { rest := rest.drop length }, out)
  | _ => (.error .truncated, out)

/-- The word lengths of the fixed code of octets and lengths. -/
def fixedLiterals : List Nat :=
  List.replicate 144 8 ++ List.replicate 112 9 ++ List.replicate 24 7 ++ List.replicate 8 8

/-- The word lengths of the fixed code of distances. -/
def fixedDistances : List Nat := List.replicate 32 5

/-- The order in which the lengths of the words for word lengths are given. -/
def orderOfLengths : List Nat :=
  [16, 17, 18, 0, 8, 7, 9, 6, 10, 5, 11, 4, 12, 3, 13, 2, 14, 1, 15]

/-- Reads several numbers of three bits. -/
def smallNumbers : (count : Nat) → Bits → Except Fault (List Nat × Bits)
  | 0, bits => .ok ([], bits)
  | count + 1, bits => do
    let (first, bits) ← bits.number 3
    let (others, bits) ← smallNumbers count bits
    .ok (first :: others, bits)

/-- Reads the word lengths of a block, of which `total` are given; the last one read comes first. -/
def wordLengths (code : PrefixCode) (total : Nat) :
    (fuel : Nat) → List Nat → Bits → Except Fault (List Nat × Bits)
  | 0, _, _ => .error .corrupt
  | fuel + 1, lengths, bits =>
    if total < lengths.length then .error .corrupt
    else if lengths.length = total then .ok (lengths, bits)
    else do
      let (symbol, bits) ← Bits.symbol code bits
      match symbol, lengths with
      | 16, [] => .error .corrupt
      | 16, last :: _ => do
        let (more, bits) ← bits.number 2
        wordLengths code total fuel (List.replicate (3 + more) last ++ lengths) bits
      | 17, _ => do
        let (more, bits) ← bits.number 3
        wordLengths code total fuel (List.replicate (3 + more) 0 ++ lengths) bits
      | 18, _ => do
        let (more, bits) ← bits.number 7
        wordLengths code total fuel (List.replicate (11 + more) 0 ++ lengths) bits
      | length, _ => wordLengths code total fuel (length :: lengths) bits

/-- The code of word lengths, or the fault that they make up none. -/
def codeOf (lengths : List Nat) : Except Fault PrefixCode :=
  (PrefixCode.ofLengths? lengths).elim (.error .corrupt) .ok

/-- Reads the two codes that stand in front of a block. -/
def codes (bits : Bits) : Except Fault (PrefixCode × PrefixCode × Bits) := do
  let (moreLiterals, bits) ← bits.number 5
  let (moreDistances, bits) ← bits.number 5
  let (moreLengths, bits) ← bits.number 4
  let (small, bits) ← smallNumbers (4 + moreLengths) bits
  let lengths := (List.range 19).map fun symbol =>
    small.getD (orderOfLengths.idxOf symbol) 0
  let code ← codeOf lengths
  let total := 258 + moreLiterals + moreDistances
  let (reversed, bits) ← wordLengths code total (total + 1) [] bits
  let all := reversed.reverse
  let literals ← codeOf (all.take (257 + moreLiterals))
  let distances ← codeOf (all.drop (257 + moreLiterals))
  .ok (literals, distances, bits)

/-- Expands a block behind its first bit. -/
def block (bits : Bits) (out : Output) : Except Fault Bits × Output :=
  match bits.number 2 with
  | .error fault => (.error fault, out)
  | .ok (0, bits) => stored bits out
  | .ok (1, bits) =>
    match codeOf fixedLiterals, codeOf fixedDistances with
    | .ok literals, .ok distances =>
      symbols literals distances (8 * bits.rest.length + 9) bits out
    | _, _ => (.error .corrupt, out)
  | .ok (2, bits) =>
    match codes bits with
    | .error fault => (.error fault, out)
    | .ok (literals, distances, bits) =>
      symbols literals distances (8 * bits.rest.length + 9) bits out
  | .ok _ => (.error .corrupt, out)

/-- Expands blocks up to the last one. -/
def blocks : (fuel : Nat) → Bits → Output → Except Fault Bits × Output
  | 0, _, out => (.error .truncated, out)
  | fuel + 1, bits, out =>
    match bits.next with
    | .error fault => (.error fault, out)
    | .ok (isLast, bits) =>
      match block bits out with
      | (.ok bits, out) => if isLast = 1 then (.ok bits, out) else blocks fuel bits out
      | failed => failed

end Inflate

/-- Expands a deflated stream: what follows it, or why it has no end, and the output up to there. -/
def inflate (bytes : Bytes) : Except Fault Bytes × Bytes :=
  match Inflate.blocks (8 * bytes.length + 1) { rest := bytes } #[] with
  | (.ok bits, out) => (.ok bits.rest, out.toList)
  | (.error fault, out) => (.error fault, out.toList)

end TelemetrySpool.Compression
