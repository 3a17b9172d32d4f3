import TelemetrySpool.Bytes

/-!
# Legible octets

Octets that need not be UTF-8, as text that can be shown: what spells a character is kept, and one
mark stands for every octet that starts no character and for every character that breaks off.
-/

namespace TelemetrySpool.Bytes

/-- The mark that stands for octets that spell nothing. -/
def mark : String := "\ufffd"

/-- How many octets a character with this first octet has, and the bounds of its second one. -/
def opening? (b : UInt8) : Option (Nat × UInt8 × UInt8) :=
  if b < 0x80 then some (1, 0, 0)
  else if b < 0xc2 then none
  else if b < 0xe0 then some (2, 0x80, 0xbf)
  else if b = 0xe0 then some (3, 0xa0, 0xbf)
  else if b = 0xed then some (3, 0x80, 0x9f)
  else if b < 0xf0 then some (3, 0x80, 0xbf)
  else if b = 0xf0 then some (4, 0x90, 0xbf)
  else if b < 0xf4 then some (4, 0x80, 0xbf)
  else if b = 0xf4 then some (4, 0x80, 0x8f)
  else none

/-- Whether an octet goes on with a character. -/
def goesOn (b : UInt8) : Bool := 0x80 ≤ b && b ≤ 0xbf

/-- How many octets after the first one `b` belong to its character, and whether that is whole. -/
def attached (b : UInt8) (rest : Bytes) : Nat × Bool :=
  match opening? b, rest with
  | none, _ => (0, false)
  | some (1, _, _), _ => (0, true)
  | some _, [] => (0, false)
  | some (count, low, high), c :: rest =>
    if low ≤ c ∧ c ≤ high then
      let more := ((rest.take (count - 2)).takeWhile goesOn).length
      (1 + more, 2 + more = count)
    else (0, false)

/-- The pieces of legible text that octets give, after those already made, in reverse. -/
def legiblePieces (made : List String) : Bytes → List String
  | [] => made
  | b :: rest =>
    let (count, whole) := attached b rest
    let piece := if whole then (toText? (b :: rest.take count)).getD mark else mark
    legiblePieces (piece :: made) (rest.drop count)
termination_by bytes => bytes.length
decreasing_by simp only [List.length_drop, List.length_cons]; omega

/-- Octets as text that can be shown. -/
def legible (bytes : Bytes) : String :=
  match toText? bytes with
  | some text => text
  | none => String.join (legiblePieces [] bytes).reverse

/-- Text in UTF-8 is shown as it is. -/
theorem legible_ofText (text : String) : legible (ofText text) = text := by
  simp [legible]

end TelemetrySpool.Bytes
