import TelemetrySpool.Compression.Inflate

/-!
# Gzip

A gzip file is a sequence of members: a header, a deflated stream, and a footer with the checksum
and the length of the expanded octets. Expanded octets are handed out in pieces while the file is
read, so that a reader with a limit can be over it before a fault behind the limit is found. A fault
holds back the piece that it falls into; inside a deflated stream it holds back a whole window.
-/

namespace TelemetrySpool.Compression

namespace Checksum

/-- The polynomial of the checksum, lowest power last. -/
def polynomial : UInt32 := 0xedb88320

/-- Moves a checksum on by a number of bits. -/
def shift : (count : Nat) → UInt32 → UInt32
  | 0, sum => sum
  | count + 1, sum =>
    shift count (if sum &&& 1 = 1 then (sum >>> 1) ^^^ polynomial else sum >>> 1)

/-- Moves a checksum on by an octet. -/
def add (sum : UInt32) (b : UInt8) : UInt32 := shift 8 (sum ^^^ b.toUInt32)

/-- The cyclic redundancy check of octets. -/
def ofBytes (bytes : Bytes) : UInt32 := ~~~(bytes.foldl add 0xffffffff)

end Checksum

namespace Gzip

/-- How many octets are handed out at a time. -/
def pieceSize : Nat := 4096

/-- How many octets a deflated stream is expanded ahead of what is handed out. -/
def windowSize : Nat := 32768

/-- Drops octets up to the first zero. -/
def skipZeroEnded : Bytes → Except Fault Bytes
  | [] => .error .truncated
  | b :: rest => if b = 0 then .ok rest else skipZeroEnded rest

/-- Drops a number of octets. -/
def skipCount (count : Nat) (bytes : Bytes) : Except Fault Bytes :=
  if bytes.length < count then .error .truncated else .ok (bytes.drop count)

/-- Drops octets whose number stands in front of them. -/
def skipCounted : Bytes → Except Fault Bytes
  | a :: b :: rest => skipCount (a.toNat + 256 * b.toNat) rest
  | _ => .error .truncated

/-- Whether a bit of the flags in a header is set. -/
def hasFlag (flags : UInt8) (bit : Nat) : Bool := flags.toNat.testBit bit

/-- Drops a header with the parts that its flags announce. -/
def skipHeader (bytes : Bytes) : Except Fault Bytes := do
  let rest ← skipCount 10 bytes
  if bytes.take 3 ≠ [0x1f, 0x8b, 0x08] then throw .corrupt
  let flags := bytes.getD 3 0
  let rest ← if hasFlag flags 2 then skipCounted rest else pure rest
  let rest ← if hasFlag flags 3 then skipZeroEnded rest else pure rest
  let rest ← if hasFlag flags 4 then skipZeroEnded rest else pure rest
  if hasFlag flags 1 then skipCount 2 rest else pure rest

/-- Drops a footer, which has to fit the expanded octets. -/
def skipFooter (out bytes : Bytes) : Except Fault Bytes := do
  let rest ← skipCount 8 bytes
  let sum := Bytes.toNat (bytes.take 4)
  let length := Bytes.toNat ((bytes.drop 4).take 4)
  if sum = (Checksum.ofBytes out).toNat ∧ length = out.length % 4294967296 then .ok rest
  else .error .corrupt

/-- What comes of expanding a file. -/
inductive Expansion where
  /-- The expanded octets. -/
  | done (bytes : Bytes)
  /-- How many octets have been handed out before a fault was found. -/
  | broken (count : Nat)
  deriving DecidableEq, Repr

/-- The octets handed out in whole pieces. -/
def wholePieces (count : Nat) : Nat := count / pieceSize * pieceSize

/-- How many octets of a stream are handed out before a fault in it is found. -/
def handedOut (fault : Fault) (count : Nat) : Nat :=
  match fault with
  | .truncated => count
  | .corrupt => count / windowSize * windowSize

/-- Expands members up to the end of the file; `done` holds what has been expanded before. -/
def members : (fuel : Nat) → (done : Bytes) → Bytes → Expansion
  | 0, done, _ => .broken (wholePieces done.length)
  | fuel + 1, done, bytes =>
    match skipHeader bytes with
    | .error _ => .broken (wholePieces done.length)
    | .ok stream =>
      match inflate stream with
      | (.error fault, out) =>
        .broken (wholePieces (done.length + handedOut fault out.length))
      | (.ok footer, out) =>
        match skipFooter out footer with
        | .error _ => .broken (wholePieces (done.length + out.length))
        | .ok [] => .done (done ++ out)
        | .ok rest => members fuel (done ++ out) rest

/-- Expands a file. -/
def expand (bytes : Bytes) : Expansion := members (bytes.length + 1) [] bytes

end Gzip

end TelemetrySpool.Compression
