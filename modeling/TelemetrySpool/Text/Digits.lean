/-!
# Decimal digits

Natural and whole numbers as decimal text: written without leading zeros, or padded on the left
to a fixed width, and read strictly, from digits alone with at most one sign in front.
-/

namespace TelemetrySpool.Digits

/-- The value of one decimal digit. -/
def value? (c : Char) : Option Nat :=
  if '0' ≤ c ∧ c ≤ '9' then some (c.toNat - '0'.toNat) else none

/-- The number spelled by digits that follow a part already read. -/
def readFrom (acc : Nat) : List Char → Option Nat
  | [] => some acc
  | c :: rest =>
    match value? c with
    | some d => readFrom (10 * acc + d) rest
    | none => none

/-- Reads a natural number: one digit at least, and nothing else. -/
def readNat? : List Char → Option Nat
  | [] => none
  | digits => readFrom 0 digits

/-- Reads a natural number that one plus sign may precede. -/
def readUnsigned? : List Char → Option Nat
  | '+' :: rest => readNat? rest
  | digits => readNat? digits

/-- Reads a whole number that one sign may precede. -/
def readSigned? : List Char → Option Int
  | '-' :: rest => (readNat? rest).map fun (n : Nat) => -(n : Int)
  | digits => (readUnsigned? digits).map fun (n : Nat) => (n : Int)

/-- The decimal digits of a number, without leading zeros. -/
def ofNat (n : Nat) : List Char := Nat.toDigits 10 n

/-- The decimal digits of a number, filled up with zeros on the left to at least `width`. -/
def padded (width n : Nat) : List Char :=
  List.replicate (width - (ofNat n).length) '0' ++ ofNat n

/-- A natural number as decimal text. -/
def text (n : Nat) : String := String.ofList (ofNat n)

/-- A whole number in decimal, with a minus sign when it is negative. -/
def ofInt (n : Int) : List Char :=
  if n < 0 then '-' :: ofNat n.natAbs else ofNat n.natAbs

/-- A decimal digit has its value. -/
theorem value?_of_isDigit {c : Char} (h : c.isDigit) : value? c = some (c.toNat - '0'.toNat) := by
  simp only [Char.isDigit, Bool.and_eq_true, decide_eq_true_eq, ge_iff_le] at h
  simp only [value?, Char.le_def]
  rw [if_pos ⟨h.1, h.2⟩]

/-- Digits go on with the number read so far. -/
theorem readFrom_of_isDigit {digits : List Char} (h : ∀ c ∈ digits, c.isDigit) (acc : Nat) :
    readFrom acc digits = some (Nat.ofDigitChars 10 digits acc) := by
  induction digits generalizing acc with
  | nil => rfl
  | cons c rest ih =>
    have hc := value?_of_isDigit (h c List.mem_cons_self)
    simp only [readFrom, hc, ih fun d hd => h d (List.mem_cons_of_mem _ hd)]
    rfl

/-- The characters of a natural number are digits. -/
theorem isDigit_of_mem_ofNat {n : Nat} {c : Char} (h : c ∈ ofNat n) : c.isDigit :=
  Nat.isDigit_of_mem_toDigits (by decide) (by decide) h

/-- A natural number is read back. -/
theorem readNat?_ofNat (n : Nat) : readNat? (ofNat n) = some n := by
  cases h : ofNat n with
  | nil => exact absurd h Nat.toDigits_ne_nil
  | cons c rest =>
    rw [readNat?, ← h, readFrom_of_isDigit fun _ => isDigit_of_mem_ofNat, ofNat,
      Nat.ofDigitChars_ten_toDigits]
    simp

/-- A natural number is read back where a plus sign may stand. -/
theorem readUnsigned?_ofNat (n : Nat) : readUnsigned? (ofNat n) = some n := by
  have hn := readNat?_ofNat n
  cases h : ofNat n with
  | nil => exact absurd h Nat.toDigits_ne_nil
  | cons c rest =>
    have hc : c.isDigit := isDigit_of_mem_ofNat (n := n) (h ▸ List.mem_cons_self)
    have hp : c ≠ '+' := by rintro rfl; simp at hc
    rw [h] at hn
    rw [readUnsigned?, hn]
    rintro rest' heq
    exact hp (List.cons.inj heq).1

/-- A whole number is read back. -/
theorem readSigned?_ofInt (n : Int) : readSigned? (ofInt n) = some n := by
  unfold ofInt
  split
  · next hn =>
    have ha : -(n.natAbs : Int) = n := by omega
    rw [readSigned?, readNat?_ofNat, Option.map_some, ha]
  · next hp =>
    have ha : (n.natAbs : Int) = n := by omega
    have hn := readUnsigned?_ofNat n.natAbs
    cases h : ofNat n.natAbs with
    | nil => exact absurd h Nat.toDigits_ne_nil
    | cons c rest =>
      have hc : c.isDigit := isDigit_of_mem_ofNat (n := n.natAbs) (h ▸ List.mem_cons_self)
      have hm : c ≠ '-' := by rintro rfl; simp at hc
      rw [h] at hn
      rw [readSigned?, hn, Option.map_some, ha]
      rintro rest' heq
      exact hm (List.cons.inj heq).1

/-- A padded number has the asked width at least. -/
theorem width_le_length_padded (width n : Nat) : width ≤ (padded width n).length := by
  simp only [padded, List.length_append, List.length_replicate]
  omega

end TelemetrySpool.Digits
