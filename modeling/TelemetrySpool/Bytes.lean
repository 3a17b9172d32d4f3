/-!
# Octets

Octet strings, the octets of text in UTF-8, and numbers as octets with the lowest first.
-/

namespace TelemetrySpool

/-- A string of octets. -/
abbrev Bytes := List UInt8

namespace Bytes

/-- The octets of a text in UTF-8. -/
def ofText (text : String) : Bytes := text.toByteArray.data.toList

/-- The text of octets that are UTF-8. -/
def toText? (bytes : Bytes) : Option String := String.fromUTF8? ⟨bytes.toArray⟩

/-- The octets of a text spell that text. -/
@[simp]
theorem toText?_ofText (text : String) : toText? (ofText text) = some text := by
  have h : (⟨(ofText text).toArray⟩ : ByteArray) = text.toByteArray := by simp [ofText]
  simp [toText?, String.fromUTF8?, h, text.isValidUTF8, String.fromUTF8]

/-- Octets that spell a text are the octets of that text. -/
theorem eq_ofText_of_toText? {bytes : Bytes} {text : String} (h : toText? bytes = some text) :
    bytes = ofText text := by
  unfold toText? String.fromUTF8? at h
  split at h
  · next hv => simp only [Option.some.injEq] at h; subst h; simp [ofText, String.fromUTF8]
  · simp at h

/-- The lowest `width` octets of a number, the lowest first. -/
def ofNat : Nat → Nat → Bytes
  | 0, _ => []
  | width + 1, n => UInt8.ofNat n :: ofNat width (n / 256)

/-- The number whose octets are given, the lowest first. -/
def toNat : Bytes → Nat
  | [] => 0
  | b :: rest => b.toNat + 256 * toNat rest

/-- A number has as many octets as asked for. -/
@[simp]
theorem length_ofNat (width n : Nat) : (ofNat width n).length = width := by
  induction width generalizing n with
  | zero => rfl
  | succ width ih => simp [ofNat, ih]

/-- A number below a power of 256 is read back from its `width` octets. -/
theorem toNat_ofNat {width n : Nat} (h : n < Nat.pow 256 width) : toNat (ofNat width n) = n := by
  induction width generalizing n with
  | zero => exact (Nat.lt_one_iff.1 h).symm
  | succ width ih =>
    have hd : n / 256 < Nat.pow 256 width := (Nat.div_lt_iff_lt_mul (by decide)).2 h
    simp only [ofNat, toNat, ih hd, UInt8.toNat_ofNat']
    omega

/-- The octets of a number read from `width` octets are those octets. -/
theorem ofNat_toNat (bytes : Bytes) : ofNat bytes.length (toNat bytes) = bytes := by
  induction bytes with
  | nil => rfl
  | cons b rest ih =>
    have hb := b.toNat_lt
    have hq : (b.toNat + 256 * toNat rest) / 256 = toNat rest := by omega
    have hm : UInt8.ofNat (b.toNat + 256 * toNat rest) = b := by
      apply UInt8.toNat_inj.1
      simp only [UInt8.toNat_ofNat']
      omega
    simp only [List.length_cons, ofNat, toNat, hq, hm, ih]

end Bytes

end TelemetrySpool
