import TelemetrySpool.Bytes

/-!
# Octets of characters

A character below 128 is one octet, its own number. Every octet of another character is 128 at
least, so that no octet of one is taken for a character of the other kind.
-/

namespace TelemetrySpool.Utf8

/-- The octets of characters. -/
def octets (text : List Char) : Bytes := text.flatMap String.utf8EncodeChar

@[simp] theorem octets_nil : octets [] = [] := rfl

@[simp] theorem octets_append (s t : List Char) : octets (s ++ t) = octets s ++ octets t :=
  List.flatMap_append

theorem octets_cons (c : Char) (t : List Char) :
    octets (c :: t) = String.utf8EncodeChar c ++ octets t := List.flatMap_cons

/-- The octets of a text are those of its characters. -/
theorem ofText_ofList (text : List Char) : Bytes.ofText (String.ofList text) = octets text := by
  rw [Bytes.ofText, String.toByteArray_ofList, List.utf8Encode, List.data_toByteArray]
  rfl

theorem ofText_eq (text : String) : Bytes.ofText text = octets text.toList := by
  rw [← ofText_ofList, String.ofList_toList]

theorem encodeChar_of_lt {c : Char} (h : c.toNat < 128) :
    String.utf8EncodeChar c = [UInt8.ofNat c.toNat] := by
  have hc : c.val.toNat ≤ 127 := Nat.le_of_lt_succ h
  rw [String.utf8EncodeChar, if_pos hc]
  rfl

/-- An octet that stands for a character below 128. -/
theorem octets_cons_of_lt {c : Char} (h : c.toNat < 128) (t : List Char) :
    octets (c :: t) = UInt8.ofNat c.toNat :: octets t := by
  rw [octets_cons, encodeChar_of_lt h, List.singleton_append]

/-- No octet of a character from 128 on looks like a character below. -/
theorem le_of_mem_encodeChar {c : Char} (h : 128 ≤ c.toNat) {b : UInt8}
    (hb : b ∈ String.utf8EncodeChar c) : 128 ≤ b.toNat := by
  have hc : ¬ c.val.toNat ≤ 127 := Nat.not_le_of_lt h
  rw [String.utf8EncodeChar, if_neg hc] at hb
  split at hb
  · simp only [List.mem_cons, List.not_mem_nil, or_false] at hb
    rcases hb with rfl | rfl <;> simp <;> omega
  · split at hb
    · simp only [List.mem_cons, List.not_mem_nil, or_false] at hb
      rcases hb with rfl | rfl | rfl <;> simp <;> omega
    · simp only [List.mem_cons, List.not_mem_nil, or_false] at hb
      rcases hb with rfl | rfl | rfl | rfl <;> simp <;> omega

/-- Characters below 128 have as many octets. -/
theorem octets_of_lt {text : List Char} (h : ∀ c ∈ text, c.toNat < 128) :
    octets text = text.map fun c => UInt8.ofNat c.toNat := by
  induction text with
  | nil => rfl
  | cons c rest ih =>
    rw [List.forall_mem_cons] at h
    rw [octets_cons_of_lt h.1, ih h.2, List.map_cons]

end TelemetrySpool.Utf8
