import TelemetrySpool.Proofs.Json.Numeral
import TelemetrySpool.Proofs.Json.Parts

/-!
# Compact text stands on one line

The compact text of a value has no control character: strings escape those that they hold, and
everything else is written in digits, letters, brackets and points. So no line ends inside it,
whatever the strings of the value are.
-/

namespace TelemetrySpool

/-- Text without control characters, which therefore stands on one line. -/
def Text.Inline (text : List Char) : Prop := ∀ c ∈ text, 0x20 ≤ c.toNat

instance (text : List Char) : Decidable (Text.Inline text) :=
  List.decidableBAll (fun c : Char => 0x20 ≤ c.toNat) text

namespace Text.Inline

variable {c : Char} {text text' : List Char}

@[simp] theorem nil : Inline [] := List.forall_mem_nil _

@[simp] theorem cons_iff : Inline (c :: text) ↔ 0x20 ≤ c.toNat ∧ Inline text :=
  List.forall_mem_cons

@[simp] theorem append_iff : Inline (text ++ text') ↔ Inline text ∧ Inline text' :=
  List.forall_mem_append

/-- No control character is part of it. -/
theorem notMem (h : Inline text) (hc : c.toNat < 0x20) : c ∉ text := fun hm =>
  absurd (h c hm) (Nat.not_le.2 hc)

/-- Digits are no control characters. -/
theorem of_isDigit (h : ∀ c ∈ text, c.isDigit) : Inline text := fun c hc => by
  have := (Json.toNat_of_isDigit (h c hc)).1
  omega

end Text.Inline

namespace Json

open Text (Inline)

theorem inline_stringText (text : String) : Inline (stringText text) := fun _ =>
  le_of_mem_stringText

theorem inline_ofInt (n : Int) : Inline (Digits.ofInt n) := by
  have hdigits : Inline (Digits.ofNat n.natAbs) :=
    .of_isDigit fun _ => Digits.isDigit_of_mem_ofNat
  unfold Digits.ofInt
  split
  · exact Inline.cons_iff.2 ⟨by decide, hdigits⟩
  · exact hdigits

theorem inline_doubleText (x : Double) : Inline (doubleText x) := fun c hc => by
  rcases isNumeric_of_mem_doubleText hc with h | h
  · omega
  · omega

/-- A value without brackets has no control character. -/
theorem inline_leafText (j : Json) : Inline (leafText j) := by
  cases j with
  | bool b => cases b <;> decide
  | integer n => exact inline_ofInt n
  | double x =>
    rw [leafText]
    split
    · exact inline_doubleText x
    · decide
  | string text => exact inline_stringText text
  | _ => exact (by decide : Inline "null".toList)

/-- Commas between items are all that is added to them. -/
theorem inline_compactItems {items : List Json} (h : ∀ x ∈ items, Inline (compact x)) :
    Inline (compactItems items) := by
  induction items with
  | nil => exact Inline.nil
  | cons item rest ih =>
    rw [List.forall_mem_cons] at h
    cases rest with
    | nil => exact h.1
    | cons next rest =>
      rw [compactItems, Inline.append_iff, Inline.cons_iff]
      · exact ⟨h.1, by decide, ih h.2⟩
      · exact List.cons_ne_nil _ _

/-- Commas, colons and keys are all that is added to the values of members. -/
theorem inline_compactMembers {members : List (String × Json)}
    (h : ∀ x ∈ members, Inline (compact x.2)) : Inline (compactMembers members) := by
  induction members with
  | nil => exact Inline.nil
  | cons member rest ih =>
    obtain ⟨key, value⟩ := member
    rw [List.forall_mem_cons] at h
    cases rest with
    | nil =>
      rw [compactMembers, Inline.append_iff, Inline.cons_iff]
      exact ⟨inline_stringText key, by decide, h.1⟩
    | cons next rest =>
      rw [compactMembers, Inline.append_iff, Inline.cons_iff, Inline.append_iff, Inline.cons_iff]
      · exact ⟨inline_stringText key, by decide, h.1, by decide, ih h.2⟩
      · exact List.cons_ne_nil _ _

/-- The compact text of a value has no control character. -/
theorem inline_compact (j : Json) : Inline (compact j) := by
  induction j using induct with
  | array items ih =>
    rw [compact, Inline.append_iff, Inline.cons_iff]
    exact ⟨⟨by decide, inline_compactItems ih⟩, by decide⟩
  | object members ih =>
    rw [compact, Inline.append_iff, Inline.cons_iff]
    exact ⟨⟨by decide, inline_compactMembers ih⟩, by decide⟩
  | leaf j ha ho =>
    rw [compact]
    · exact inline_leafText j
    · exact ha
    · exact ho

end Json

end TelemetrySpool
