import TelemetrySpool.Json.Reader
import TelemetrySpool.Json.Writer
import TelemetrySpool.Proofs.Text.Utf8

/-!
# Numerals read back

A numeral ends where the document goes on, so what follows it makes no difference. Whole numbers of
sixty-four bits are read back from their digits. Of the text of a double only its characters are
known here: whether it is read back is decided for the numeral alone and carries over to documents.
-/

namespace TelemetrySpool.Json

open Utf8 (octets)

/-- Whether a document can go on like this after a value. -/
def Ends (rest : Bytes) : Prop :=
  ∀ b ∈ rest.head?, b = 0x20 ∨ b = 0x0a ∨ b = 0x2c ∨ b = 0x5d ∨ b = 0x7d

/-- A text may end with its numeral. -/
theorem ends_nil : Ends [] := nofun

/-- Behind a numeral stands a space, a line end, a comma or a closing bracket. -/
theorem Ends.head {b : UInt8} {rest : Bytes} (h : Ends (b :: rest)) :
    b = 0x20 ∨ b = 0x0a ∨ b = 0x2c ∨ b = 0x5d ∨ b = 0x7d := h b rfl

/-- Digits stop where the document goes on. -/
theorem digits_append {rest : Bytes} (h : Ends rest) (read : List Nat) (bytes : Bytes) :
    digits read (bytes ++ rest) = ((digits read bytes).1, (digits read bytes).2 ++ rest) := by
  induction bytes generalizing read with
  | nil =>
    cases rest with
    | nil => rfl
    | cons b rest =>
      have hb : digitValue? b = none := by
        rcases h.head with rfl | rfl | rfl | rfl | rfl <;> decide
      simp only [List.nil_append, digits, hb]
  | cons b bytes ih =>
    simp only [List.cons_append, digits]
    cases digitValue? b with
    | none => rfl
    | some d => exact ih (d :: read)

/-- Some digits are digits, and not none. -/
theorem someDigits_eq_some {bytes r : Bytes} {ds : List Nat} :
    someDigits bytes = some (ds, r) ↔ digits [] bytes = (ds, r) ∧ ds ≠ [] := by
  rw [someDigits]
  split
  · next r' h =>
    rw [h]
    constructor
    · nofun
    · rintro ⟨he, hne⟩
      exact absurd (congrArg Prod.fst he).symm hne
  · next hne =>
    rw [Option.some.injEq]
    constructor
    · intro h
      refine ⟨h, ?_⟩
      rintro rfl
      exact hne r h
    · exact fun h => h.1

/-- Digits are read as far as they go, whatever may follow a numeral. -/
theorem someDigits_append {rest : Bytes} (hr : Ends rest) {bytes r : Bytes} {ds : List Nat}
    (h : someDigits bytes = some (ds, r)) : someDigits (bytes ++ rest) = some (ds, r ++ rest) := by
  rw [someDigits_eq_some] at h ⊢
  rw [digits_append hr, h.1]
  exact ⟨rfl, h.2⟩

/-- A whole part has no zero before another digit. -/
theorem wholePart_eq_some {bytes r : Bytes} {ds : List Nat} :
    wholePart bytes = some (ds, r) ↔
      someDigits bytes = some (ds, r) ∧ ∀ d rest, ds ≠ 0 :: d :: rest := by
  rw [wholePart]
  split
  · next d rest r' h =>
    rw [h]
    constructor
    · nofun
    · rintro ⟨he, hne⟩
      cases he
      exact absurd rfl (hne d rest)
  · next hne =>
    constructor
    · intro h
      refine ⟨h, ?_⟩
      rintro d rest rfl
      exact hne d rest r h
    · exact fun h => h.1

/-- A whole part is read the same before what may follow a numeral. -/
theorem wholePart_append {rest : Bytes} (hr : Ends rest) {bytes r : Bytes} {ds : List Nat}
    (h : wholePart bytes = some (ds, r)) : wholePart (bytes ++ rest) = some (ds, r ++ rest) := by
  rw [wholePart_eq_some] at h ⊢
  exact ⟨someDigits_append hr h.1, h.2⟩

/-- A document does not go on with a fraction. -/
theorem fractionPart_of_ends {rest : Bytes} (h : Ends rest) :
    fractionPart rest = some (none, rest) := by
  cases rest with
  | nil => rfl
  | cons b rest =>
    rw [fractionPart]
    rintro r he
    cases he
    exact absurd h.head (by decide)

/-- So is a fraction. -/
theorem fractionPart_append {rest : Bytes} (hr : Ends rest) {bytes r : Bytes}
    {fraction : Option (List Nat)} (h : fractionPart bytes = some (fraction, r)) :
    fractionPart (bytes ++ rest) = some (fraction, r ++ rest) := by
  cases bytes with
  | nil =>
    cases h
    exact fractionPart_of_ends hr
  | cons b bytes =>
    by_cases hb : b = 0x2e
    · subst hb
      rw [fractionPart, Option.map_eq_some_iff] at h
      obtain ⟨⟨ds, r'⟩, hd, he⟩ := h
      cases he
      rw [List.cons_append, fractionPart, someDigits_append hr hd]
      rfl
    · have hne : ∀ t, fractionPart (b :: t) = some (none, b :: t) := by
        intro t
        rw [fractionPart]
        rintro r' he
        exact hb (List.cons.inj he).1
      rw [hne] at h
      cases h
      rw [List.cons_append, hne]

/-- A document does not go on with an exponent. -/
theorem exponentPart_of_ends {rest : Bytes} (h : Ends rest) :
    exponentPart rest = some (none, rest) := by
  cases rest with
  | nil => rfl
  | cons b rest =>
    have hb : ¬ (b = 0x65 ∨ b = 0x45) := by
      rcases h.head with rfl | rfl | rfl | rfl | rfl <;> decide
    rw [exponentPart, if_neg hb]

/-- And the sign of an exponent, if there is anything behind it. -/
theorem exponentSign_append {bytes : Bytes} (h : bytes ≠ []) (rest : Bytes) :
    exponentSign (bytes ++ rest) = ((exponentSign bytes).1, (exponentSign bytes).2 ++ rest) := by
  obtain ⟨b, bytes, rfl⟩ := List.exists_cons_of_ne_nil h
  by_cases hm : b = 0x2d
  · subst hm
    rfl
  by_cases hp : b = 0x2b
  · subst hp
    rfl
  have hne : ∀ t, exponentSign (b :: t) = (false, b :: t) := by
    intro t
    rw [exponentSign]
    · rintro r he
      exact hm (List.cons.inj he).1
    · rintro r he
      exact hp (List.cons.inj he).1
  rw [List.cons_append, hne, hne]
  rfl

/-- And an exponent. -/
theorem exponentPart_append {rest : Bytes} (hr : Ends rest) {bytes r : Bytes}
    {exponent : Option (Bool × List Nat)} (h : exponentPart bytes = some (exponent, r)) :
    exponentPart (bytes ++ rest) = some (exponent, r ++ rest) := by
  cases bytes with
  | nil =>
    cases h
    exact exponentPart_of_ends hr
  | cons b bytes =>
    by_cases hb : b = 0x65 ∨ b = 0x45
    · rw [exponentPart, if_pos hb, Option.map_eq_some_iff] at h
      obtain ⟨⟨ds, r'⟩, hd, he⟩ := h
      cases he
      have hne : bytes ≠ [] := by
        rintro rfl
        cases hd
      rw [List.cons_append, exponentPart, if_pos hb, exponentSign_append hne]
      simp only [someDigits_append hr hd, Option.map_some]
    · rw [exponentPart, if_neg hb] at h
      cases h
      rw [List.cons_append, exponentPart, if_neg hb]

/-- What follows a numeral makes no difference to it. -/
theorem numeral_append {rest : Bytes} (hr : Ends rest) {negative : Bool} {bytes r : Bytes}
    {n : Numeral} (h : numeral negative bytes = some (n, r)) :
    numeral negative (bytes ++ rest) = some (n, r ++ rest) := by
  simp only [numeral, Option.bind_eq_bind, Option.bind_eq_some_iff, Prod.exists] at h
  obtain ⟨whole, b₁, h₁, fraction, b₂, h₂, exponent, b₃, h₃, he⟩ := h
  cases he
  simp only [numeral, wholePart_append hr h₁, fractionPart_append hr h₂, exponentPart_append hr h₃,
    Option.bind_eq_bind, Option.bind_some]

/-- Reading digits leaves an end of the text. -/
theorem digits_suffix (read : List Nat) (bytes : Bytes) : (digits read bytes).2 <:+ bytes := by
  induction bytes generalizing read with
  | nil => exact List.suffix_refl _
  | cons b bytes ih =>
    rw [digits]
    cases digitValue? b with
    | none => exact List.suffix_refl _
    | some d => exact (ih (d :: read)).trans (List.suffix_cons b bytes)

theorem someDigits_suffix {bytes r : Bytes} {ds : List Nat} (h : someDigits bytes = some (ds, r)) :
    r <:+ bytes := by
  have hd := (someDigits_eq_some.1 h).1
  have hs := digits_suffix [] bytes
  rwa [hd] at hs

theorem fractionPart_suffix {bytes r : Bytes} {fraction : Option (List Nat)}
    (h : fractionPart bytes = some (fraction, r)) : r <:+ bytes := by
  rw [fractionPart.eq_def] at h
  split at h
  · obtain ⟨⟨ds, r'⟩, hd, he⟩ := Option.map_eq_some_iff.1 h
    cases he
    exact (someDigits_suffix hd).trans (List.suffix_cons _ _)
  · cases h
    exact List.suffix_refl _

theorem exponentSign_suffix (bytes : Bytes) : (exponentSign bytes).2 <:+ bytes := by
  rw [exponentSign.eq_def]
  split
  · exact List.suffix_cons _ _
  · exact List.suffix_cons _ _
  · exact List.suffix_refl _

theorem exponentPart_suffix {bytes r : Bytes} {exponent : Option (Bool × List Nat)}
    (h : exponentPart bytes = some (exponent, r)) : r <:+ bytes := by
  cases bytes with
  | nil =>
    cases h
    exact List.suffix_refl _
  | cons b bytes =>
    rw [exponentPart] at h
    split at h
    · obtain ⟨⟨ds, r'⟩, hd, he⟩ := Option.map_eq_some_iff.1 h
      cases he
      exact (someDigits_suffix hd).trans
        ((exponentSign_suffix bytes).trans (List.suffix_cons b bytes))
    · cases h
      exact List.suffix_refl _

/-- A numeral leaves an end of the document. -/
theorem numeral_suffix {negative : Bool} {bytes r : Bytes} {n : Numeral}
    (h : numeral negative bytes = some (n, r)) : r <:+ bytes := by
  simp only [numeral, Option.bind_eq_bind, Option.bind_eq_some_iff, Prod.exists] at h
  obtain ⟨whole, b₁, h₁, fraction, b₂, h₂, exponent, b₃, h₃, he⟩ := h
  cases he
  exact (exponentPart_suffix h₃).trans ((fractionPart_suffix h₂).trans
    (someDigits_suffix (wholePart_eq_some.1 h₁).1))

/-- The values of the digits of a natural number. -/
def digitValues (text : List Char) : List Nat := text.map fun c => c.toNat - '0'.toNat

/-- A digit lies between the codes of 0 and 9. -/
theorem toNat_of_isDigit {c : Char} (h : c.isDigit) : 48 ≤ c.toNat ∧ c.toNat ≤ 57 := by
  simp only [Char.isDigit, Bool.and_eq_true, decide_eq_true_eq, ge_iff_le, UInt32.le_iff_toNat_le]
    at h
  exact h

/-- A digit that was written is read as its value. -/
theorem digitValue?_of_isDigit {c : Char} (h : c.isDigit) :
    digitValue? (UInt8.ofNat c.toNat) = some (c.toNat - '0'.toNat) := by
  have hc := toNat_of_isDigit h
  have hn : (UInt8.ofNat c.toNat).toNat = c.toNat := by
    rw [UInt8.toNat_ofNat']
    omega
  have hle : (0x30 : UInt8) ≤ UInt8.ofNat c.toNat ∧ UInt8.ofNat c.toNat ≤ 0x39 := by
    rw [UInt8.le_iff_toNat_le, UInt8.le_iff_toNat_le, hn]
    exact hc
  rw [digitValue?, if_pos hle, hn]
  rfl

/-- A text of digits is read whole. -/
theorem digits_octets {text : List Char} (h : ∀ c ∈ text, c.isDigit) (read : List Nat) :
    digits read (octets text) = (read.reverse ++ digitValues text, []) := by
  induction text generalizing read with
  | nil => simp [digits, digitValues]
  | cons c rest ih =>
    rw [List.forall_mem_cons] at h
    have hlt : c.toNat < 128 := by
      have hc := toNat_of_isDigit h.1
      omega
    rw [Utf8.octets_cons_of_lt hlt, digits, digitValue?_of_isDigit h.1]
    show digits _ (octets rest) = _
    rw [ih h.2]
    simp [digitValues]

/-- Only zero is written with a leading zero. -/
theorem eq_zero_of_ofNat_eq_cons {n : Nat} {rest : List Char} (h : Digits.ofNat n = '0' :: rest) :
    n = 0 := by
  induction n using Nat.strongRecOn generalizing rest with
  | ind n ih =>
    rw [Digits.ofNat, Nat.toDigits_eq_if (by decide)] at h
    split at h
    · next hlt =>
      have all : ∀ m ∈ List.range 10, Nat.digitChar m = '0' → m = 0 := by decide
      exact all n (List.mem_range.2 hlt) (List.cons.inj h).1
    · next hle =>
      have hnil : Nat.toDigits 10 (n / 10) ≠ [] := Nat.toDigits_ne_nil
      obtain ⟨c, front, hc⟩ := List.exists_cons_of_ne_nil hnil
      rw [hc, List.cons_append] at h
      have hfront : Digits.ofNat (n / 10) = '0' :: front := by
        rw [Digits.ofNat, hc, (List.cons.inj h).1]
      have hz := ih (n / 10) (by omega) hfront
      omega

/-- Digits stand for the number that they were written for. -/
theorem digitsValue_digitValues (text : List Char) :
    Numeral.digitsValue (digitValues text) = Nat.ofDigitChars 10 text 0 := by
  rw [Numeral.digitsValue, digitValues, List.foldl_map]
  rfl

/-- The digits of a natural number are read as a numeral without fraction and exponent. -/
theorem numeral_ofNat (negative : Bool) (n : Nat) : numeral negative (octets (Digits.ofNat n)) =
    some (⟨negative, digitValues (Digits.ofNat n), none, none⟩, []) := by
  have hd : digits [] (octets (Digits.ofNat n)) = (digitValues (Digits.ofNat n), []) :=
    digits_octets (fun _ => Digits.isDigit_of_mem_ofNat) []
  have hne : digitValues (Digits.ofNat n) ≠ [] := by
    rw [digitValues, ne_eq, List.map_eq_nil_iff]
    exact Nat.toDigits_ne_nil
  have hz : ∀ d rest, digitValues (Digits.ofNat n) ≠ 0 :: d :: rest := by
    intro d rest h
    have hnil : Digits.ofNat n ≠ [] := Nat.toDigits_ne_nil
    obtain ⟨c, text, ht⟩ := List.exists_cons_of_ne_nil hnil
    have hc : 48 ≤ c.toNat ∧ c.toNat ≤ 57 :=
      toNat_of_isDigit (Digits.isDigit_of_mem_ofNat (n := n) (ht ▸ List.mem_cons_self))
    have hv : c.toNat - 48 = 0 := (List.cons.inj ((congrArg digitValues ht).symm.trans h)).1
    have hc0 : c.toNat = '0'.toNat := Nat.le_antisymm (Nat.le_of_sub_eq_zero hv) hc.1
    rw [Char.toNat_inj.1 hc0] at ht
    rw [eq_zero_of_ofNat_eq_cons ht] at h
    have h0 : digitValues (Digits.ofNat 0) = [0] := by decide
    rw [h0] at h
    cases h
  have hw : wholePart (octets (Digits.ofNat n)) = some (digitValues (Digits.ofNat n), []) :=
    wholePart_eq_some.2 ⟨someDigits_eq_some.2 ⟨hd, hne⟩, hz⟩
  simp only [numeral, hw, fractionPart, exponentPart, Option.bind_eq_bind, Option.bind_some]

/-- The whole numbers that numerals stand for: those of sixty-four bits, with sign or without. -/
def IsWord (n : Int) : Prop := -9223372036854775808 ≤ n ∧ n ≤ 18446744073709551615

/-- Natural numbers of sixty-four bits are read back. -/
theorem toJson_natural {n : Nat} (h : n < Numeral.limit) :
    (⟨false, digitValues (Digits.ofNat n), none, none⟩ : Numeral).toJson = .integer n := by
  have hv : Numeral.digitsValue (digitValues (Digits.ofNat n)) = n := by
    rw [digitsValue_digitValues, Digits.ofNat, Nat.ofDigitChars_ten_toDigits]
  simp [Numeral.toJson, Numeral.integer?, hv, h]

/-- Negative numbers of sixty-four bits are read back. -/
theorem toJson_negative {n : Nat} (h : 0 < n ∧ n ≤ Numeral.limit / 2) :
    (⟨true, digitValues (Digits.ofNat n), none, none⟩ : Numeral).toJson = .integer (-n) := by
  have hv : Numeral.digitsValue (digitValues (Digits.ofNat n)) = n := by
    rw [digitsValue_digitValues, Digits.ofNat, Nat.ofDigitChars_ten_toDigits]
  simp [Numeral.toJson, Numeral.integer?, hv, h]

/-- The numbers of the characters that numerals are made of, and of two others. -/
def IsNumeric (n : Nat) : Prop := 0x2b ≤ n ∧ n ≤ 0x39 ∨ n = 0x65

instance (n : Nat) : Decidable (IsNumeric n) :=
  inferInstanceAs (Decidable (0x2b ≤ n ∧ n ≤ 0x39 ∨ n = 0x65))

/-- A text of numeric characters has numeric octets. -/
theorem isNumeric_of_mem_octets {text : List Char} (h : ∀ c ∈ text, IsNumeric c.toNat) :
    ∀ b ∈ octets text, IsNumeric b.toNat := by
  have hlt : ∀ c ∈ text, c.toNat < 128 := by
    intro c hc
    rcases h c hc with hr | hr
    · omega
    · omega
  intro b hb
  rw [Utf8.octets_of_lt hlt, List.mem_map] at hb
  obtain ⟨c, hc, rfl⟩ := hb
  have hn : (UInt8.ofNat c.toNat).toNat = c.toNat := by
    rw [UInt8.toNat_ofNat']
    have := hlt c hc
    omega
  rw [hn]
  exact h c hc

theorem isNumeric_of_isDigit {c : Char} (h : c.isDigit) : IsNumeric c.toNat := by
  have hc := toNat_of_isDigit h
  left
  omega

theorem isNumeric_of_mem_ofNat {n : Nat} {c : Char} (h : c ∈ Digits.ofNat n) :
    IsNumeric c.toNat :=
  isNumeric_of_isDigit (Digits.isDigit_of_mem_ofNat h)

theorem isNumeric_of_mem_significantDigits {d : Decimal} {c : Char}
    (h : c ∈ d.significantDigits) : IsNumeric c.toNat := by
  rw [Decimal.significantDigits, Text.trimEnd, List.mem_reverse] at h
  have hr := (List.dropWhile_sublist _).subset h
  exact isNumeric_of_mem_ofNat (List.mem_reverse.1 hr)

/-- A decimal is printed in numeric characters. -/
theorem isNumeric_of_mem_decimalText (d : Decimal) : ∀ c ∈ decimalText d, IsNumeric c.toNat := by
  have hdigits : ∀ x ∈ d.significantDigits, IsNumeric x.toNat :=
    fun _ => isNumeric_of_mem_significantDigits
  have hzero : IsNumeric '0'.toNat := .inl (by decide)
  have hpoint : IsNumeric '.'.toNat := .inl (by decide)
  have he : IsNumeric 'e'.toNat := .inr rfl
  have hzeros : ∀ n, ∀ x ∈ List.replicate n '0', IsNumeric x.toNat := by
    intro n x hx
    rw [(List.mem_replicate.1 hx).2]
    exact hzero
  have hexp : ∀ x ∈ (if d.magnitude < 0 then '-' else '+') :: Digits.ofNat d.magnitude.natAbs,
      IsNumeric x.toNat := by
    refine List.forall_mem_cons.2 ⟨?_, fun _ => isNumeric_of_mem_ofNat⟩
    split
    · exact .inl (by decide)
    · exact .inl (by decide)
  simp only [decimalText]
  generalize ((if d.magnitude < 0 then '-' else '+') :: Digits.ofNat d.magnitude.natAbs) = exponent
    at hexp ⊢
  generalize d.significantDigits = digits at hdigits ⊢
  split
  · split
    · exact List.forall_mem_nil _
    · rw [List.forall_mem_cons] at hdigits
      rw [List.forall_mem_cons, List.forall_mem_cons]
      exact ⟨hdigits.1, he, hexp⟩
    · rw [List.forall_mem_cons] at hdigits
      rw [List.forall_mem_append, List.forall_mem_cons, List.forall_mem_cons, List.forall_mem_cons]
      exact ⟨⟨hdigits.1, hpoint, hdigits.2⟩, he, hexp⟩
  · split
    · rw [List.forall_mem_append, List.forall_mem_cons, List.forall_mem_cons]
      exact ⟨⟨hzero, hpoint, hzeros _⟩, hdigits⟩
    · split
      · rw [List.forall_mem_append, List.forall_mem_append, List.forall_mem_cons,
          List.forall_mem_singleton]
        exact ⟨⟨hdigits, hzeros _⟩, hpoint, hzero⟩
      · rw [List.forall_mem_append, List.forall_mem_cons]
        exact ⟨fun x hx => hdigits x (List.mem_of_mem_take hx), hpoint,
          fun x hx => hdigits x (List.mem_of_mem_drop hx)⟩

/-- The text of a double is made of the characters of numerals. -/
theorem isNumeric_of_mem_doubleText {x : Double} {c : Char} (h : c ∈ doubleText x) :
    IsNumeric c.toNat := by
  have hm : ∀ d ∈ (if x.significand = 0 then ['0', '.', '0'] else decimalText x.shortest),
      IsNumeric d.toNat := by
    intro d hd
    split at hd
    · simp only [List.mem_cons, List.not_mem_nil, or_false] at hd
      rcases hd with rfl | rfl | rfl <;> exact .inl (by decide)
    · exact isNumeric_of_mem_decimalText _ d hd
  rw [doubleText] at h
  split at h
  · rcases List.mem_cons.1 h with rfl | h
    · exact .inl (by decide)
    · exact hm c h
  · exact hm c h

end TelemetrySpool.Json
