import TelemetrySpool.Json.Reader
import TelemetrySpool.Json.Writer
import TelemetrySpool.Proofs.Text.Utf8

/-!
# String literals read back

A character is read from its escaped form as pieces that spell its octets, whichever escape was
used, and no octet of it ends the literal. A string literal therefore reads as pieces that spell
its text.
-/

namespace TelemetrySpool.Json

open Utf8 (octets)

/-- Octets that neither end a literal nor start an escape stand for themselves. -/
theorem literal_octets {bs : Bytes} (h : ∀ b ∈ bs, b ≠ 0x22 ∧ b ≠ 0x5c ∧ ¬ b < 0x20)
    (read : List Piece) (rest : Bytes) :
    literal read (bs ++ rest) = literal ((bs.map Piece.octet).reverse ++ read) rest := by
  induction bs generalizing read with
  | nil => rfl
  | cons b bs ih =>
    rw [List.forall_mem_cons] at h
    obtain ⟨⟨hq, hs, hc⟩, hbs⟩ := h
    rw [List.cons_append, literal.eq_def]
    simp only [if_neg hq, if_neg hs, if_neg hc, ih hbs, List.map_cons, List.reverse_cons,
      List.append_assoc, List.singleton_append]

theorem spell_octets (bs : Bytes) (done : Bytes) (rest : List Piece) :
    spell done (bs.map Piece.octet ++ rest) = spell (bs.reverse ++ done) rest := by
  induction bs generalizing done with
  | nil => rfl
  | cons b bs ih =>
    rw [List.map_cons, List.cons_append, spell, ih]
    simp

/-- Pieces that a literal has for some text, and that spell it. -/
def Spelling (written : Bytes) (pieces : List Piece) (text : Bytes) : Prop :=
  (∀ read rest, literal read (written ++ rest) = literal (pieces.reverse ++ read) rest) ∧
    ∀ done rest, spell done (pieces ++ rest) = spell (text.reverse ++ done) rest

theorem Spelling.append {w₁ w₂ t₁ t₂ : Bytes} {p₁ p₂ : List Piece} (h₁ : Spelling w₁ p₁ t₁)
    (h₂ : Spelling w₂ p₂ t₂) : Spelling (w₁ ++ w₂) (p₁ ++ p₂) (t₁ ++ t₂) := by
  constructor
  · intro read rest
    rw [List.append_assoc, h₁.1, h₂.1, List.reverse_append, List.append_assoc]
  · intro done rest
    rw [List.append_assoc, h₁.2, h₂.2, List.reverse_append, List.append_assoc]

/-- A character that is written as it is. -/
theorem spelling_plain {c : Char} (hq : c ≠ '"') (hs : c ≠ '\\') (hc : 0x20 ≤ c.toNat) :
    Spelling (String.utf8EncodeChar c) ((String.utf8EncodeChar c).map Piece.octet)
      (String.utf8EncodeChar c) := by
  refine ⟨literal_octets ?_, spell_octets _⟩
  intro b hb
  by_cases hlt : c.toNat < 128
  · rw [Utf8.encodeChar_of_lt hlt, List.mem_singleton] at hb
    have hn : b.toNat = c.toNat := by rw [hb, UInt8.toNat_ofNat']; omega
    refine ⟨?_, ?_, ?_⟩
    · rintro rfl
      exact hq (Char.toNat_inj.1 hn.symm)
    · rintro rfl
      exact hs (Char.toNat_inj.1 hn.symm)
    · rw [UInt8.lt_iff_toNat_lt, hn]
      exact Nat.not_lt_of_le hc
  · have hle := Utf8.le_of_mem_encodeChar (Nat.le_of_not_lt hlt) hb
    refine ⟨?_, ?_, ?_⟩
    · rintro rfl
      exact absurd hle (by decide)
    · rintro rfl
      exact absurd hle (by decide)
    · rw [UInt8.lt_iff_toNat_lt]
      exact Nat.not_lt_of_le (Nat.le_trans (by decide) hle)

/-- A character that is written with a short escape. -/
theorem spelling_short {e b : UInt8} (hu : e ≠ 0x75) (h : shortEscape? e = some b) :
    Spelling [0x5c, e] [.octet b] [b] := by
  constructor
  · intro read rest
    rw [List.cons_append, List.singleton_append, literal.eq_def]
    simp only [if_neg (show ¬(0x5c : UInt8) = 0x22 by decide), if_true, if_neg hu, h]
    rfl
  · intro done rest
    simp [spell]

/-- A hexadecimal digit is read back. -/
theorem hexValue?_digitChar {n : Nat} (h : n < 16) :
    hexValue? (UInt8.ofNat (Nat.digitChar n).toNat) = some n := by
  have all : ∀ m ∈ List.range 16, hexValue? (UInt8.ofNat (Nat.digitChar m).toNat) = some m := by
    decide
  exact all n (List.mem_range.2 h)

theorem digitChar_lt {n : Nat} (h : n < 16) : (Nat.digitChar n).toNat < 128 := by
  have all : ∀ m ∈ List.range 16, (Nat.digitChar m).toNat < 128 := by decide
  exact all n (List.mem_range.2 h)

/-- The octets of a control character that is written with its number. -/
theorem octets_control {hi lo : Nat} (hhi : hi < 16) (hlo : lo < 16) :
    octets ['\\', 'u', '0', '0', Nat.digitChar hi, Nat.digitChar lo] =
      [0x5c, 0x75, 0x30, 0x30, UInt8.ofNat (Nat.digitChar hi).toNat,
        UInt8.ofNat (Nat.digitChar lo).toNat] := by
  rw [Utf8.octets_of_lt]
  · rfl
  · intro d hd
    simp only [List.mem_cons, List.not_mem_nil, or_false] at hd
    rcases hd with rfl | rfl | rfl | rfl | rfl | rfl
    · decide
    · decide
    · decide
    · decide
    · exact digitChar_lt hhi
    · exact digitChar_lt hlo

theorem hexValue4?_control {hi lo : Nat} (hhi : hi < 16) (hlo : lo < 16) :
    hexValue4? 0x30 0x30 (UInt8.ofNat (Nat.digitChar hi).toNat)
      (UInt8.ofNat (Nat.digitChar lo).toNat) = some (16 * hi + lo) := by
  have hz : hexValue? 0x30 = some 0 := by decide
  simp only [hexValue4?, hz, hexValue?_digitChar hhi, hexValue?_digitChar hlo, Option.bind_eq_bind,
    Option.bind_some]
  congr 1
  omega

/-- A control character that is written with its number. -/
theorem spelling_control {c : Char} (hc : c.toNat < 0x20) :
    Spelling
      (octets ['\\', 'u', '0', '0', Nat.digitChar (c.toNat / 16), Nat.digitChar (c.toNat % 16)])
      [.unit c.toNat] (String.utf8EncodeChar c) := by
  have hhi : c.toNat / 16 < 16 := by omega
  have hlo : c.toNat % 16 < 16 := by omega
  have ho := octets_control hhi hlo
  have hv := hexValue4?_control hhi hlo
  rw [Nat.div_add_mod] at hv
  constructor
  · intro read rest
    rw [ho, List.cons_append, literal.eq_def]
    simp only [List.cons_append, List.nil_append, if_true, hv,
      if_neg (show ¬(0x5c : UInt8) = 0x22 by decide)]
    rfl
  · intro done rest
    have ht : isTrailing c.toNat = false := by
      rw [isTrailing, Bool.and_eq_false_iff]
      left
      simp
      omega
    have hl : isLeading c.toNat = false := by
      rw [isLeading, Bool.and_eq_false_iff]
      left
      simp
      omega
    rw [List.singleton_append, spell.eq_def]
    simp only [ht, hl, Char.ofNat_toNat, Bool.false_eq_true, if_false]

/-- Every character is read back from its escaped form. -/
theorem exists_spelling_escapeChar (c : Char) :
    ∃ pieces, Spelling (octets (escapeChar c)) pieces (String.utf8EncodeChar c) := by
  unfold escapeChar
  split
  · next h => subst h; exact ⟨_, spelling_short (e := 0x22) (by decide) rfl⟩
  split
  · next h => subst h; exact ⟨_, spelling_short (e := 0x5c) (by decide) rfl⟩
  split
  · next h => subst h; exact ⟨_, spelling_short (e := 0x62) (by decide) rfl⟩
  split
  · next h => subst h; exact ⟨_, spelling_short (e := 0x66) (by decide) rfl⟩
  split
  · next h => subst h; exact ⟨_, spelling_short (e := 0x6e) (by decide) rfl⟩
  split
  · next h => subst h; exact ⟨_, spelling_short (e := 0x72) (by decide) rfl⟩
  split
  · next h => subst h; exact ⟨_, spelling_short (e := 0x74) (by decide) rfl⟩
  split
  · next h => exact ⟨_, spelling_control h⟩
  · next hq hs _ _ _ _ _ hc =>
    rw [Utf8.octets_cons, Utf8.octets_nil, List.append_nil]
    exact ⟨_, spelling_plain hq hs (Nat.le_of_not_lt hc)⟩

theorem exists_spelling (text : List Char) :
    ∃ pieces, Spelling (octets (text.flatMap escapeChar)) pieces (octets text) := by
  induction text with
  | nil => exact ⟨[], fun _ _ => rfl, fun _ _ => rfl⟩
  | cons c rest ih =>
    obtain ⟨p, hp⟩ := exists_spelling_escapeChar c
    obtain ⟨q, hq⟩ := ih
    refine ⟨p ++ q, ?_⟩
    rw [List.flatMap_cons, Utf8.octets_append, Utf8.octets_cons]
    exact hp.append hq

/-- A literal is a quotation mark, and what follows it reads as pieces that spell the text. -/
theorem exists_literal_stringText (text : String) : ∃ body pieces,
    octets (stringText text) = 0x22 :: body ∧ spelled? pieces = some text ∧
      ∀ rest, literal [] (body ++ rest) = some (pieces, rest) := by
  obtain ⟨pieces, hread, hspell⟩ := exists_spelling text.toList
  refine ⟨octets (text.toList.flatMap escapeChar) ++ [0x22], pieces, ?_, ?_, ?_⟩
  · rw [stringText, List.cons_append, Utf8.octets_cons_of_lt (by decide), Utf8.octets_append]
    rfl
  · have hs := hspell [] []
    rw [List.append_nil, spell, List.append_nil] at hs
    rw [spelled?, hs]
    show Bytes.toText? (octets text.toList).reverse.reverse = some text
    rw [List.reverse_reverse, ← Utf8.ofText_eq, Bytes.toText?_ofText]
  · intro rest
    rw [List.append_assoc, hread, List.append_nil, List.singleton_append, literal.eq_def]
    simp only [if_true, List.reverse_reverse]

end TelemetrySpool.Json
