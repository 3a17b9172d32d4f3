import TelemetrySpool.Proofs.Schema.Format

/-!
# Laws of scalars

Each scalar reads back what it writes, and all but the doubles write text, truth values and whole
numbers only. Counters that are text in some messages and numbers in others have a law for each
form.
-/

namespace TelemetrySpool

open Json (Every Written Regular Sound depth)

/-- A hexadecimal mark is no pair of digits. -/
theorem Hex.decode?_encode (bytes : Bytes) : Hex.decode? (Hex.encode bytes) = some bytes := by
  have hx : ∀ c ∈ Hex.encode bytes, c ≠ 'x' ∧ c ≠ 'X' := by
    have all : ∀ n ∈ List.range 16, Hex.digit n ≠ 'x' ∧ Hex.digit n ≠ 'X' := by decide
    intro c hc
    rw [Hex.encode, List.mem_flatMap] at hc
    obtain ⟨b, _, hb⟩ := hc
    have hlt := b.toNat_lt
    simp only [Hex.ofByte, List.mem_cons, List.not_mem_nil, or_false] at hb
    rcases hb with rfl | rfl
    · exact all _ (List.mem_range.2 (by omega))
    · exact all _ (List.mem_range.2 (by omega))
  rw [← Hex.decodePairs?_encode bytes]
  generalize Hex.encode bytes = text at hx
  rw [Hex.decode?.eq_def]
  split
  · exact absurd rfl (hx 'x' (by simp)).1
  · exact absurd rfl (hx 'X' (by simp)).2
  · rfl

namespace Scalar

variable {τ : Type}

/-- Whole numbers within the bounds are read. -/
theorem integer?_of_le {least greatest n : Int} (h : least ≤ n ∧ n ≤ greatest) :
    integer? least greatest (.integer n) = some n := by
  rw [integer?, if_pos h]

/-- A scalar that is written as text. -/
theorem lawful_of_string {s : Scalar τ} {text : τ → String}
    (hj : ∀ v, s.toJson v = .string (text v))
    (hr : ∀ v, s.ofJson? (.string (text v)) = some v) : s.Lawful where
  depth_eq := fun v => by rw [hj]; rfl
  written := fun v => by rw [hj]; exact Json.every_string.2 trivial
  ne_null := fun v => by rw [hj]; nofun
  readBack := fun v => by rw [hj, hr]
  sound := fun {_ v} _ _ => by rw [hj]; exact Json.every_string.2 ⟨trivial, trivial⟩
  initial := by rw [hj]; exact Json.every_string.2 ⟨trivial, trivial⟩

/-- A scalar that is written as a whole number of sixty-four bits. -/
theorem lawful_of_integer {s : Scalar τ} {number : τ → Int}
    (hj : ∀ v, s.toJson v = .integer (number v)) (hw : ∀ v, Json.IsWord (number v))
    (hr : ∀ v, s.ofJson? (.integer (number v)) = some v) : s.Lawful where
  depth_eq := fun v => by rw [hj]; rfl
  written := fun v => by rw [hj]; exact Json.every_integer.2 (hw v)
  ne_null := fun v => by rw [hj]; nofun
  readBack := fun v => by rw [hj, hr]
  sound := fun {_ v} _ _ => by rw [hj]; exact Json.every_integer.2 ⟨trivial, trivial⟩
  initial := by rw [hj]; exact Json.every_integer.2 ⟨trivial, trivial⟩

@[simp] theorem text_lawful : text.Lawful := lawful_of_string (fun _ => rfl) fun _ => rfl

@[simp] theorem hex_lawful : hex.Lawful := by
  refine lawful_of_string (fun _ => rfl) fun v => ?_
  show Hex.decode? (String.ofList (Hex.encode v)).toList = some v
  rw [String.toList_ofList, Hex.decode?_encode]

@[simp] theorem base64_lawful : base64.Lawful := by
  refine lawful_of_string (fun _ => rfl) fun v => ?_
  show Base64.decode? (String.ofList (Base64.encode v)).toList = some v
  rw [String.toList_ofList, Base64.decode?_encode]

@[simp] theorem bool_lawful : bool.Lawful where
  depth_eq := fun _ => rfl
  written := fun _ => Json.every_bool.2 trivial
  ne_null := nofun
  readBack := fun _ => rfl
  sound := fun _ _ => Json.every_bool.2 ⟨trivial, trivial⟩
  initial := Json.every_bool.2 ⟨trivial, trivial⟩

/-- A scalar that is written as the number of its thirty-two bits. -/
theorem lawful_of_uint32 {s : Scalar UInt32} (hj : ∀ v, s.toJson v = .integer v.toNat)
    (hr : ∀ j, s.ofJson? j = (integer? 0 4294967295 j).map fun n => UInt32.ofNat n.toNat) :
    s.Lawful := by
  have hlt (v : UInt32) : v.toNat < 4294967296 := v.toNat_lt
  refine lawful_of_integer hj (fun v => ?_) fun v => ?_
  · have hv := hlt v
    constructor
    · omega
    · omega
  · have hv := hlt v
    rw [hr, integer?_of_le (by omega), Option.map_some, Int.toNat_natCast, UInt32.ofNat_toNat]

@[simp] theorem uint32_lawful : uint32.Lawful := lawful_of_uint32 (fun _ => rfl) fun _ => rfl

@[simp] theorem fixed32_lawful : fixed32.Lawful := lawful_of_uint32 (fun _ => rfl) fun _ => rfl

/-- A scalar that is written as the whole number of its thirty-two bits. -/
theorem lawful_of_int32 {s : Scalar Int32} (hj : ∀ v, s.toJson v = .integer v.toInt)
    (hr : ∀ j, s.ofJson? j = (integer? (-2147483648) 2147483647 j).map Int32.ofInt) :
    s.Lawful := by
  have hle (v : Int32) : -2147483648 ≤ v.toInt ∧ v.toInt ≤ 2147483647 :=
    ⟨v.minValue_le_toInt, v.toInt_le⟩
  refine lawful_of_integer hj (fun v => ?_) fun v => ?_
  · have hv := hle v
    constructor
    · omega
    · omega
  · rw [hr, integer?_of_le (hle v), Option.map_some, Int32.ofInt_toInt]

@[simp] theorem int32_lawful : int32.Lawful := lawful_of_int32 (fun _ => rfl) fun _ => rfl

@[simp] theorem sint32_lawful : sint32.Lawful := lawful_of_int32 (fun _ => rfl) fun _ => rfl

/-- A scalar that is written as the number of its sixty-four bits. -/
theorem lawful_of_word {s : Scalar UInt64} (hj : ∀ v, s.toJson v = .integer v.toNat)
    (hr : ∀ j, s.ofJson? j = word? j) : s.Lawful := by
  have hlt (v : UInt64) : v.toNat < 18446744073709551616 := v.toNat_lt
  refine lawful_of_integer hj (fun v => ?_) fun v => ?_
  · have hv := hlt v
    constructor
    · omega
    · omega
  · have hv := hlt v
    rw [hr, word?, integer?_of_le (by omega), Option.map_some, Int.toNat_natCast,
      UInt64.ofNat_toNat]

@[simp] theorem uint64_lawful : uint64.Lawful := lawful_of_word (fun _ => rfl) fun _ => rfl

@[simp] theorem fixed64_lawful : fixed64.Lawful := lawful_of_word (fun _ => rfl) fun _ => rfl

/-- Numbers written as text are read back from it. -/
@[simp] theorem fixed64Text_lawful : fixed64Text.Lawful := by
  refine lawful_of_string (fun _ => rfl) fun v => ?_
  have hlt : v.toNat < 18446744073709551616 := v.toNat_lt
  have hread : Digits.readUnsigned? (Digits.text v.toNat).toList = some v.toNat := by
    rw [Digits.text, String.toList_ofList, Digits.readUnsigned?_ofNat]
  simp only [fixed64Text, string?, hread, Option.bind_eq_bind, Option.bind_some, if_pos hlt,
    UInt64.ofNat_toNat]

/-- Every whole number of sixty-four bits fits into them. -/
theorem int64_le (v : Int64) : -9223372036854775808 ≤ v.toInt ∧ v.toInt ≤ 9223372036854775807 :=
  ⟨v.minValue_le_toInt, v.toInt_le⟩

@[simp] theorem sfixed64_lawful : sfixed64.Lawful := by
  refine lawful_of_integer (fun _ => rfl) (fun v => ?_) fun v => ?_
  · have hv := int64_le v
    constructor
    · omega
    · omega
  · show (integer? _ _ (.integer v.toInt)).map Int64.ofInt = some v
    rw [integer?_of_le (int64_le v), Option.map_some, Int64.ofInt_toInt]

@[simp] theorem int64Text_lawful : int64Text.Lawful := by
  refine lawful_of_string (fun _ => rfl) fun v => ?_
  have hfits : fitsInt64 v.toInt := by
    have hv := int64_le v
    rw [fitsInt64, Bool.and_eq_true, decide_eq_true_iff, decide_eq_true_iff]
    exact hv
  simp only [int64Text, String.toList_ofList, Digits.readSigned?_ofInt, Option.bind_eq_bind,
    Option.bind_some, if_pos hfits, Int64.ofInt_toInt]

/-- Doubles are finite when they are read, from their own form or from a whole number. -/
@[simp] theorem double_lawful : double.Lawful where
  depth_eq := fun _ => rfl
  written := fun _ => Json.every_double.2 trivial
  ne_null := nofun
  readBack := fun _ => rfl
  sound := by
    intro j v hj hv
    refine Json.every_double.2 ⟨trivial, ?_⟩
    cases j with
    | double x =>
      cases hv
      exact hj
    | integer n =>
      cases hv
      obtain ⟨hlow, hhigh⟩ := hj
      exact Double.ofInt_isFinite (by omega) (by omega)
    | _ => cases hv
  initial := Json.every_double.2 ⟨trivial, show Double.zero.isFinite by decide⟩

end Scalar

end TelemetrySpool
