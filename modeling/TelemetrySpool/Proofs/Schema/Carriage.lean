import TelemetrySpool.Proofs.Json.Parts
import TelemetrySpool.Proofs.Wire.Fields
import TelemetrySpool.Schema.Format

/-!
# Values in binary fields

The payload of a scalar gives the scalar back. A format carries a value in payloads: the binary
fields of the value are these payloads behind its number, and reading them one after the other gives
the value. Messages in messages use up levels of the reader, and JSON opens brackets for each, never
fewer than four for three messages. So the brackets of a value say how many levels suffice, and each
format has a `cost` of levels that it needs beyond them, in quarters.
-/

namespace TelemetrySpool

open Json (depth)
open Wire (payloadBytes wordLimit)

variable {τ : Type} {levels cost : Nat}

/-- How the values of a scalar are carried. -/
structure Scalar.Carried (s : Scalar τ) : Prop where
  omits : ∀ v, s.isInitial v = true → v = s.initial
  shape : ∀ v, Wire.shape (s.toValue v) = s.shape
  fits : ∀ v, (payloadBytes (s.toValue v)).length < wordLimit → (s.toValue v).Fits
  readBack : ∀ v, s.ofValue? (s.toValue v) = some v

namespace Scalar

/-- A list of scalars that are carried is carried. -/
theorem Carried.mapM_toValue {s : Scalar τ} (h : s.Carried) (values : List τ) :
    (values.map s.toValue).mapM s.ofValue? = some values := by
  induction values with
  | nil => rfl
  | cons v rest ih =>
    rw [List.map_cons, List.mapM_cons, h.readBack, ih]
    rfl

theorem text_carried : text.Carried where
  omits := fun _ => of_decide_eq_true
  shape := fun _ => rfl
  fits := fun _ h => Nat.lt_of_le_of_lt (List.length_append ▸ Nat.le_add_left _ _) h
  readBack := Bytes.toText?_ofText

theorem hex_carried : hex.Carried where
  omits := fun _ => List.isEmpty_iff.1
  shape := fun _ => rfl
  fits := fun _ h => Nat.lt_of_le_of_lt (List.length_append ▸ Nat.le_add_left _ _) h
  readBack := fun _ => rfl

theorem base64_carried : base64.Carried where
  omits := fun _ => List.isEmpty_iff.1
  shape := fun _ => rfl
  fits := fun _ h => Nat.lt_of_le_of_lt (List.length_append ▸ Nat.le_add_left _ _) h
  readBack := fun _ => rfl

theorem bool_carried : bool.Carried where
  omits := fun b h => by cases b with
    | false => rfl
    | true => cases h
  shape := fun _ => rfl
  fits := fun b _ => Nat.lt_of_lt_of_le b.toNat_lt (by decide)
  readBack := fun b => by cases b <;> rfl

/-- A number of thirty-two bits is one of sixty-four. -/
theorem toNat_lt_wordLimit (n : UInt32) : n.toNat < wordLimit :=
  Nat.lt_of_lt_of_le n.toNat_lt (by decide)

theorem uint32_carried : uint32.Carried where
  omits := fun _ => of_decide_eq_true
  shape := fun _ => rfl
  fits := fun n _ => toNat_lt_wordLimit n
  readBack := fun _ => congrArg some UInt32.ofNat_toNat

theorem fixed32_carried : fixed32.Carried where
  omits := fun _ => of_decide_eq_true
  shape := fun _ => rfl
  fits := fun n _ => n.toNat_lt
  readBack := fun _ => congrArg some UInt32.ofNat_toNat

/-- Sign extension keeps the lowest thirty-two bits. -/
theorem int32_carried : int32.Carried where
  omits := fun _ => of_decide_eq_true
  shape := fun _ => rfl
  fits := fun n _ => n.toInt64.toUInt64.toNat_lt
  readBack := fun n => by
    have h := congrArg Int32.toBitVec n.toInt32_toInt64
    rw [Int64.toBitVec_toInt32, BitVec.signExtend_eq_setWidth_of_le _ (by decide)] at h
    refine congrArg some (Int32.toBitVec_inj.1 ?_)
    simpa using h

/-- Zigzag numbers are read back. -/
theorem unzigzag_zigzag (n : Int) : unzigzag (zigzag n) = n := by
  unfold zigzag unzigzag
  by_cases hn : 0 ≤ n
  · rw [if_pos hn, if_pos (by omega)]
    omega
  · rw [if_neg hn, if_neg (by omega)]
    omega

/-- A whole number of thirty-two bits alternates to a natural one. -/
theorem zigzag_lt (n : Int32) : zigzag n.toInt < 4294967296 := by
  have hlow : -2147483648 ≤ n.toInt := n.minValue_le_toInt
  have hhigh : n.toInt ≤ 2147483647 := n.toInt_le
  unfold zigzag
  split <;> omega

theorem sint32_carried : sint32.Carried where
  omits := fun _ => of_decide_eq_true
  shape := fun _ => rfl
  fits := fun n _ => Nat.lt_of_lt_of_le (zigzag_lt n) (by decide)
  readBack := fun n => by
    show some (Int32.ofInt (unzigzag (zigzag n.toInt % 4294967296))) = some n
    rw [Nat.mod_eq_of_lt (zigzag_lt n), unzigzag_zigzag, Int32.ofInt_toInt]

theorem uint64_carried : uint64.Carried where
  omits := fun _ => of_decide_eq_true
  shape := fun _ => rfl
  fits := fun n _ => n.toNat_lt
  readBack := fun _ => congrArg some UInt64.ofNat_toNat

theorem fixed64_carried : fixed64.Carried where
  omits := fun _ => of_decide_eq_true
  shape := fun _ => rfl
  fits := fun n _ => n.toNat_lt
  readBack := fun _ => congrArg some UInt64.ofNat_toNat

theorem fixed64Text_carried : fixed64Text.Carried where
  omits := fun _ => of_decide_eq_true
  shape := fun _ => rfl
  fits := fun n _ => n.toNat_lt
  readBack := fun _ => congrArg some UInt64.ofNat_toNat

theorem sfixed64_carried : sfixed64.Carried where
  omits := fun _ => of_decide_eq_true
  shape := fun _ => rfl
  fits := fun n _ => n.toUInt64.toNat_lt
  readBack := fun n => by
    show some (UInt64.ofNat n.toUInt64.toNat).toInt64 = some n
    rw [UInt64.ofNat_toNat]
    rfl

theorem int64Text_carried : int64Text.Carried where
  omits := fun _ => of_decide_eq_true
  shape := fun _ => rfl
  fits := fun n _ => n.toUInt64.toNat_lt
  readBack := fun n => by
    show some (UInt64.ofNat n.toUInt64.toNat).toInt64 = some n
    rw [UInt64.ofNat_toNat]
    rfl

theorem double_carried : double.Carried where
  omits := fun _ => of_decide_eq_true
  shape := fun _ => rfl
  fits := fun x _ => x.bits.toNat_lt
  readBack := fun _ => congrArg some (congrArg Double.mk UInt64.ofNat_toNat)

end Scalar

/-- Whether `budget` levels are enough for the brackets of a JSON value, at some cost beyond
them. -/
def Json.Affordable (levels cost budget : Nat) (j : Json) : Prop :=
  depth j ≤ levels ∧ 3 * depth j + cost ≤ 4 * budget

/-- What can be afforded can be afforded with a level to spare. -/
theorem Json.Affordable.succ {budget : Nat} {j : Json} (h : j.Affordable levels cost budget) :
    j.Affordable (levels + 1) cost budget :=
  ⟨Nat.le_succ_of_le h.1, h.2⟩

/-- What stands in a bracket leaves the cost of three quarters of a level. -/
theorem Json.Affordable.inner {cost' budget : Nat} {j part : Json}
    (h : j.Affordable (levels + 1) cost budget) (hlt : depth part < depth j)
    (hcost : cost' ≤ cost + 3) : part.Affordable levels cost' budget := by
  obtain ⟨hlevels, hbudget⟩ := h
  constructor <;> omega

namespace Format

/-- The payloads that carry a value: its binary fields are theirs, and reading them gives it. -/
structure Delivers (f : Format τ) (budget number : Nat) (value : τ)
    (payloads : List Wire.Value) : Prop where
  wire : f.toWire number value = payloads.flatMap (Wire.field number)
  fits : ∀ p ∈ payloads, p.Fits
  merge : payloads.foldlM (f.merge? budget) f.initial = some value

/-- A format whose values are carried in any number of payloads. -/
structure Carried (f : Format τ) (levels cost : Nat) : Prop where
  omits : ∀ v, f.omits v = true → v = f.initial
  delivers : ∀ {v : τ} {budget number : Nat}, (f.toJson v).Affordable levels cost budget →
    (f.toWire number v).length < wordLimit → ∃ payloads, f.Delivers budget number v payloads

/-- A format whose values are carried in one payload each. -/
structure Single (f : Format τ) (levels cost : Nat) : Prop where
  omits : ∀ v, f.omits v = true → v = f.initial
  delivers : ∀ {v : τ} {budget number : Nat}, (f.toJson v).Affordable levels cost budget →
    (f.toWire number v).length < wordLimit → ∃ payload, f.Delivers budget number v [payload]

/-- A format that stands for one value carries it. -/
theorem Single.carried {f : Format τ} (h : f.Single levels cost) : f.Carried levels cost where
  omits := h.omits
  delivers := fun hj hlength =>
    let ⟨p, hp⟩ := h.delivers hj hlength
    ⟨[p], hp⟩

/-- The only payload of a value makes the value of the initial one. -/
theorem Delivers.merge_singleton {f : Format τ} {budget number : Nat} {value : τ} {p : Wire.Value}
    (h : f.Delivers budget number value [p]) : f.merge? budget f.initial p = some value := by
  have hmerge := h.merge
  rw [List.foldlM_cons] at hmerge
  exact (bind_pure _).symm.trans hmerge

/-- A format that writes counted octets which are read back. -/
theorem single_of_counted {f : Format τ} (bytes : τ → Bytes) (homits : ∀ v, f.omits v = false)
    (hwire : ∀ number v, f.toWire number v = Wire.field number (.counted (bytes v)))
    (hmerge : ∀ v budget, (f.toJson v).Affordable levels cost budget →
      (bytes v).length < wordLimit → f.merge? budget f.initial (.counted (bytes v)) = some v) :
    f.Single levels cost where
  omits := by
    intro v hv
    rw [homits] at hv
    cases hv
  delivers := by
    intro v budget number hj hlength
    rw [hwire] at hlength
    have hcounted : (bytes v).length < wordLimit :=
      Nat.lt_of_le_of_lt (Wire.length_le_field_counted number _) hlength
    refine ⟨.counted (bytes v), (hwire number v).trans (List.flatMap_singleton _ _).symm,
      List.forall_mem_singleton.2 hcounted, ?_⟩
    rw [List.foldlM_cons, hmerge v budget hj hcounted]
    rfl

/-- A scalar that is carried stands for one value. -/
theorem scalar_single {s : Scalar τ} (h : s.Carried) : (scalar s).Single levels cost where
  omits := h.omits
  delivers := by
    intro v budget number _ hlength
    have hfits : (s.toValue v).Fits := h.fits v
      (Nat.lt_of_le_of_lt (List.length_append ▸ Nat.le_add_left _ _) hlength)
    refine ⟨s.toValue v, ?_, List.forall_mem_singleton.2 hfits, ?_⟩
    · exact (List.flatMap_singleton _ _).symm
    · show (s.ofValue? (s.toValue v)).bind pure = some v
      rw [h.readBack]
      rfl

/-- A value may be absent. -/
theorem option_carried {f : Format τ} (h : f.Single levels cost) :
    f.option.Carried levels cost where
  omits := fun _ => Option.isNone_iff_eq_none.1
  delivers := by
    intro v budget number hj hlength
    cases v with
    | none => exact ⟨[], rfl, List.forall_mem_nil _, rfl⟩
    | some v =>
      obtain ⟨p, hp⟩ := h.delivers (v := v) hj hlength
      refine ⟨[p], hp.wire, hp.fits, ?_⟩
      show ((f.merge? budget f.initial p).map some).bind pure = some (some v)
      rw [hp.merge_singleton]
      rfl

/-- The payloads of several values are read as these values, after those that were read before. -/
theorem Single.exists_payloads {f : Format τ} (h : f.Single levels cost) {values : List τ}
    {budget number : Nat} (hitem : ∀ v ∈ values, (f.toJson v).Affordable levels cost budget ∧
      (f.toWire number v).length < wordLimit) :
    ∃ payloads : List Wire.Value,
      values.flatMap (f.toWire number) = payloads.flatMap (Wire.field number) ∧
      (∀ p ∈ payloads, p.Fits) ∧
      ∀ read, payloads.foldlM (f.list.merge? budget) read = some (read ++ values) := by
  induction values with
  | nil => exact ⟨[], rfl, List.forall_mem_nil _, fun read => by rw [List.append_nil]; rfl⟩
  | cons v rest ih =>
    rw [List.forall_mem_cons] at hitem
    obtain ⟨p, hp⟩ := h.delivers hitem.1.1 hitem.1.2
    obtain ⟨payloads, hwire, hfits, hmerge⟩ := ih hitem.2
    refine ⟨p :: payloads, ?_, List.forall_mem_cons.2 ⟨hp.fits p List.mem_cons_self, hfits⟩,
      fun read => ?_⟩
    · rw [List.flatMap_cons, List.flatMap_cons, hwire, hp.wire, List.flatMap_singleton]
    · have hnext : f.list.merge? budget read p = some (read ++ [v]) := by
        show (f.merge? budget f.initial p).map _ = _
        rw [hp.merge_singleton]
        rfl
      rw [List.foldlM_cons, hnext, Option.bind_eq_bind, Option.bind_some, hmerge]
      simp

/-- A list is carried value by value, each with its own levels. -/
theorem list_carried {f : Format τ} {cost' : Nat} (h : f.Single levels cost')
    (hcost : cost' ≤ cost + 3) : f.list.Carried levels cost where
  omits := fun _ => List.isEmpty_iff.1
  delivers := by
    intro values budget number hj hlength
    have hitem : ∀ v ∈ values, (f.toJson v).Affordable levels cost' budget ∧
        (f.toWire number v).length < wordLimit := fun v hv =>
      ⟨hj.succ.inner (Json.depth_lt_of_item (List.mem_map_of_mem hv)) hcost,
        Nat.lt_of_le_of_lt (Wire.length_le_of_mem hv) hlength⟩
    obtain ⟨payloads, hwire, hfits, hmerge⟩ := h.exists_payloads hitem
    exact ⟨payloads, hwire, hfits, hmerge []⟩

/-- Packed scalars are carried in one piece. -/
theorem packed_carried {s : Scalar τ} (h : s.Carried) : (packed s).Carried levels cost where
  omits := fun _ => List.isEmpty_iff.1
  delivers := by
    intro values budget number _ hlength
    let bytes := values.flatMap fun v => payloadBytes (s.toValue v)
    have hcounted : bytes.length < wordLimit :=
      Nat.lt_of_le_of_lt (Wire.length_le_field_counted number bytes) hlength
    have hvalue : ∀ p ∈ values.map s.toValue, p.Fits ∧ Wire.shape p = s.shape := by
      intro p hp
      obtain ⟨v, hv, rfl⟩ := List.mem_map.1 hp
      have hle := Wire.length_le_of_mem (f := fun v => payloadBytes (s.toValue v)) hv
      exact ⟨h.fits v (Nat.lt_of_le_of_lt hle hcounted), h.shape v⟩
    have hread := Wire.readPacked_payloads hvalue
    rw [List.flatMap_map] at hread
    have hmerge : (packed s).merge? budget [] (.counted bytes) = some values := by
      show (Wire.readPacked s.shape bytes.length [] bytes).bind _ = _
      rw [hread, Option.bind_some, h.mapM_toValue]
      rfl
    refine ⟨[.counted bytes], (List.flatMap_singleton _ _).symm,
      List.forall_mem_singleton.2 hcounted, ?_⟩
    show ((packed s).merge? budget [] (.counted bytes)).bind pure = some values
    rw [hmerge]
    rfl

end Format

end TelemetrySpool
