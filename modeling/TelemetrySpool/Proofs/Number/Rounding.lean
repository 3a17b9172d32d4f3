import Mathlib.Algebra.Order.Field.Power
import Mathlib.Algebra.Order.Ring.Rat
import Mathlib.Tactic.Linarith
import Mathlib.Tactic.NormNum
import Mathlib.Tactic.Positivity
import TelemetrySpool.Json.Number

/-!
# Rounded numbers that stay finite

Rounding to the nearest double gives an infinity only beyond the greatest finite double. So it does
not where a number of sixty-four bits is rounded, nor where a finite double is divided by a power of
ten, and a product that is none is refused. The doubles that numerals stand for are finite.
-/

namespace TelemetrySpool.Double

/-- The greatest magnitude of a finite double. -/
def greatest : Nat := (2 ^ 53 - 1) * 2 ^ 971

/-- No finite double exceeds the greatest. -/
theorem le_greatest {m e : Nat} (hm : m < 2 ^ 53) (he : e ≤ 971) : m * 2 ^ e ≤ greatest := by
  rw [greatest]
  gcongr
  · omega
  · decide

/-- A power of two is a fraction of natural ones. -/
theorem two_zpow_eq (k : ℤ) : (2 : ℚ) ^ k = 2 ^ k.toNat / 2 ^ (-k).toNat := by
  obtain ⟨n, rfl | rfl⟩ := k.eq_nat_or_neg
  · simp
  · simp

/-- Fractions are compared with powers of two as rationals are. -/
theorem atLeastPowerOfTwo_iff {num den : Nat} (hden : 0 < den) (k : ℤ) :
    atLeastPowerOfTwo num den k ↔ (2 : ℚ) ^ k ≤ num / den := by
  have hd : (0 : ℚ) < den := by exact_mod_cast hden
  rw [two_zpow_eq, div_le_div_iff₀ (by positivity) hd, atLeastPowerOfTwo, decide_eq_true_iff,
    ← Nat.cast_le (α := ℚ)]
  push_cast [Nat.pow_eq]
  rw [mul_comm]

/-- The exponent of a fraction is that of the power of two below it. -/
theorem binaryExponent_spec {num den : Nat} (hnum : 0 < num) (hden : 0 < den) :
    (2 : ℚ) ^ binaryExponent num den ≤ num / den ∧
      (num : ℚ) / den < 2 ^ (binaryExponent num den + 1) := by
  have hd : (0 : ℚ) < den := by exact_mod_cast hden
  have hn₁ : (2 : ℚ) ^ num.log2 ≤ num := by exact_mod_cast Nat.log2_self_le hnum.ne'
  have hn₂ : (num : ℚ) < 2 ^ (num.log2 + 1) := by exact_mod_cast Nat.lt_log2_self
  have hd₁ : (2 : ℚ) ^ den.log2 ≤ den := by exact_mod_cast Nat.log2_self_le hden.ne'
  have hd₂ : (den : ℚ) < 2 ^ (den.log2 + 1) := by exact_mod_cast Nat.lt_log2_self
  have hlow : (2 : ℚ) ^ ((num.log2 : ℤ) - den.log2 - 1) ≤ num / den := by
    rw [le_div_iff₀ hd]
    calc (2 : ℚ) ^ ((num.log2 : ℤ) - den.log2 - 1) * den
        ≤ 2 ^ ((num.log2 : ℤ) - den.log2 - 1) * 2 ^ (den.log2 + 1) := by gcongr
      _ = 2 ^ num.log2 := by
        rw [← zpow_natCast, ← zpow_natCast, ← zpow_add₀ two_ne_zero]
        congr 1
        omega
      _ ≤ num := hn₁
  have hhigh : (num : ℚ) / den < 2 ^ ((num.log2 : ℤ) - den.log2 + 1) := by
    rw [div_lt_iff₀ hd]
    calc (num : ℚ) < 2 ^ (num.log2 + 1) := hn₂
      _ = 2 ^ ((num.log2 : ℤ) - den.log2 + 1) * 2 ^ den.log2 := by
        rw [← zpow_natCast, ← zpow_natCast, ← zpow_add₀ two_ne_zero]
        congr 1
        omega
      _ ≤ 2 ^ ((num.log2 : ℤ) - den.log2 + 1) * den := by gcongr
  rw [binaryExponent]
  by_cases h : atLeastPowerOfTwo num den ((num.log2 : ℤ) - den.log2)
  · rw [if_pos h]
    exact ⟨(atLeastPowerOfTwo_iff hden _).1 h, hhigh⟩
  · rw [if_neg h]
    refine ⟨hlow, ?_⟩
    rw [Int.sub_add_cancel]
    exact not_le.1 fun hle => h ((atLeastPowerOfTwo_iff hden _).2 hle)

/-- Rounding does not pass a natural number. -/
theorem divideToEven_le {num den n : Nat} (hden : 0 < den) (h : num ≤ n * den) :
    divideToEven num den ≤ n := by
  have hle : num / den ≤ n := Nat.div_le_of_le_mul (by rwa [Nat.mul_comm])
  rw [divideToEven]
  split
  · exact hle
  · next hr =>
    have hne : num / den ≠ n := by
      intro he
      have hmod : num % den = 0 := by
        have hsum := Nat.div_add_mod num den
        rw [he, Nat.mul_comm] at hsum
        omega
      exact hr (.inl (by omega))
    omega

/-- The scaled fraction that is rounded to a significand. -/
theorem scaled_le {num den n : Nat} (hden : 0 < den) {q : ℤ} (h : (num : ℚ) / den ≤ n * 2 ^ q) :
    num * Nat.pow 2 (-q).toNat ≤ n * (den * Nat.pow 2 q.toNat) := by
  have hd : (0 : ℚ) < den := by exact_mod_cast hden
  rw [two_zpow_eq, mul_div_assoc', div_le_div_iff₀ hd (by positivity)] at h
  rw [← Nat.cast_le (α := ℚ)]
  push_cast [Nat.pow_eq]
  linarith

/-- Below the last exponent all bits are those of a finite double. -/
theorem isFinite_ofNat {bits : Nat} (h : bits < 2047 * fractionLimit) :
    (⟨UInt64.ofNat bits⟩ : Double).isFinite := by
  have hl : fractionLimit = 4503599627370496 := rfl
  rw [hl] at h
  have hb : (UInt64.ofNat bits).toNat = bits := by
    rw [UInt64.toNat_ofNat']
    exact Nat.mod_eq_of_lt (by omega)
  rw [isFinite, exponentBits, hb, hl, decide_eq_true_iff]
  omega

/-- The bits of an exponent and a rounded significand that stay below those of infinity. -/
theorem bits_lt {q : ℤ} {m : Nat} (h : (q ≤ 970 ∧ m ≤ 2 ^ 53) ∨ (q ≤ 971 ∧ m ≤ 2 ^ 53 - 1)) :
    (q + 1074).toNat * fractionLimit + m < 2047 * fractionLimit := by
  have hl : fractionLimit = 4503599627370496 := rfl
  rw [hl]
  rcases h with ⟨hq, hm⟩ | ⟨hq, hm⟩
  · have hbits : (q + 1074).toNat ≤ 2044 := by omega
    omega
  · have hbits : (q + 1074).toNat ≤ 2045 := by omega
    omega

/-- A fraction that is not too great lies below the greatest double. -/
theorem div_le_greatest {num den : Nat} (hden : 0 < den) (h : num ≤ greatest * den) :
    (num : ℚ) / den ≤ ((2 ^ 53 - 1 : ℕ) : ℚ) * 2 ^ (971 : ℤ) := by
  have hd : (0 : ℚ) < den := by exact_mod_cast hden
  rw [div_le_iff₀ hd]
  exact_mod_cast h

/-- Such a fraction has an exponent that a double can hold. -/
theorem binaryExponent_lt {num den : Nat} (hnum : 0 < num) (hden : 0 < den)
    (h : num ≤ greatest * den) : binaryExponent num den < 1024 := by
  have hlow := (binaryExponent_spec hnum hden).1
  have hlt : ((2 ^ 53 - 1 : ℕ) : ℚ) * 2 ^ (971 : ℤ) < 2 ^ (1024 : ℤ) :=
    calc ((2 ^ 53 - 1 : ℕ) : ℚ) * 2 ^ (971 : ℤ) < 2 ^ (53 : ℤ) * 2 ^ (971 : ℤ) :=
          mul_lt_mul_of_pos_right (by norm_num) (by positivity)
      _ = 2 ^ (1024 : ℤ) := (zpow_add₀ two_ne_zero 53 971).symm
  exact (zpow_lt_zpow_iff_right₀ one_lt_two).1
    (hlow.trans_lt ((div_le_greatest hden h).trans_lt hlt))

/-- Fractions up to the greatest finite double are rounded to finite ones. -/
theorem nearest_isFinite {num den : Nat} (hden : 0 < den) (h : num ≤ greatest * den) :
    (nearest num den).isFinite := by
  rw [nearest]
  split
  · decide
  · next hz =>
    have hhigh := (binaryExponent_spec (Nat.pos_of_ne_zero hz) hden).2
    have he := binaryExponent_lt (Nat.pos_of_ne_zero hz) hden h
    generalize binaryExponent num den = e at hhigh he
    simp only
    have hq : max (e - 52) (-1074) ≤ 971 := by omega
    have hwidth : e + 1 ≤ 53 + max (e - 52) (-1074) := by omega
    generalize max (e - 52) (-1074) = q at hq hwidth
    have hround : ∀ n : ℕ, (num : ℚ) / den ≤ n * 2 ^ q →
        divideToEven (num * Nat.pow 2 (-q).toNat) (den * Nat.pow 2 q.toNat) ≤ n := fun n hn =>
      divideToEven_le (Nat.mul_pos hden (Nat.pow_pos two_pos)) (scaled_le hden hn)
    generalize divideToEven (num * Nat.pow 2 (-q).toNat) (den * Nat.pow 2 q.toNat) = m at hround
    -- Only the greatest exponent has no room for a significand that is rounded up to `2 ^ 53`.
    have hroom : (q ≤ 970 ∧ m ≤ 2 ^ 53) ∨ (q ≤ 971 ∧ m ≤ 2 ^ 53 - 1) := by
      by_cases hq' : q ≤ 970
      · refine .inl ⟨hq', hround _ ?_⟩
        calc (num : ℚ) / den ≤ 2 ^ (e + 1) := hhigh.le
          _ ≤ 2 ^ (53 + q) := zpow_le_zpow_right₀ one_le_two hwidth
          _ = ((2 ^ 53 : ℕ) : ℚ) * 2 ^ q := by
            rw [zpow_add₀ two_ne_zero]
            norm_num
      · obtain rfl : q = 971 := by omega
        exact .inr ⟨le_rfl, hround _ (div_le_greatest hden h)⟩
    rw [if_pos (bits_lt hroom)]
    exact isFinite_ofNat (bits_lt hroom)

/-- A significand has 53 bits. -/
theorem significand_lt (x : Double) : x.significand < 2 ^ 53 := by
  have hf : x.fractionBits < fractionLimit := Nat.mod_lt _ (by decide)
  have hl : fractionLimit = 4503599627370496 := rfl
  rw [significand]
  split
  · omega
  · omega

theorem denominator_pos (x : Double) : 0 < x.denominator := Nat.pow_pos two_pos

/-- A finite double is the greatest one at most. -/
theorem numerator_le {x : Double} (h : x.isFinite) : x.numerator ≤ greatest * x.denominator := by
  have hs := x.significand_lt
  rw [isFinite, decide_eq_true_iff] at h
  have hbits : x.exponentBits < 2048 := Nat.mod_lt _ (by decide)
  have he : x.exponent.toNat ≤ 971 := by
    rw [exponent]
    split
    · decide
    · omega
  calc x.significand * 2 ^ x.exponent.toNat ≤ greatest := le_greatest hs he
    _ ≤ greatest * x.denominator := Nat.le_mul_of_pos_right _ x.denominator_pos

/-- A finite double stays finite when it is divided by a number that is not less than one. -/
theorem dividedBy_isFinite {x y : Double} (hx : x.isFinite) (hy : y.denominator ≤ y.numerator) :
    (x.dividedBy y).isFinite := by
  have hpos : 0 < y.numerator := Nat.lt_of_lt_of_le y.denominator_pos hy
  apply nearest_isFinite (Nat.mul_pos x.denominator_pos hpos)
  calc x.numerator * y.denominator ≤ greatest * x.denominator * y.numerator :=
        Nat.mul_le_mul (numerator_le hx) hy
    _ = greatest * (x.denominator * y.numerator) := Nat.mul_assoc _ _ _

/-- The sign makes no difference. -/
theorem negate_isFinite (x : Double) : x.negate.isFinite = x.isFinite := by
  have he : x.negate.exponentBits = x.exponentBits := by
    have hl : fractionLimit = 2 ^ 52 := rfl
    have hm : 2048 = 2 ^ 11 := rfl
    rw [exponentBits, exponentBits, hl, hm]
    apply Nat.eq_of_testBit_eq
    intro i
    simp only [Nat.testBit_mod_two_pow, Nat.testBit_div_two_pow]
    by_cases hi : i < 11
    · have hx : x.negate.bits.toNat = x.bits.toNat ^^^ 2 ^ 63 := UInt64.toNat_xor _ _
      rw [hx, Nat.testBit_xor, Nat.testBit_two_pow]
      simp only [hi, decide_true, Bool.true_and]
      rw [decide_eq_false (by omega), Bool.xor_false]
    · simp [hi]
  rw [isFinite, isFinite, he]

/-- Numbers of sixty-four bits are rounded to finite doubles. -/
theorem nearest_word_isFinite {n : Nat} (h : n < 2 ^ 64) : (nearest n 1).isFinite := by
  apply nearest_isFinite one_pos
  have hg : 1 * 2 ^ 64 ≤ greatest := le_greatest (by decide) (by decide)
  omega

/-- A word is a finite double. -/
theorem ofInt_isFinite {n : Int} (hlow : -2 ^ 64 < n) (hhigh : n < 2 ^ 64) :
    (ofInt n).isFinite := by
  have hn : (nearest n.natAbs 1).isFinite := nearest_word_isFinite (by omega)
  rw [ofInt]
  split
  · rwa [negate_isFinite]
  · exact hn

end TelemetrySpool.Double

namespace TelemetrySpool.Json.Numeral

/-- The powers of ten among the doubles are not less than one. -/
theorem one_le_powerOfTen {n : Nat} (h : n ≤ greatestPower) :
    (powerOfTen n).denominator ≤ (powerOfTen n).numerator := by
  have all : ∀ m ∈ List.range 309, (powerOfTen m).denominator ≤ (powerOfTen m).numerator := by
    decide +kernel
  exact all n (List.mem_range.2 (Nat.lt_succ_of_le h))

/-- Scaling gives finite doubles or none. -/
theorem scale_isFinite {rounds : Nat} {x y : Double} {exponent : Int} (hx : x.isFinite)
    (h : scale rounds x exponent = some y) : y.isFinite := by
  induction rounds generalizing x exponent with
  | zero =>
    cases h
    exact hx
  | succ rounds ih =>
    rw [scale] at h
    split at h
    · next hle =>
      split at h
      · simp only at h
        split at h
        · next hf =>
          cases h
          exact hf
        · cases h
      · cases h
        exact Double.dividedBy_isFinite hx (one_le_powerOfTen hle)
    · split at h
      · cases h
        exact hx
      · split at h
        · cases h
        · exact ih (Double.dividedBy_isFinite hx (one_le_powerOfTen (Nat.le_refl _))) h

/-- Digits are taken as long as they stay below the limit. -/
theorem takeDigits_lt {acc : Nat} (h : acc < limit) (digits : List Nat) :
    (takeDigits acc digits).1 < limit := by
  induction digits generalizing acc with
  | nil => exact h
  | cons d rest ih =>
    rw [takeDigits]
    split
    · next hlt => exact ih hlt
    · exact h

/-- A numeral stands for no infinity. -/
theorem magnitude?_isFinite {n : Numeral} {x : Double} (h : n.magnitude? = some x) :
    x.isFinite := by
  have hlt : n.parts.1 < limit :=
    takeDigits_lt (takeDigits_lt (by decide) n.whole) (n.fraction.getD [])
  exact scale_isFinite (Double.nearest_word_isFinite hlt) h

end TelemetrySpool.Json.Numeral
