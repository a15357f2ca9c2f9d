import Mathlib.Algebra.Ring.Int.Defs
import Mathlib.Algebra.Ring.Nat
import SqlPipeline.Number.Double

/-!
Doubles that stand for whole numbers between 2 ^ 63 and 2 ^ 64, as the bits have them. They are
finite, and brought down to a whole number of 64 bits with a sign they are the largest one.
-/

namespace SqlPipeline.Double

/-- The number is from 2 ^ 63 to 2 ^ 64, both included. -/
def Large (x : Double) : Prop :=
  1086 * 2 ^ 52 ≤ x.bits.toNat ∧ x.bits.toNat ≤ 1087 * 2 ^ 52

section Large
variable {x : Double}

theorem toNat_shiftRight_bits (x : Double) {places : UInt64} (inside : places.toNat < 64) :
    (x.bits >>> places).toNat = x.bits.toNat / 2 ^ places.toNat := by
  rw [UInt64.toNat_shiftRight, Nat.mod_eq_of_lt inside, Nat.shiftRight_eq_div_pow]

theorem Large.exponentField (large : Large x) :
    x.exponentField = 1086 ∨ x.exponentField = 1087 := by
  obtain ⟨low, high⟩ := large
  have field : (x.bits >>> 52).toNat = x.bits.toNat / 2 ^ 52 := toNat_shiftRight_bits x (by decide)
  rw [Double.exponentField, field]
  omega

theorem Large.negative (large : Large x) : x.negative = false := by
  obtain ⟨low, high⟩ := large
  have sign : (x.bits >>> 63).toNat = x.bits.toNat / 2 ^ 63 := toNat_shiftRight_bits x (by decide)
  have none : x.bits >>> 63 = 0 := UInt64.toNat_inj.mp (by rw [sign, UInt64.toNat_zero]; omega)
  rw [Double.negative, none]
  rfl

theorem Large.isFinite (large : Large x) : x.isFinite = true := by
  rw [Double.isFinite]
  rcases large.exponentField with field | field <;> simp [field]

theorem Large.truncated (large : Large x) : 2 ^ 63 ≤ x.truncated := by
  have significand : 2 ^ 52 ≤ x.significand := by
    have field : x.exponentField ≠ 0 := by
      rcases large.exponentField with field | field <;> simp [field]
    rw [Double.significand, if_neg field]
    exact Nat.le_add_right _ _
  have whole : 2 ^ 63 ≤ x.ratio.1 ∧ x.ratio.2 = 1 := by
    rcases large.exponentField with field | field <;>
      simp [Double.ratio, Double.exponent, field] <;> omega
  simp only [Double.truncated, large.negative, Bool.false_eq_true, if_false, whole.2, Nat.div_one]
  exact_mod_cast whole.1

theorem Large.saturated (large : Large x) : x.saturated = 2 ^ 63 - 1 := by
  have whole := large.truncated
  have number : x.isNaN = false := by
    rcases large.exponentField with field | field <;> simp [Double.isNaN, field]
  have finite : x.isInfinite = false := by
    rcases large.exponentField with field | field <;> simp [Double.isInfinite, field]
  have bound : Int.pow 2 63 = 2 ^ 63 := by decide
  simp only [Double.saturated, number, finite, Bool.false_eq_true, if_false, bound]
  omega

end Large

theorem nearestWhole_bounds {num den low high : Nat} (positive : 0 < den) (above : low * den ≤ num)
    (below : num < high * den) : low ≤ nearestWhole num den ∧ nearestWhole num den ≤ high := by
  have least : low ≤ num / den := (Nat.le_div_iff_mul_le positive).mpr above
  have most : num / den < high := (Nat.div_lt_iff_lt_mul positive).mpr below
  unfold nearestWhole
  simp only
  split
  · omega
  · split <;> omega

theorem binaryOrder_whole {n : Nat} (some : n ≠ 0) : binaryOrder n 1 = n.log2 := by
  have reached : 1 * Nat.pow 2 n.log2 ≤ n := by
    rw [Nat.one_mul]
    exact Nat.log2_self_le some
  have guess : (n.log2 : Int) - (Nat.log2 1 : Nat) = n.log2 := Int.sub_zero _
  simp only [binaryOrder, guess, Int.natCast_nonneg, if_true, Int.toNat_natCast, if_pos reached]

theorem large_ofWhole {n : Nat} (low : 2 ^ 63 ≤ n) (high : n < 2 ^ 64) : Large (ofWhole n) := by
  have some : n ≠ 0 := by omega
  have log : n.log2 = 63 := (Nat.log2_eq_iff some).mpr ⟨low, high⟩
  obtain ⟨least, most⟩ : 2 ^ 52 ≤ nearestWhole n (2 ^ 11) ∧ nearestWhole n (2 ^ 11) ≤ 2 ^ 53 :=
    nearestWhole_bounds (by decide) (by omega) (by omega)
  have same : ofWhole n =
      signed false (min infinityBits (nearestWhole n (2 ^ 11) + 1085 * Nat.pow 2 52)) := by
    have plain : ¬ (n : Int) < 0 := by omega
    rw [ofWhole, Int.natAbs_natCast, decide_eq_false plain, ofRatio, if_neg some,
      binaryOrder_whole some, log]
    rfl
  have bits : (ofWhole n).bits.toNat = nearestWhole n (2 ^ 11) + 1085 * 2 ^ 52 := by
    have finite : infinityBits = 2047 * 2 ^ 52 := rfl
    rw [same, signed, UInt64.toNat_ofNat', finite, if_neg Bool.false_ne_true, Nat.pow_eq]
    omega
  rw [Large, bits]
  omega

end SqlPipeline.Double
