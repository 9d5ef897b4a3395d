import Mathlib

/-!
# Floating-point numbers as rational numbers

A floating-point number that is finite stands for a rational number: for zero, or for a sign, a
mantissa and a power of two.  The others, among them the one that is not a number, stand for none.
The comparisons with zero and one that floating-point numbers have are those of the rational
numbers.

## Main definitions

* `Decimal.amount?`: the rational number that a floating-point number stands for.

## Main results

* `Decimal.share_iff_amount`: the floating-point numbers from zero to one.
-/

namespace Matchday.Decimal

open Float.Model Float.Model.UnpackedFloat

/-- The rational number that a floating-point number stands for, taken apart. -/
def unpackedAmount? : UnpackedFloat → Option ℚ
  | .infinity _ => none
  | .notANumber => none
  | .zero _ => some 0
  | .finite sign mantissa exponent _ => some (sign.apply (mantissa : Int) * 2 ^ exponent)

/-- The rational number that a floating-point number stands for. -/
def amount? (x : Float) : Option ℚ :=
  unpackedAmount? x.toModel.unpack

/-- **Mantissas have 53 bits** but for the least exponent, with which they can have fewer. -/
theorem mantissa_bounds {f : Float.Model} {sign : Sign} {mantissa : Nat} {exponent : Int}
    {hpos : 0 < mantissa} (h : f.unpack = .finite sign mantissa exponent hpos) :
    mantissa < 2 ^ 53 ∧ (2 ^ 52 ≤ mantissa ∨ exponent = -1074) := by
  rw [Float.Model.unpack, UnpackedFloat.unpack] at h
  split at h
  · split at h <;> cases h
  · split at h
    · split at h
      · cases h
      · next hexponent _ =>
        cases h
        refine ⟨lt_of_lt_of_le (BitVec.isLt _) (by decide), Or.inr ?_⟩
        rw [hexponent]
        decide
    · cases h
      refine ⟨BitVec.isLt _, Or.inl ?_⟩
      rw [BitVec.toNat_append, Nat.shiftLeft_eq]
      exact Nat.left_le_or

theorem unpack_one : (1 : Float).toModel.unpack = .finite .positive (2 ^ 52) (-52) (by decide) := by
  rfl

theorem unpack_zero : (0 : Float).toModel.unpack = .zero .positive := by
  rfl

/-- A positive number is at most one when its exponent is small enough for its mantissa. -/
theorem scaled_le_one_iff {mantissa : Nat} {exponent : Int} (hlt : mantissa < 2 ^ 53)
    (hleast : 2 ^ 52 ≤ mantissa ∨ exponent = -1074) :
    (mantissa : ℚ) * 2 ^ exponent ≤ 1 ↔
      exponent < -52 ∨ exponent = -52 ∧ mantissa ≤ 2 ^ 52 := by
  have hbase : (1 : ℚ) ≤ 2 := by norm_num
  rcases lt_trichotomy exponent (-52) with hsmall | rfl | hlarge
  · refine iff_of_true ?_ (Or.inl hsmall)
    have hmantissa : (mantissa : ℚ) ≤ 2 ^ 53 := by exact_mod_cast hlt.le
    have hpower : (2 : ℚ) ^ exponent ≤ 2 ^ (-53 : Int) := zpow_le_zpow_right₀ hbase (by omega)
    calc (mantissa : ℚ) * 2 ^ exponent
        ≤ 2 ^ 53 * 2 ^ (-53 : Int) := by gcongr
      _ = 1 := by norm_num
  · have hscale : (mantissa : ℚ) * 2 ^ (-52 : Int) ≤ 1 ↔ (mantissa : ℚ) ≤ 2 ^ 52 := by
      rw [zpow_neg, ← div_eq_mul_inv, div_le_iff₀ (by positivity)]
      norm_num
    rw [hscale]
    have hcast : (mantissa : ℚ) ≤ 2 ^ 52 ↔ mantissa ≤ 2 ^ 52 := by exact_mod_cast Iff.rfl
    rw [hcast]
    omega
  · have hmantissa : 2 ^ 52 ≤ mantissa := hleast.resolve_right (by omega)
    refine iff_of_false (not_le.2 ?_) (by omega)
    have hmantissa : (2 : ℚ) ^ 52 ≤ mantissa := by exact_mod_cast hmantissa
    have hpower : (2 : ℚ) ^ (-51 : Int) ≤ 2 ^ exponent := zpow_le_zpow_right₀ hbase (by omega)
    calc (1 : ℚ) < 2 ^ 52 * 2 ^ (-51 : Int) := by norm_num
      _ ≤ mantissa * 2 ^ exponent := by gcongr

theorem le_iff_unpack {x y : Float} :
    x ≤ y ↔ (UnpackedFloat.compare x.toModel.unpack y.toModel.unpack).any (·.isLE) := by
  change Float.le x y = true ↔ _
  rw [Float.le, decide_eq_true_iff]
  rfl

/-- **The floating-point numbers from zero to one** are those that stand for a rational number from
zero to one. -/
theorem share_iff_amount {x : Float} : 0 ≤ x ∧ x ≤ 1 ↔ ∃ q, amount? x = some q ∧ 0 ≤ q ∧ q ≤ 1 := by
  rw [le_iff_unpack, le_iff_unpack, unpack_zero, unpack_one, amount?]
  cases h : x.toModel.unpack with
  | notANumber => simp [UnpackedFloat.compare, unpackedAmount?]
  | infinity sign => cases sign <;> simp [UnpackedFloat.compare, unpackedAmount?]
  | zero sign => cases sign <;> simp [UnpackedFloat.compare, unpackedAmount?]
  | finite sign mantissa exponent hpos =>
    have hscale : (0 : ℚ) < mantissa * 2 ^ exponent := by positivity
    cases sign with
    | negative =>
      have hneg : ¬ (0 : ℚ) ≤ -(mantissa * 2 ^ exponent) := by simpa using hscale
      simp [UnpackedFloat.compare, unpackedAmount?, Sign.apply, hneg]
    | positive =>
      obtain ⟨hlt, hleast⟩ := mantissa_bounds h
      have horder : ((compare exponent (-52)).then (compare mantissa (2 ^ 52))).isLE ↔
          (mantissa : ℚ) * 2 ^ exponent ≤ 1 := by
        rw [scaled_le_one_iff hlt hleast, Ordering.isLE_then_iff_or, compare_lt_iff_lt,
          compare_eq_iff_eq, Nat.isLE_compare]
      simpa [UnpackedFloat.compare, unpackedAmount?, Sign.apply, hscale.le] using horder

end Matchday.Decimal
