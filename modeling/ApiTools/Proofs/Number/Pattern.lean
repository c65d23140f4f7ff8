/-
  ApiTools.Proofs.Number.Pattern
  ──────────────────────────────
  **A WHOLE NUMBER HAS ONE PATTERN, AND ZERO HAS TWO.**

  The finite numbers are counted in units of `2^-1074`, of which each of them
  is a whole number (`units`).  A count settles exponent and fraction, because
  a larger exponent comes with a leading bit (`fields_of_units_eq`); so patterns
  of one whole number have the same value (`sameValue_of_toInt?`), and they are
  equal unless that number is zero, which both zeros denote
  (`toInt?_of_isZero`).
-/
import ApiTools.Number.Double
import Mathlib.Algebra.Ring.Nat

namespace ApiTools.Double

variable {x y : Double} {i : Int}

/-! ## §1. The fields make up the pattern. -/

theorem exponentField_eq (x : Double) : x.exponentField = x.bits.toNat / 2 ^ 52 % 2 ^ 11 := by
  have shift : (x.bits >>> 52).toNat = x.bits.toNat / 2 ^ 52 := by
    rw [UInt64.toNat_shiftRight, Nat.shiftRight_eq_div_pow]
    rfl
  unfold exponentField
  rw [UInt64.toNat_and, shift]
  exact Nat.and_two_pow_sub_one_eq_mod _ 11

theorem fractionField_eq (x : Double) : x.fractionField = x.bits.toNat % 2 ^ 52 := by
  unfold fractionField
  rw [UInt64.toNat_and]
  exact Nat.and_two_pow_sub_one_eq_mod _ 52

theorem negative_eq_true_iff (x : Double) : x.negative = true ↔ x.bits.toNat / 2 ^ 63 = 1 := by
  have shift : (x.bits >>> 63).toNat = x.bits.toNat / 2 ^ 63 := by
    rw [UInt64.toNat_shiftRight, Nat.shiftRight_eq_div_pow]
    rfl
  unfold negative
  rw [beq_iff_eq, ← UInt64.toNat_inj, shift]
  rfl

theorem fractionField_lt (x : Double) : x.fractionField < 2 ^ 52 := by
  rw [fractionField_eq]
  exact Nat.mod_lt _ (by decide)

/-- Sign, exponent and fraction are all there is to a number. -/
theorem eq_of_fields (sign : x.negative = y.negative)
    (exponent : x.exponentField = y.exponentField) (fraction : x.fractionField = y.fractionField) :
    x = y := by
  have x_lt := x.bits.toNat_lt
  have y_lt := y.bits.toNat_lt
  have sign_iff : x.bits.toNat / 2 ^ 63 = 1 ↔ y.bits.toNat / 2 ^ 63 = 1 := by
    rw [← negative_eq_true_iff, ← negative_eq_true_iff, sign]
  rw [exponentField_eq, exponentField_eq] at exponent
  rw [fractionField_eq, fractionField_eq] at fraction
  have bits : x.bits.toNat = y.bits.toNat := by omega
  obtain ⟨b⟩ := x
  obtain ⟨c⟩ := y
  exact congrArg Double.mk (UInt64.toNat_inj.mp bits)

/-! ## §2. Counting units. -/

/-- The size of a finite number in units of `2^-1074`. -/
def units (x : Double) : Nat := x.magnitude.1 * 2 ^ (x.exponentField - 1)

theorem significand_eq (x : Double) :
    x.magnitude.1
      = if x.exponentField = 0 then x.fractionField else x.fractionField + 2 ^ 52 := by
  unfold magnitude
  split <;> rfl

theorem exponent_eq (x : Double) :
    x.magnitude.2 = ((x.exponentField - 1 : Nat) : Int) - 1074 := by
  unfold magnitude
  split
  next none => rw [none]; rfl
  next some => show (x.exponentField : Int) - 1075 = _; omega

theorem significand_lt (x : Double) : x.magnitude.1 < 2 ^ 53 := by
  have fraction := x.fractionField_lt
  rw [significand_eq]
  split <;> omega

/-- A number above the least exponents has its leading bit. -/
theorem le_significand (h : 1 < x.exponentField) : 2 ^ 52 ≤ x.magnitude.1 := by
  rw [significand_eq, if_neg (by omega)]
  omega

/-- As many units with a larger exponent would be too few. -/
theorem place_le_of_units_eq (h : x.units = y.units) :
    y.exponentField - 1 ≤ x.exponentField - 1 := by
  by_contra lt
  obtain ⟨k, hk⟩ : ∃ k, y.exponentField - 1 = x.exponentField - 1 + (k + 1) :=
    ⟨y.exponentField - 1 - (x.exponentField - 1) - 1, by omega⟩
  unfold units at h
  -- the common power goes, and twice a leading bit is too large for a significand
  rw [hk, Nat.pow_add, Nat.mul_left_comm, Nat.mul_comm x.magnitude.1] at h
  have same := Nat.eq_of_mul_eq_mul_left (Nat.two_pow_pos _) h
  have leading : 2 ^ 52 ≤ y.magnitude.1 := le_significand (by omega)
  have doubled : 2 ≤ 2 ^ (k + 1) := by
    rw [Nat.pow_succ]
    have := Nat.two_pow_pos k
    omega
  have too_large := Nat.mul_le_mul leading doubled
  have small := x.significand_lt
  omega

/-- Exponent and fraction can be told from the number of units. -/
theorem fields_of_units_eq (h : x.units = y.units) :
    x.exponentField = y.exponentField ∧ x.fractionField = y.fractionField := by
  have place : x.exponentField - 1 = y.exponentField - 1 :=
    Nat.le_antisymm (place_le_of_units_eq h.symm) (place_le_of_units_eq h)
  have significand : x.magnitude.1 = y.magnitude.1 := by
    unfold units at h
    rw [place] at h
    exact Nat.eq_of_mul_eq_mul_right (Nat.two_pow_pos _) h
  have x_fraction := x.fractionField_lt
  have y_fraction := y.fractionField_lt
  rw [significand_eq, significand_eq] at significand
  -- the exponents zero and one share their units, and the leading bit tells them apart
  split at significand <;> split at significand <;> omega

/-! ## §3. Whole numbers. -/

/-- The units that make up one. -/
def unitsInOne : Nat := 2 ^ 1074

/-- A whole number has a size, which its units make up, and a sign. -/
theorem size_of_toInt? (h : x.toInt? = some i) :
    x.isFinite = true
      ∧ ∃ n : Nat, n * unitsInOne = x.units ∧ i = if x.negative then -(n : Int) else n := by
  have exponent := exponent_eq x
  unfold toInt? at h
  unfold units unitsInOne
  rcases magnitude : x.magnitude with ⟨m, q⟩
  rw [magnitude] at h exponent
  cases finite : x.isFinite with
  | false =>
      rw [finite] at h
      exact absurd h (by simp)
  | true =>
      refine ⟨rfl, ?_⟩
      rw [finite] at h
      dsimp only at h exponent ⊢
      -- a whole number either has no bits behind the point, or only zeros there
      by_cases large : 0 ≤ q
      · rw [if_pos large] at h
        injection h with h
        have place : x.exponentField - 1 = q.toNat + 1074 := by omega
        refine ⟨m * 2 ^ q.toNat, ?_, h.symm⟩
        rw [place, Nat.pow_add, ← Nat.mul_assoc]
      · rw [if_neg large] at h
        by_cases divides : m % Nat.pow 2 (-q).toNat = 0
        · rw [if_pos divides] at h
          injection h with h
          have place : (-q).toNat + (x.exponentField - 1) = 1074 := by omega
          refine ⟨m / Nat.pow 2 (-q).toNat, ?_, h.symm⟩
          rw [← place, Nat.pow_add, ← Nat.mul_assoc]
          exact congrArg (· * _) (Nat.div_mul_cancel (Nat.dvd_of_mod_eq_zero divides))
        · rw [if_neg divides] at h
          exact absurd h (by simp)

theorem units_of_toInt? (h : x.toInt? = some i) : i.natAbs * unitsInOne = x.units := by
  obtain ⟨_, n, size, rfl⟩ := size_of_toInt? h
  have abs_eq : (if x.negative then -(n : Int) else n).natAbs = n := by
    split <;> omega
  rw [abs_eq, size]

/-- The sign of a whole number that is not zero. -/
theorem negative_of_toInt? (h : x.toInt? = some i) (nonzero : i ≠ 0) :
    x.negative = decide (i < 0) := by
  obtain ⟨_, n, _, rfl⟩ := size_of_toInt? h
  cases sign : x.negative with
  | false =>
      show false = decide ((n : Int) < 0)
      rw [eq_comm, decide_eq_false_iff_not]
      omega
  | true =>
      rw [sign, if_pos rfl] at nonzero
      show true = decide (-(n : Int) < 0)
      rw [eq_comm, decide_eq_true_iff]
      omega

theorem not_isNaN_of_toInt? (h : x.toInt? = some i) : x.isNaN = false := by
  obtain ⟨finite, _⟩ := size_of_toInt? h
  unfold isFinite at finite
  unfold isNaN
  rw [bne_iff_ne, ← beq_eq_false_iff_ne] at finite
  rw [finite, Bool.false_and]

theorem isZero_of_units (h : x.units = 0) : x.isZero = true := by
  unfold units at h
  have positive := Nat.two_pow_pos (x.exponentField - 1)
  have significand : x.magnitude.1 = 0 := by
    rcases Nat.mul_eq_zero.mp h with h | h <;> omega
  rw [significand_eq] at significand
  unfold isZero
  rw [Bool.and_eq_true, beq_iff_eq, beq_iff_eq]
  split at significand <;> omega

theorem toInt?_of_isZero (h : x.isZero = true) : x.toInt? = some 0 := by
  unfold isZero at h
  rw [Bool.and_eq_true, beq_iff_eq, beq_iff_eq] at h
  obtain ⟨exponent, fraction⟩ := h
  have magnitude_eq : x.magnitude = (0, -1074) := by
    unfold magnitude
    rw [if_pos exponent, fraction]
  have finite : x.isFinite = true := by
    unfold isFinite
    rw [exponent]
    rfl
  unfold toInt?
  rw [finite, magnitude_eq]
  dsimp only
  rw [if_neg (by decide), if_neg (by decide), if_pos (Nat.zero_mod _), Nat.zero_div]
  cases x.negative <;> rfl

/-- **Patterns of one whole number have the same value.** -/
theorem sameValue_of_toInt? (hx : x.toInt? = some i) (hy : y.toInt? = some i) :
    x.sameValue y = true := by
  have units_eq : x.units = y.units := (units_of_toInt? hx).symm.trans (units_of_toInt? hy)
  unfold sameValue
  by_cases zero : i = 0
  · subst zero
    have x_units := units_of_toInt? hx
    rw [Int.natAbs_zero, Nat.zero_mul] at x_units
    rw [isZero_of_units x_units.symm, isZero_of_units (x_units.trans units_eq).symm]
    simp
  · obtain ⟨exponent, fraction⟩ := fields_of_units_eq units_eq
    have sign : x.negative = y.negative := by
      rw [negative_of_toInt? hx zero, negative_of_toInt? hy zero]
    rw [eq_of_fields sign exponent fraction]
    simp

end ApiTools.Double
