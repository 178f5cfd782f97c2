import Mathlib.Algebra.Order.Field.Rat
import Mathlib.Algebra.Order.Field.Power
import Mathlib.Data.Int.Cast.Lemmas
import Mathlib.Tactic.Linarith
import Mathlib.Tactic.NormNum
import Mathlib.Tactic.Ring
import SwarmDeploy.Number.Binary64

/-! The magnitudes of binary64 as rational numbers, and what it is to round to one.
What is beyond the range counts as the first power of two that is out of it: a number that is
nearest to that one has no magnitude. Between two even magnitudes lies an odd one, so rounding
keeps the order of numbers. -/

namespace SwarmDeploy.Number.Binary64

def significand : Binary64 → ℕ
  | .finite m _ => m
  | .infinite => 2 ^ 53

def exponent : Binary64 → ℤ
  | .finite _ e => e
  | .infinite => maxExponent

def value (b : Binary64) : ℚ :=
  b.significand * 2 ^ b.exponent

/-- The format holds 53 bits, of which the first is set unless the exponent is the least. -/
def IsMagnitude : Binary64 → Prop
  | .finite m e =>
    m < 2 ^ 53 ∧ minExponent ≤ e ∧ e ≤ maxExponent ∧ (2 ^ 52 ≤ m ∨ e = minExponent)
  | .infinite => True

/-- No magnitude is nearer to a number, and one that is equally near leaves the even one. -/
structure RoundsTo (x : ℚ) (b : Binary64) : Prop where
  magnitude : b.IsMagnitude
  nearest : ∀ c, IsMagnitude c → |x - b.value| ≤ |x - c.value|
  even : ∀ c, IsMagnitude c → c.value ≠ b.value → |x - c.value| = |x - b.value| →
    Even b.significand

theorem two_zpow_pos (e : ℤ) : (0 : ℚ) < 2 ^ e :=
  zpow_pos (by norm_num) e

theorem two_zpow_succ (e : ℤ) : (2 : ℚ) ^ (e + 1) = 2 * 2 ^ e := by
  rw [zpow_add_one₀ (by norm_num), mul_comm]

theorem two_zpow_le {e f : ℤ} (le : e ≤ f) : (2 : ℚ) ^ e ≤ 2 ^ f :=
  zpow_le_zpow_right₀ (by norm_num) le

variable {b c : Binary64} {x y : ℚ} {e : ℤ} {m : ℕ}

theorem value_nonneg (b : Binary64) : 0 ≤ b.value :=
  mul_nonneg (Nat.cast_nonneg _) (two_zpow_pos _).le

namespace IsMagnitude

theorem significand_le (magnitude : b.IsMagnitude) : b.significand ≤ 2 ^ 53 := by
  cases b with
  | finite m e => exact magnitude.1.le
  | infinite => exact le_refl _

theorem le_exponent (magnitude : b.IsMagnitude) : minExponent ≤ b.exponent := by
  cases b with
  | finite m e => exact magnitude.2.1
  | infinite => decide

theorem exponent_le (magnitude : b.IsMagnitude) : b.exponent ≤ maxExponent := by
  cases b with
  | finite m e => exact magnitude.2.2.1
  | infinite => exact le_refl _

theorem normal (magnitude : b.IsMagnitude) (above : minExponent < b.exponent) :
    2 ^ 52 ≤ b.significand := by
  cases b with
  | finite m e => exact magnitude.2.2.2.resolve_right above.ne'
  | infinite => decide

theorem value_le (magnitude : b.IsMagnitude) : b.value ≤ infinite.value := by
  have bits : (b.significand : ℚ) ≤ (2 ^ 53 : ℕ) := Nat.cast_le.2 magnitude.significand_le
  exact mul_le_mul bits (two_zpow_le magnitude.exponent_le) (two_zpow_pos _).le
    (Nat.cast_nonneg _)

end IsMagnitude

theorem value_eq_of_le_exponent (le : e ≤ b.exponent) :
    b.value = (b.significand * 2 ^ (b.exponent - e).toNat : ℕ) * 2 ^ e := by
  have split : (b.exponent - e).toNat + e = b.exponent := by omega
  rw [value, Nat.cast_mul, Nat.cast_pow, Nat.cast_two, mul_assoc, ← zpow_natCast,
    ← zpow_add₀ (by norm_num), split]

theorem IsMagnitude.value_le_of_exponent_lt (magnitude : b.IsMagnitude) (lt : b.exponent < e) :
    b.value ≤ 2 ^ 52 * 2 ^ e := by
  have bits : (b.significand : ℚ) ≤ 2 * 2 ^ 52 := by
    have bits : (b.significand : ℚ) ≤ (2 ^ 53 : ℕ) := Nat.cast_le.2 magnitude.significand_le
    norm_num at bits ⊢
    exact bits
  calc b.value ≤ 2 * 2 ^ 52 * 2 ^ (e - 1) :=
        mul_le_mul bits (two_zpow_le (by omega)) (two_zpow_pos _).le (by norm_num)
    _ = 2 ^ 52 * 2 ^ (e - 1 + 1) := by rw [two_zpow_succ]; ring
    _ = 2 ^ 52 * 2 ^ e := by rw [sub_add_cancel]

theorem IsMagnitude.le_value_of_lt_exponent (magnitude : b.IsMagnitude)
    (above : minExponent < b.exponent) (le : e ≤ b.exponent) : 2 ^ 52 * 2 ^ e ≤ b.value := by
  have bits : ((2 ^ 52 : ℕ) : ℚ) ≤ b.significand := Nat.cast_le.2 (magnitude.normal above)
  rw [Nat.cast_pow, Nat.cast_two] at bits
  exact mul_le_mul bits (two_zpow_le le) (two_zpow_pos _).le (Nat.cast_nonneg _)

theorem IsMagnitude.value_le_of_lt (magnitude : b.IsMagnitude) (low : minExponent ≤ e)
    (lt : b.value < 2 ^ 53 * 2 ^ e) : b.value ≤ (2 ^ 53 - 1) * 2 ^ e := by
  have scale := two_zpow_pos e
  rcases lt_trichotomy b.exponent e with below | rfl | above
  · have small : b.value ≤ 2 ^ 52 * 2 ^ e := magnitude.value_le_of_exponent_lt below
    exact small.trans (mul_le_mul_of_nonneg_right (by norm_num) scale.le)
  · have bits : (b.significand : ℚ) < (2 ^ 53 : ℕ) := by
      exact_mod_cast lt_of_mul_lt_mul_right lt scale.le
    have bits : b.significand + 1 ≤ 2 ^ 53 := Nat.cast_lt.1 bits
    have bits : (b.significand : ℚ) + 1 ≤ 2 ^ 53 := by exact_mod_cast bits
    exact mul_le_mul_of_nonneg_right (by linarith) scale.le
  · have large := magnitude.le_value_of_lt_exponent (by omega) (e := e + 1) (by omega)
    rw [two_zpow_succ] at large
    exact absurd lt (not_lt.2 (by linarith))

/-- A number of few bits is a magnitude once its first bit is in place: every doubling of the
significand lowers the exponent by one. -/
theorem exists_magnitude (bits : m < 2 ^ 53) (low : minExponent ≤ e) (high : e ≤ maxExponent) :
    ∃ b, IsMagnitude b ∧ b.value = m * 2 ^ e := by
  induction steps : (e - minExponent).toNat generalizing m e with
  | zero => exact ⟨.finite m e, ⟨bits, low, high, .inr (by omega)⟩, rfl⟩
  | succ n ih =>
    by_cases normal : 2 ^ 52 ≤ m
    · exact ⟨.finite m e, ⟨bits, low, high, .inl normal⟩, rfl⟩
    · obtain ⟨b, magnitude, eq⟩ := ih (m := 2 * m) (e := e - 1) (by omega) (by omega)
        (by omega) (by omega)
      refine ⟨b, magnitude, ?_⟩
      rw [eq, ← sub_add_cancel e 1, two_zpow_succ, sub_add_cancel, Nat.cast_mul, Nat.cast_two]
      ring

theorem exists_magnitude_of_le (bits : m ≤ 2 ^ 53) (low : minExponent ≤ e)
    (high : e < maxExponent) : ∃ b, IsMagnitude b ∧ b.value = m * 2 ^ e := by
  rcases bits.eq_or_lt with rfl | bits
  · obtain ⟨b, magnitude, eq⟩ := exists_magnitude (m := 2 ^ 52) (e := e + 1) (by decide)
      (by omega) (by omega)
    refine ⟨b, magnitude, ?_⟩
    rw [eq, two_zpow_succ]
    push_cast
    ring
  · exact exists_magnitude bits low high.le

theorem RoundsTo.value_eq (rounds : RoundsTo x b) (magnitude : c.IsMagnitude) (eq : c.value = x) :
    b.value = x := by
  have near := rounds.nearest c magnitude
  rw [eq, sub_self, abs_zero] at near
  exact (sub_eq_zero.1 (abs_nonpos_iff.1 near)).symm

theorem roundsTo_infinite (beyond : infinite.value ≤ x) : RoundsTo x infinite where
  magnitude := trivial
  nearest c magnitude := by
    have le := magnitude.value_le
    rw [abs_of_nonneg (sub_nonneg.2 beyond), abs_of_nonneg (sub_nonneg.2 (le.trans beyond))]
    exact sub_le_sub_left le x
  even _ _ _ _ := by decide

/-- The significand behind an even one is odd, and its magnitude is below every even one that
follows. -/
theorem exists_magnitude_between (magnitude : b.IsMagnitude) (magnitude' : c.IsMagnitude)
    (even : Even b.significand) (even' : Even c.significand) (lt : b.value < c.value) :
    ∃ d, IsMagnitude d ∧ b.value < d.value ∧ d.value < c.value := by
  cases b with
  | infinite => exact absurd magnitude'.value_le (not_le.2 lt)
  | finite m e =>
    obtain ⟨bits, low, high, normal⟩ := magnitude
    obtain ⟨k, half⟩ : Even m := even
    have scale := two_zpow_pos e
    have value_eq (n : ℕ) : (finite n e).value = n * 2 ^ e := rfl
    refine ⟨.finite (m + 1) e, ⟨by omega, low, high, by omega⟩, ?_, ?_⟩
    · rw [value_eq, value_eq]
      exact mul_lt_mul_of_pos_right (Nat.cast_lt.2 (Nat.lt_succ_self m)) scale
    · rw [value_eq] at lt ⊢
      rcases le_or_gt e c.exponent with le | below
      · rw [value_eq_of_le_exponent le] at lt ⊢
        generalize grid : c.significand * 2 ^ (c.exponent - e).toNat = j at lt ⊢
        have evenGrid : Even j := grid ▸ even'.mul_right _
        obtain ⟨l, half'⟩ := evenGrid
        have next : m < j := Nat.cast_lt.1 (lt_of_mul_lt_mul_right lt scale.le)
        exact mul_lt_mul_of_pos_right (Nat.cast_lt.2 (by omega)) scale
      · have notLeast : e ≠ minExponent := fun least => by
          have := magnitude'.le_exponent
          omega
        have bits : (2 ^ 52 : ℚ) ≤ m := by
          exact_mod_cast normal.resolve_right notLeast
        have small := magnitude'.value_le_of_exponent_lt below
        exact absurd (small.trans (mul_le_mul_of_nonneg_right bits scale.le)) (not_le.2 lt)

theorem add_le_of_abs_sub_le {u v : ℚ} (lt : u < v) (near : |x - v| ≤ |x - u|) :
    u + v ≤ 2 * x := by
  rcases abs_cases (x - v) with ⟨eq, _⟩ | ⟨eq, _⟩ <;>
    rcases abs_cases (x - u) with ⟨eq', _⟩ | ⟨eq', _⟩ <;> linarith

/-- Rounding keeps the order: were it reversed, both numbers would be in the middle of two even
magnitudes, and the odd one between them would be nearer. -/
theorem RoundsTo.mono (rounds : RoundsTo x b) (rounds' : RoundsTo y c) (le : x ≤ y) :
    b.value ≤ c.value := by
  by_contra reversed
  rw [not_le] at reversed
  have near := rounds.nearest c rounds'.magnitude
  have near' := rounds'.nearest b rounds.magnitude
  have middle : c.value + b.value ≤ 2 * x := add_le_of_abs_sub_le reversed near
  -- the other half is the same for the numbers below zero
  have middle' : -b.value + -c.value ≤ 2 * -y := by
    refine add_le_of_abs_sub_le (neg_lt_neg reversed) ?_
    rwa [neg_sub_neg, neg_sub_neg, abs_sub_comm, abs_sub_comm b.value]
  obtain rfl : x = y := le_antisymm le (by linarith)
  have tie : |x - c.value| = |x - b.value| := le_antisymm near' near
  have even := rounds.even c rounds'.magnitude reversed.ne tie
  have even' := rounds'.even b rounds.magnitude reversed.ne' tie.symm
  obtain ⟨d, magnitude, above, below⟩ :=
    exists_magnitude_between rounds'.magnitude rounds.magnitude even' even reversed
  have nearer := rounds.nearest d magnitude
  have off : |x - d.value| < |x - b.value| := by
    rw [abs_sub_comm x b.value, abs_of_nonneg (by linarith : (0 : ℚ) ≤ b.value - x), abs_lt]
    constructor <;> linarith
  exact absurd nearer (not_le.2 off)

end SwarmDeploy.Number.Binary64
