import Mathlib.Algebra.Order.Floor.Semifield
import Mathlib.Data.Rat.Floor
import SwarmDeploy.Proofs.Number.Magnitude

/-! Arithmetic on binary64 rounds the exact result.
A positive fraction is put on the grid of its binary order, where it is at least `2 ^ 52` unless
the exponent is the least: magnitudes off the grid are then below that point of it, and the
nearest point of the grid is the nearest magnitude. -/

namespace SwarmDeploy.Number.Binary64

variable {num den : ℕ} {k e : ℤ} {x y : ℚ} {m : ℕ} {b c : Binary64}

theorem zpow_eq_div {a : ℚ} (ne : a ≠ 0) (k : ℤ) : a ^ k = a ^ k.toNat / a ^ (-k).toNat := by
  have split : k = (k.toNat : ℤ) - ((-k).toNat : ℤ) := by omega
  conv_lhs => rw [split]
  rw [zpow_sub₀ ne, zpow_natCast, zpow_natCast]

theorem scaled_value (num den : ℕ) (k : ℤ) :
    ((scaled num den k).1 : ℚ) / (scaled num den k).2 = num / den * 2 ^ k := by
  rw [zpow_eq_div two_ne_zero, scaled]
  push_cast [Nat.pow_eq]
  rw [mul_div_mul_comm]

theorem scaled_pos (num : ℕ) (pos : 0 < den) (k : ℤ) : 0 < (scaled num den k).2 :=
  Nat.mul_pos pos (Nat.two_pow_pos _)

structure IsNearest (y : ℚ) (m : ℕ) : Prop where
  close : |y - m| ≤ 1 / 2
  even : |y - m| = 1 / 2 → Even m

theorem isNearest_below {f : ℚ} (q : ℕ) (nonneg : 0 ≤ f) (small : f < 1 / 2) :
    IsNearest (q + f) q := by
  have distance : |(q : ℚ) + f - q| = f := by rw [add_sub_cancel_left, abs_of_nonneg nonneg]
  exact ⟨by rw [distance]; exact small.le, fun tie => absurd (distance.symm.trans tie) small.ne⟩

theorem isNearest_above {f : ℚ} (q : ℕ) (large : 1 / 2 < f) (proper : f < 1) :
    IsNearest (q + f) (q + 1) := by
  have distance : |(q : ℚ) + f - (q + 1 : ℕ)| = 1 - f := by
    rw [Nat.cast_add, Nat.cast_one, add_sub_add_left_eq_sub, abs_sub_comm,
      abs_of_nonneg (by linarith)]
  exact ⟨by rw [distance]; linarith, fun tie => by rw [distance] at tie; linarith⟩

theorem isNearest_half (q : ℕ) : IsNearest (q + 1 / 2) (q + q % 2) := by
  refine ⟨?_, fun _ => ?_⟩
  · rcases Nat.mod_two_eq_zero_or_one q with parity | parity <;> rw [parity] <;> norm_num
  · rw [Nat.even_iff]
    omega

theorem nearestEven_isNearest (num : ℕ) (pos : 0 < den) :
    IsNearest (num / den) (nearestEven num den) := by
  have posRat : (0 : ℚ) < den := Nat.cast_pos.2 pos
  have whole : (num : ℚ) / den = (num / den : ℕ) + (num % den : ℕ) / den := by
    rw [div_eq_iff posRat.ne', add_mul, div_mul_cancel₀ _ posRat.ne']
    exact_mod_cast (Nat.div_add_mod' num den).symm
  have below : num % den < den := Nat.mod_lt num pos
  rw [whole]
  unfold nearestEven
  dsimp only
  split
  · rename_i lower
    refine isNearest_below _ (by positivity) ?_
    rw [div_lt_div_iff₀ posRat two_pos]
    exact_mod_cast (by omega : num % den * 2 < 1 * den)
  · split
    · rename_i upper
      refine isNearest_above _ ?_ ?_
      · rw [div_lt_div_iff₀ two_pos posRat]
        exact_mod_cast (by omega : 1 * den < num % den * 2)
      · rw [div_lt_one posRat]
        exact_mod_cast below
    · have half : ((num % den : ℕ) : ℚ) / den = 1 / 2 := by
        rw [div_eq_div_iff posRat.ne' two_ne_zero]
        exact_mod_cast (by omega : num % den * 2 = 1 * den)
      rw [half]
      exact isNearest_half _

theorem one_le_abs_sub {i j : ℕ} (ne : i ≠ j) : (1 : ℚ) ≤ |(i : ℚ) - j| := by
  have apart : 1 ≤ |(i : ℤ) - j| := Int.one_le_abs (by omega)
  exact_mod_cast apart

namespace IsNearest

theorem le (nearest : IsNearest y m) (j : ℕ) : |y - m| ≤ |y - j| := by
  rcases eq_or_ne m j with rfl | ne
  · exact le_refl _
  · have apart := (one_le_abs_sub ne).trans (abs_sub_le (m : ℚ) y j)
    rw [abs_sub_comm (m : ℚ) y] at apart
    linarith [nearest.close]

theorem even_of_tie (nearest : IsNearest y m) {j : ℕ} (ne : j ≠ m) (tie : |y - j| = |y - m|) :
    Even m := by
  have apart := (one_le_abs_sub ne.symm).trans (abs_sub_le (m : ℚ) y j)
  rw [abs_sub_comm (m : ℚ) y, tie] at apart
  exact nearest.even (le_antisymm nearest.close (by linarith))

theorem le_of_le (nearest : IsNearest y m) {n : ℕ} (le : y ≤ n) : m ≤ n := by
  have near := nearest.le n
  rw [abs_sub_comm y n, abs_of_nonneg (sub_nonneg.2 le), abs_sub_comm] at near
  have := (le_abs_self _).trans near
  exact Nat.cast_le.1 (by linarith : (m : ℚ) ≤ n)

theorem le_of_ge (nearest : IsNearest y m) {n : ℕ} (ge : n ≤ y) : n ≤ m := by
  have near := nearest.le n
  rw [abs_of_nonneg (sub_nonneg.2 ge)] at near
  have := (le_abs_self _).trans near
  exact Nat.cast_le.1 (by linarith : (n : ℚ) ≤ m)

end IsNearest

theorem abs_sub_grid (x : ℚ) (e : ℤ) (j : ℕ) : |x - j * 2 ^ e| = 2 ^ e * |x / 2 ^ e - j| := by
  have scale := two_zpow_pos e
  rw [← abs_of_pos scale, ← abs_mul, abs_of_pos scale, mul_sub, mul_div_cancel₀ _ scale.ne',
    mul_comm (j : ℚ)]

/-- The nearest point of the grid is the nearest magnitude. Off the grid are only magnitudes below
`2 ^ 52` steps of it. -/
theorem roundsTo_of_isNearest (magnitude : b.IsMagnitude) (value : b.value = m * 2 ^ e)
    (even : Even m → Even b.significand) (nearest : IsNearest (x / 2 ^ e) m)
    (normal : 2 ^ 52 ≤ x / 2 ^ e ∨ e = minExponent) : RoundsTo x b := by
  have scale := two_zpow_pos e
  have onGrid (j : ℕ) : |x - m * 2 ^ e| ≤ |x - j * 2 ^ e| := by
    rw [abs_sub_grid, abs_sub_grid]
    exact mul_le_mul_of_nonneg_left (nearest.le j) scale.le
  have offGrid (c : Binary64) (magnitude : c.IsMagnitude) (below : c.exponent < e) :
      |x - (2 ^ 52 : ℕ) * 2 ^ e| ≤ |x - c.value| := by
    have small := magnitude.value_le_of_exponent_lt below
    have large : 2 ^ 52 * 2 ^ e ≤ x := by
      refine (le_div_iff₀ scale).1 (normal.resolve_right fun least => ?_)
      have := magnitude.le_exponent
      omega
    push_cast
    rw [abs_of_nonneg (by linarith), abs_of_nonneg (by linarith)]
    linarith
  refine ⟨magnitude, fun c magnitude => ?_, fun c magnitude ne tie => even ?_⟩
  · rw [value]
    rcases le_or_gt e c.exponent with le | below
    · rw [value_eq_of_le_exponent le]
      exact onGrid _
    · exact (onGrid _).trans (offGrid c magnitude below)
  · rw [value] at ne tie
    rcases le_or_gt e c.exponent with le | below
    · rw [value_eq_of_le_exponent le, abs_sub_grid, abs_sub_grid] at tie
      refine nearest.even_of_tie (fun eq => ne ?_) (mul_left_cancel₀ scale.ne' tie)
      rw [value_eq_of_le_exponent le, eq]
    · rcases eq_or_ne m (2 ^ 52) with rfl | other
      · decide
      · have tie := le_antisymm ((offGrid c magnitude below).trans tie.le) (onGrid _)
        rw [abs_sub_grid, abs_sub_grid] at tie
        exact nearest.even_of_tie other.symm (mul_left_cancel₀ scale.ne' tie)

theorem binaryOrder_spec (posNum : 0 < num) (posDen : 0 < den) :
    (2 : ℚ) ^ binaryOrder num den ≤ num / den ∧
      (num : ℚ) / den < 2 ^ (binaryOrder num den + 1) := by
  have num_ge : (2 : ℚ) ^ (num.log2 : ℤ) ≤ num := by
    rw [zpow_natCast]
    exact_mod_cast Nat.log2_self_le posNum.ne'
  have num_lt : (num : ℚ) < 2 ^ ((num.log2 : ℤ) + 1) := by
    exact_mod_cast (Nat.lt_log2_self : num < 2 ^ (num.log2 + 1))
  have den_ge : (2 : ℚ) ^ (den.log2 : ℤ) ≤ den := by
    rw [zpow_natCast]
    exact_mod_cast Nat.log2_self_le posDen.ne'
  have den_lt : (den : ℚ) < 2 ^ ((den.log2 : ℤ) + 1) := by
    exact_mod_cast (Nat.lt_log2_self : den < 2 ^ (den.log2 + 1))
  have numRat : (0 : ℚ) < num := Nat.cast_pos.2 posNum
  have denRat : (0 : ℚ) < den := Nat.cast_pos.2 posDen
  unfold binaryOrder
  extract_lets order below
  have reached : below.1 ≤ below.2 ↔ (2 : ℚ) ^ order ≤ num / den := by
    have posBelow : (0 : ℚ) < below.2 := Nat.cast_pos.2 (scaled_pos den posNum _)
    rw [← Nat.cast_le (α := ℚ), ← div_le_one posBelow, scaled_value, div_mul_eq_mul_div,
      div_le_one numRat, le_div_iff₀ denRat, mul_comm]
  split
  · rename_i below_le
    refine ⟨reached.1 below_le, ?_⟩
    calc (num : ℚ) / den < 2 ^ ((num.log2 : ℤ) + 1) / 2 ^ (den.log2 : ℤ) :=
          div_lt_div₀ num_lt den_ge (two_zpow_pos _).le (two_zpow_pos _)
      _ = 2 ^ (order + 1) := by
          rw [← zpow_sub₀ two_ne_zero]
          congr 1
          omega
  · rename_i above
    rw [reached, not_le] at above
    refine ⟨?_, by rwa [sub_add_cancel]⟩
    calc (2 : ℚ) ^ (order - 1) = 2 ^ (num.log2 : ℤ) / 2 ^ ((den.log2 : ℤ) + 1) := by
          rw [← zpow_sub₀ two_ne_zero]
          congr 1
          omega
      _ ≤ num / den := div_le_div₀ numRat.le num_ge denRat den_lt.le

theorem infinite_le (beyond : maxExponent < e) (normal : 2 ^ 52 ≤ x / 2 ^ e) :
    infinite.value ≤ x := by
  have scale := two_zpow_le (show maxExponent + 1 ≤ e from beyond)
  rw [two_zpow_succ] at scale
  rw [le_div_iff₀ (two_zpow_pos e)] at normal
  have value : infinite.value = (2 ^ 53 : ℕ) * 2 ^ maxExponent := rfl
  rw [value]
  push_cast
  linarith

theorem zero_roundsTo : RoundsTo 0 (finite 0 minExponent) := by
  refine roundsTo_of_isNearest (m := 0) ⟨by decide, le_refl _, by decide, .inr rfl⟩ rfl id ?_
    (.inr rfl)
  rw [zero_div]
  exact ⟨by norm_num, fun _ => by decide⟩

def gridExponent (num den : ℕ) (k : ℤ) : ℤ :=
  max (binaryOrder num den + k - 52) minExponent

def inRange (m : ℕ) (e : ℤ) : Binary64 :=
  if maxExponent < e then .infinite else .finite m e

/-- The magnitude of a point of a grid. A significand of all bits and one is carried. -/
def ofGrid (m : ℕ) (e : ℤ) : Binary64 :=
  if m = 2 ^ 53 then inRange (2 ^ 52) (e + 1) else inRange m e

theorem ofFraction_eq (nonzero : num ≠ 0) :
    ofFraction num den k =
      ofGrid (nearestEven (scaled num den (k - gridExponent num den k)).1
        (scaled num den (k - gridExponent num den k)).2) (gridExponent num den k) := by
  rw [ofFraction, if_neg nonzero]
  extract_lets e parts m carried
  by_cases carry : m = 2 ^ 53
  · have carried_eq : carried = (2 ^ 52, e + 1) := if_pos carry
    rw [carried_eq]
    exact (if_pos carry).symm
  · have carried_eq : carried = (m, e) := if_neg carry
    rw [carried_eq]
    exact (if_neg carry).symm

theorem div_grid (posNum : 0 < num) (posDen : 0 < den) (grid : gridExponent num den k = e) :
    num / den * 2 ^ k / 2 ^ e < (2 : ℚ) ^ 53 ∧
      ((2 : ℚ) ^ 52 ≤ num / den * 2 ^ k / 2 ^ e ∨ e = minExponent) := by
  obtain ⟨low, high⟩ := binaryOrder_spec posNum posDen
  have scale := two_zpow_pos k
  unfold gridExponent at grid
  refine ⟨?_, ?_⟩
  · rw [div_lt_iff₀ (two_zpow_pos e), ← zpow_natCast (2 : ℚ) 53, ← zpow_add₀ two_ne_zero]
    calc (num : ℚ) / den * 2 ^ k < 2 ^ (binaryOrder num den + 1) * 2 ^ k :=
          mul_lt_mul_of_pos_right high scale
      _ = 2 ^ (binaryOrder num den + 1 + k) := by rw [← zpow_add₀ two_ne_zero]
      _ ≤ 2 ^ (((53 : ℕ) : ℤ) + e) := two_zpow_le (by omega)
  · rcases max_choice (binaryOrder num den + k - 52) minExponent with first | second
    · left
      rw [le_div_iff₀ (two_zpow_pos e), ← zpow_natCast (2 : ℚ) 52, ← zpow_add₀ two_ne_zero]
      calc (2 : ℚ) ^ (((52 : ℕ) : ℤ) + e) = 2 ^ (binaryOrder num den + k) := by
            congr 1
            omega
        _ = 2 ^ binaryOrder num den * 2 ^ k := zpow_add₀ two_ne_zero _ _
        _ ≤ num / den * 2 ^ k := mul_le_mul_of_nonneg_right low scale.le
    · exact .inr (grid.symm.trans second)

/-- The grid is fine enough for the bits of a significand, and what is carried is even. -/
theorem ofGrid_roundsTo (low : minExponent ≤ e) (below : x / 2 ^ e < 2 ^ 53)
    (normal : 2 ^ 52 ≤ x / 2 ^ e ∨ e = minExponent) (nearest : IsNearest (x / 2 ^ e) m) :
    RoundsTo x (ofGrid m e) := by
  have bits : m ≤ 2 ^ 53 := nearest.le_of_le (by exact_mod_cast below.le)
  have first : 2 ^ 52 ≤ m ∨ e = minExponent :=
    normal.imp_left fun normal => nearest.le_of_ge (by exact_mod_cast normal)
  have outside (beyond : maxExponent < e) : RoundsTo x infinite := by
    refine roundsTo_infinite (infinite_le beyond (normal.resolve_right fun least => ?_))
    exact absurd (least ▸ beyond) (by decide)
  unfold ofGrid inRange
  split
  · rename_i carry
    split
    · rename_i beyond
      rcases (Int.lt_add_one_iff.1 beyond).eq_or_lt with last | beyond
      · exact roundsTo_of_isNearest trivial (by rw [carry, ← last]; rfl) (fun _ => by decide)
          nearest normal
      · exact outside beyond
    · refine roundsTo_of_isNearest ⟨by decide, by omega, by omega, .inl (le_refl _)⟩ ?_
        (fun _ => (by decide : Even (2 ^ 52))) nearest normal
      have value : (finite (2 ^ 52) (e + 1)).value = (2 ^ 52 : ℕ) * 2 ^ (e + 1) := rfl
      rw [value, carry, two_zpow_succ]
      push_cast
      ring
  · split
    · rename_i beyond
      exact outside beyond
    · exact roundsTo_of_isNearest ⟨by omega, low, by omega, first⟩ rfl id nearest normal

theorem ofFraction_roundsTo (num : ℕ) (pos : 0 < den) (k : ℤ) :
    RoundsTo (num / den * 2 ^ k) (ofFraction num den k) := by
  rcases Nat.eq_zero_or_pos num with rfl | posNum
  · rw [Nat.cast_zero, zero_div, zero_mul]
    exact zero_roundsTo
  · rw [ofFraction_eq posNum.ne']
    generalize grid : gridExponent num den k = e
    obtain ⟨below, normal⟩ := div_grid posNum pos grid
    have low : minExponent ≤ e := grid ▸ le_max_right _ _
    have nearest := nearestEven_isNearest (scaled num den (k - e)).1 (scaled_pos num pos (k - e))
    rw [scaled_value, zpow_sub₀ two_ne_zero, ← mul_div_assoc] at nearest
    exact ofGrid_roundsTo low below normal nearest

theorem ofNat_roundsTo (n : ℕ) : RoundsTo n (ofNat n) := by
  have rounds := ofFraction_roundsTo n one_pos 0
  rwa [Nat.cast_one, div_one, zpow_zero, mul_one] at rounds

theorem ofDecimal_roundsTo (digits : ℕ) (exponent : ℤ) :
    RoundsTo (digits * 10 ^ exponent) (ofDecimal digits exponent) := by
  have rounds := ofFraction_roundsTo (digits * Nat.pow 10 exponent.toNat)
    (Nat.pow_pos (by decide : 0 < 10) : 0 < Nat.pow 10 (-exponent).toNat) 0
  rw [zpow_zero, mul_one] at rounds
  push_cast [Nat.pow_eq] at rounds
  rwa [mul_div_assoc, ← zpow_eq_div (by norm_num)] at rounds

/-- The product of what is in range and out of range is out of range, unless it is a fraction of
it. -/
theorem mul_roundsTo (b c : Binary64) (large : 1 ≤ c.value) (finite : c ≠ infinite) :
    RoundsTo (b.value * c.value) (mul b c) := by
  cases c with
  | infinite => exact absurd rfl finite
  | finite n f =>
    cases b with
    | infinite => exact roundsTo_infinite (le_mul_of_one_le_right (value_nonneg _) large)
    | finite m e =>
      have rounds := ofFraction_roundsTo (m * n) one_pos (e + f)
      have product : (Binary64.finite m e).value * (Binary64.finite n f).value =
          ((m * n : ℕ) : ℚ) / (1 : ℕ) * 2 ^ (e + f) := by
        rw [value, value, significand, significand, exponent, exponent, zpow_add₀ two_ne_zero,
          Nat.cast_one, div_one, Nat.cast_mul]
        ring
      rwa [product]

theorem floor?_eq_some_iff {n : ℕ} : b.floor? = some n ↔ b ≠ infinite ∧ ⌊b.value⌋₊ = n := by
  cases b with
  | infinite => simp [floor?]
  | finite m e =>
    have fraction := scaled_value m 1 e
    rw [Nat.cast_one, div_one] at fraction
    have floor : ⌊(finite m e).value⌋₊ = (scaled m 1 e).1 / (scaled m 1 e).2 := by
      rw [← Nat.floor_div_eq_div (K := ℚ), fraction]
      rfl
    rw [floor, floor?]
    simp

end SwarmDeploy.Number.Binary64
