import SwarmDeploy.Proofs.Number.IntegerText
import SwarmDeploy.Proofs.Number.Rounding
import SwarmDeploy.Proofs.Quantity.Spelling

/-! The arithmetic of memory sizes.
The exact number of a text is rounded to a magnitude, multiplied with a power of 1024 and rounded
again. Whole numbers of 53 bits pass both roundings unchanged, and both keep the order of numbers.
The last magnitude below `2 ^ 63` is 1024 away from it, so the cut is never the largest word. -/

namespace SwarmDeploy.Memory
open SwarmDeploy.Text SwarmDeploy.Number SwarmDeploy.Number.Binary64

def exactValue (number : List Char) : ℚ :=
  match cutFirst '.' number with
  | none => Nat.ofDigitChars 10 number 0
  | some (whole, fraction) =>
    Nat.ofDigitChars 10 whole 0 + Nat.ofDigitChars 10 fraction 0 / 10 ^ fraction.length

variable {number whole fraction cs : List Char} {power : ℕ}

theorem digitsValue_eq (digits : ∀ c ∈ cs, isAsciiDigit c = true) :
    digitsValue cs = Nat.ofDigitChars 10 cs 0 := by
  unfold digitsValue Nat.ofDigitChars
  refine List.foldl_ext _ _ 0 fun n c mem => ?_
  rw [digitValue_eq_some (digits c mem), Option.getD_some, mul_comm]

theorem exactValue_whole (inWhole : whole ∈ digits) :
    exactValue whole = Nat.ofDigitChars 10 whole 0 := by
  rw [exactValue, cutFirst_eq_none_iff.2 (dot_not_mem_digits inWhole)]

theorem exactValue_fraction (inWhole : whole ∈ digits) :
    exactValue (whole ++ '.' :: fraction) =
      Nat.ofDigitChars 10 whole 0 + Nat.ofDigitChars 10 fraction 0 / 10 ^ fraction.length := by
  rw [exactValue, cutFirst_eq_some_iff.2 ⟨dot_not_mem_digits inWhole, rfl⟩]

theorem exists_decimalParts (mem : number ∈ Pattern.decimal) : ∃ parts : ℕ × ℤ,
    decimalParts number = some parts ∧ exactValue number = parts.1 * 10 ^ parts.2 := by
  rcases mem_decimal.1 mem with inWhole | ⟨whole, inWhole, fraction, inFraction, rfl⟩
  · refine ⟨_, decimalParts_whole inWhole, ?_⟩
    rw [exactValue_whole inWhole, digitsValue_eq (mem_many_oneOf.1 inWhole).2, zpow_zero, mul_one]
  · refine ⟨_, decimalParts_fraction inWhole inFraction, ?_⟩
    have ascii : ∀ c ∈ whole ++ fraction, isAsciiDigit c = true :=
      List.forall_mem_append.2 ⟨(mem_many_oneOf.1 inWhole).2, (mem_many_oneOf.1 inFraction).2⟩
    have joined : Nat.ofDigitChars 10 (whole ++ fraction) 0 =
        10 ^ fraction.length * Nat.ofDigitChars 10 whole 0 + Nat.ofDigitChars 10 fraction 0 := by
      rw [Nat.ofDigitChars_append, Nat.ofDigitChars_eq_ofDigitChars_zero (l := fraction)]
    rw [exactValue_fraction inWhole, digitsValue_eq ascii, joined, zpow_neg, zpow_natCast]
    push_cast
    field_simp

theorem unit_eq (power : ℕ) : ((1024 ^ power : ℕ) : ℚ) = 2 ^ ((10 * power : ℕ) : ℤ) := by
  rw [zpow_natCast, pow_mul]
  norm_num

theorem ofNat_unit (small : power ≤ 5) : (ofNat (1024 ^ power)).value = (1024 : ℚ) ^ power := by
  obtain ⟨b, magnitude, eq⟩ := exists_magnitude (m := 1) (e := (10 * power : ℕ)) (by decide)
    (by unfold minExponent; omega) (by unfold maxExponent; omega)
  rw [Nat.cast_one, one_mul, ← unit_eq] at eq
  rw [(ofNat_roundsTo _).value_eq magnitude eq]
  push_cast
  rfl

theorem infinite_value_ge : (2 : ℚ) ^ 63 ≤ infinite.value := by
  have scale : (2 : ℚ) ^ (10 : ℤ) ≤ 2 ^ maxExponent := two_zpow_le (by decide)
  have value : infinite.value = (2 ^ 53 : ℕ) * 2 ^ maxExponent := rfl
  rw [value]
  push_cast
  norm_num at scale ⊢
  linarith

theorem bytes_eq (digits : ℕ) (exponent : ℤ) (small : power ≤ 5) :
    ∃ b c : Binary64, RoundsTo (digits * 10 ^ exponent) b ∧ RoundsTo (b.value * 1024 ^ power) c ∧
      bytes digits exponent power = if c.value < 2 ^ 63 then some ⌊c.value⌋₊ else none := by
  have unit := ofNat_unit small
  have large : 1 ≤ (ofNat (1024 ^ power)).value := by
    rw [unit]
    exact one_le_pow₀ (by norm_num)
  have inRange : ofNat (1024 ^ power) ≠ infinite := by
    intro out
    have value := infinite_value_ge
    rw [← out, unit] at value
    have least : (1024 : ℚ) ^ power ≤ 1024 ^ 5 := pow_le_pow_right₀ (by norm_num) small
    norm_num at value least
    linarith
  have rounds := mul_roundsTo (ofDecimal digits exponent) _ large inRange
  rw [unit] at rounds
  refine ⟨_, _, ofDecimal_roundsTo digits exponent, rounds, ?_⟩
  unfold bytes
  rw [Nat.pow_eq]
  generalize mul (ofDecimal digits exponent) (ofNat (1024 ^ power)) = c
  split
  · rename_i n cut
    obtain ⟨-, rfl⟩ := floor?_eq_some_iff.1 cut
    have fits : ⌊c.value⌋₊ ≤ maxSignedWord ↔ c.value < 2 ^ 63 := by
      rw [← Nat.lt_succ_iff, Nat.floor_lt (value_nonneg c)]
      norm_num [maxSignedWord]
    simp only [fits]
  · rename_i out
    have infinite : c = infinite := by
      by_contra finite
      rw [floor?_eq_some_iff.2 ⟨finite, rfl⟩] at out
      cases out
    rw [infinite, if_neg (not_lt.2 infinite_value_ge)]

theorem Spelling.power_le (s : Spelling) : s.power ≤ 5 := by
  have small : ∀ u ∈ units, u.2 ≤ 5 := by decide
  unfold Spelling.power
  cases power : s.unit.bind unitPower with
  | none => exact Nat.zero_le 5
  | some e =>
    obtain ⟨c, -, power⟩ := Option.bind_eq_some_iff.1 power
    exact small _ (unitPower_eq_some_iff.1 power)

namespace Spelling
variable {s t : Spelling} {text other : String} {b c d f : Binary64} {n : Int}

structure IsRounded (s : Spelling) (b c : Binary64) : Prop where
  number : RoundsTo (exactValue s.number) b
  size : RoundsTo (b.value * 1024 ^ s.power) c

theorem Spells.exists_isRounded (spells : s.Spells text) (decimal : s.number ∈ Pattern.decimal) :
    ∃ b c, s.IsRounded b c ∧
      parse text = if c.value < 2 ^ 63 then .ok ⌊c.value⌋₊ else .error .tooLarge := by
  obtain ⟨parts, read, value⟩ := exists_decimalParts decimal
  obtain ⟨b, c, number, size, cut⟩ := bytes_eq parts.1 parts.2 s.power_le
  refine ⟨b, c, ⟨value ▸ number, size⟩, ?_⟩
  rw [spells.parse_eq, outcome, read]
  simp only [cut]
  split_ifs <;> rfl

theorem IsRounded.value_le (rounded : s.IsRounded b c) (rounded' : t.IsRounded d f)
    (power : s.power = t.power) (le : exactValue s.number ≤ exactValue t.number) :
    c.value ≤ f.value := by
  have first : b.value ≤ d.value := rounded.number.mono rounded'.number le
  have size := rounded.size
  rw [power] at size
  exact size.mono rounded'.size (mul_le_mul_of_nonneg_right first (by positivity))

/-- Roundings differ in no value, so the size is cut from every one of them. -/
theorem IsRounded.parse_eq (rounded : s.IsRounded b c) (spells : s.Spells text)
    (decimal : s.number ∈ Pattern.decimal) :
    parse text = if c.value < 2 ^ 63 then .ok ⌊c.value⌋₊ else .error .tooLarge := by
  obtain ⟨d, f, rounded', cut⟩ := spells.exists_isRounded decimal
  have same : c.value = f.value :=
    le_antisymm (rounded.value_le rounded' rfl le_rfl) (rounded'.value_le rounded rfl le_rfl)
  rw [cut, same]

/-- Whole numbers of 53 bits are magnitudes, and so are their multiples by units. -/
theorem IsRounded.value_eq (rounded : s.IsRounded b c) {k : ℕ} (small : k ≤ 2 ^ 53)
    (whole : exactValue s.number = k) : c.value = (k * 1024 ^ s.power : ℕ) := by
  have power := s.power_le
  have multiple (e : ℕ) (fits : e ≤ 50) : ∃ b, IsMagnitude b ∧ b.value = k * 2 ^ (e : ℤ) :=
    exists_magnitude_of_le small (by unfold minExponent; omega) (by unfold maxExponent; omega)
  obtain ⟨d, magnitude, number⟩ := multiple 0 (by omega)
  obtain ⟨f, magnitude', size⟩ := multiple (10 * s.power) (by omega)
  have first : b.value = k := by
    rw [Nat.cast_zero, zpow_zero, mul_one, ← whole] at number
    rw [rounded.number.value_eq magnitude number, whole]
  have product : b.value * 1024 ^ s.power = (k * 1024 ^ s.power : ℕ) := by
    rw [first]
    push_cast
    rfl
  have second := rounded.size
  rw [product] at second
  rw [← unit_eq, ← Nat.cast_mul] at size
  exact second.value_eq magnitude' size

theorem le_of_cut (fits : c.value < 2 ^ 63) (magnitude : c.IsMagnitude) :
    ⌊c.value⌋₊ ≤ 2 ^ 63 - 1024 := by
  have last := magnitude.value_le_of_lt (e := 10) (by decide) (by norm_num at fits ⊢; exact fits)
  refine Nat.floor_le_of_le (last.trans ?_)
  norm_num

/-- Sizes are not negative and never the largest words. Whole numbers of 53 bits are multiplied
exactly or do not fit. Of two sizes in one unit the smaller is read if the larger is. -/
theorem sizes_near_limits (text : String) :
    (∀ n, parse text = .ok n → 0 ≤ n ∧ n ≤ 2 ^ 63 - 1024) ∧
    ∀ s : Spelling, s.Spells text → s.number ∈ Pattern.decimal →
      (∃ b c, s.IsRounded b c) ∧
      (∀ b c, s.IsRounded b c →
        parse text = if c.value < 2 ^ 63 then .ok ⌊c.value⌋₊ else .error .tooLarge) ∧
      (∀ k : ℕ, k ≤ 2 ^ 53 → exactValue s.number = k → parse text =
        if k * 1024 ^ s.power < 2 ^ 63 then .ok (k * 1024 ^ s.power : ℕ) else .error .tooLarge) ∧
      ∀ (other : String) (t : Spelling), t.Spells other → t.number ∈ Pattern.decimal →
        s.power = t.power → exactValue s.number ≤ exactValue t.number →
        ∀ n, parse other = .ok n → ∃ m, parse text = .ok m ∧ m ≤ n := by
  refine ⟨fun n parsed => ?_, fun s spells decimal => ?_⟩
  · obtain ⟨s, spells, decimal⟩ := exists_spells parsed
    obtain ⟨b, c, rounded, cut⟩ := spells.exists_isRounded decimal
    rw [cut] at parsed
    split at parsed
    · rename_i fits
      cases parsed
      have last := le_of_cut fits rounded.size.magnitude
      omega
    · cases parsed
  · obtain ⟨b, c, rounded, cut⟩ := spells.exists_isRounded decimal
    refine ⟨⟨b, c, rounded⟩, fun b c rounded => rounded.parse_eq spells decimal, ?_, ?_⟩
    · intro k small whole
      rw [cut, rounded.value_eq small whole, Nat.floor_natCast]
      refine if_congr ?_ rfl rfl
      exact_mod_cast Iff.rfl
    · intro other t spells' decimal' power le n parsed
      obtain ⟨d, f, rounded', cut'⟩ := spells'.exists_isRounded decimal'
      have value := rounded.value_le rounded' power le
      rw [cut'] at parsed
      split at parsed
      · rename_i fits
        cases parsed
        refine ⟨⌊c.value⌋₊, by rw [cut, if_pos (value.trans_lt fits)], ?_⟩
        exact_mod_cast Nat.floor_mono value
      · cases parsed

/-- The largest number of pebibytes that fits, and a part of it. -/
theorem pebibytes_near_limit :
    ∃ s t : Spelling, s.Spells "8191p" ∧ t.Spells "0.5P" ∧ s.number ∈ Pattern.decimal ∧
      t.number ∈ Pattern.decimal ∧ exactValue s.number = (8191 : ℕ) ∧
      exactValue t.number ≤ exactValue s.number ∧
      parse "8191p" = .ok 9222246136947933184 ∧ (9222246136947933184 : ℤ) ≤ 2 ^ 63 - 1024 ∧
      ∃ m, parse "0.5P" = .ok m ∧ m ≤ 9222246136947933184 := by
  have inDigits {c : Char} (digit : isAsciiDigit c = true) : [c] ∈ digits :=
    mem_many_oneOf.2 ⟨by simp, by simpa using digit⟩
  have spells : Spells ⟨"8191".toList, false, some 'p', none, none⟩ "8191p" :=
    follows_of_read (by rfl)
  have spells' : Spells ⟨"0.5".toList, false, some 'P', none, none⟩ "0.5P" :=
    follows_of_read (by rfl)
  have whole : "8191".toList ∈ digits :=
    mem_many_oneOf.2 ⟨by simp, by simp [isAsciiDigit, digitValue]⟩
  have decimal : "8191".toList ∈ Pattern.decimal := mem_decimal.2 (.inl whole)
  have decimal' : "0.5".toList ∈ Pattern.decimal :=
    mem_decimal.2 (.inr ⟨['0'], inDigits (by decide), ['5'], inDigits (by decide), rfl⟩)
  have value : exactValue "8191".toList = (8191 : ℕ) := exactValue_whole whole
  have value' : exactValue "0.5".toList = (0 : ℕ) + (5 : ℕ) / 10 ^ 1 :=
    exactValue_fraction (inDigits (by decide : isAsciiDigit '0' = true))
  have le : exactValue "0.5".toList ≤ exactValue "8191".toList := by
    rw [value, value']
    norm_num
  have read : parse "8191p" = .ok 9222246136947933184 :=
    ((sizes_near_limits "8191p").2 _ spells decimal).2.2.1 8191 (by norm_num) value
  exact ⟨_, _, spells, spells', decimal, decimal', value, le, read,
    ((sizes_near_limits "8191p").1 _ read).2,
    ((sizes_near_limits "0.5P").2 _ spells' decimal').2.2.2 "8191p" _ spells decimal rfl le _ read⟩

end Spelling
end SwarmDeploy.Memory
