import Mathlib.Tactic.Common
import SwarmDeploy.Number.IntegerText
import SwarmDeploy.Proofs.Basic

/-! Which texts are integers, and the first fault of those that are none.
The value of the digits read so far never falls again, so digits whose value is in range were in
range all along. A text is read if it is a sign and digits of a value in range; otherwise there is
a first character at which it fails. -/

namespace SwarmDeploy.Number
open SwarmDeploy.Text

theorem isAsciiDigit_iff {c : Char} :
    isAsciiDigit c = true ↔ '0'.toNat ≤ c.toNat ∧ c.toNat ≤ '9'.toNat := by
  rw [isAsciiDigit, digitValue, Option.isSome_ite]
  rfl

theorem digitValue_eq_some {c : Char} (digit : isAsciiDigit c = true) :
    digitValue c = some (c.toNat - '0'.toNat) :=
  if_pos (isAsciiDigit_iff.1 digit)

theorem digitValue_eq_none {c : Char} (other : isAsciiDigit c = false) : digitValue c = none := by
  simpa [isAsciiDigit] using other

theorem le_ofDigitChars (cs : List Char) (value : Nat) : value ≤ Nat.ofDigitChars 10 cs value := by
  rw [Nat.ofDigitChars_eq_ofDigitChars_zero]
  have := Nat.le_mul_of_pos_left value (Nat.pow_pos (n := cs.length) (by decide : 0 < 10))
  omega

theorem eq_zero_of_digit {c : Char} (digit : isAsciiDigit c = true)
    (value : Nat.ofDigitChars 10 [c] 0 = 0) : c = '0' := by
  have worth : c.toNat - '0'.toNat = 0 := by simpa [Nat.ofDigitChars] using value
  have least : '0'.toNat ≤ c.toNat := (isAsciiDigit_iff.1 digit).1
  exact Char.toNat_inj.1 (Nat.le_antisymm (Nat.sub_eq_zero_iff_le.1 worth) least)

/-- Zero is written with zeros: the value never falls again, so every digit is worth nothing. -/
theorem ofDigitChars_eq_zero_iff {cs : List Char} (ascii : ∀ c ∈ cs, isAsciiDigit c = true) :
    Nat.ofDigitChars 10 cs 0 = 0 ↔ ∀ c ∈ cs, c = '0' := by
  induction cs with
  | nil => exact iff_of_true rfl fun _ mem => absurd mem List.not_mem_nil
  | cons c cs ih =>
    obtain ⟨digit, later⟩ := List.forall_mem_cons.1 ascii
    have split : Nat.ofDigitChars 10 (c :: cs) 0 =
        Nat.ofDigitChars 10 cs (Nat.ofDigitChars 10 [c] 0) := rfl
    rw [split, List.forall_mem_cons, ← ih later]
    constructor
    · intro value
      have first : Nat.ofDigitChars 10 [c] 0 = 0 := by
        have le := le_ofDigitChars cs (Nat.ofDigitChars 10 [c] 0)
        rw [value] at le
        exact Nat.le_zero.1 le
      rw [first] at value
      exact ⟨eq_zero_of_digit digit first, value⟩
    · rintro ⟨rfl, value⟩
      exact value

/-- Digits that stand behind a value keep it within a bound. -/
structure Fits (bound value : Nat) (digits : List Char) : Prop where
  ascii : ∀ c ∈ digits, isAsciiDigit c = true
  le : Nat.ofDigitChars 10 digits value ≤ bound

/-- The first fault of digits behind a value: a character that is no digit, or the digit with which
the value leaves its range. -/
inductive FirstFault (bound value : Nat) (excess : IntegerFault) : List Char → IntegerFault → Prop
  | badDigit {digits : List Char} {c : Char} (rest : List Char) : Fits bound value digits →
    isAsciiDigit c = false → FirstFault bound value excess (digits ++ c :: rest) .badDigit
  | excess {digits : List Char} {c : Char} (rest : List Char) : Fits bound value digits →
    isAsciiDigit c = true → bound < Nat.ofDigitChars 10 (digits ++ [c]) value →
      FirstFault bound value excess (digits ++ c :: rest) excess

variable {bound value : Nat} {excess fault : IntegerFault} {c : Char} {cs : List Char}

theorem fits_nil (start : value ≤ bound) : Fits bound value [] :=
  ⟨fun _ mem => absurd mem List.not_mem_nil, start⟩

theorem fits_cons_iff : Fits bound value (c :: cs) ↔
    isAsciiDigit c = true ∧ Fits bound (Nat.ofDigitChars 10 [c] value) cs := by
  constructor
  · intro fits
    obtain ⟨digit, later⟩ := List.forall_mem_cons.1 fits.ascii
    exact ⟨digit, later, fits.le⟩
  · rintro ⟨digit, later, le⟩
    exact ⟨List.forall_mem_cons.2 ⟨digit, later⟩, le⟩

theorem Fits.start_le (fits : Fits bound value cs) : value ≤ bound :=
  Nat.le_trans (le_ofDigitChars cs value) fits.le

theorem readDigits_cons (digit : isAsciiDigit c = true) :
    readDigits bound excess value (c :: cs) =
      if Nat.ofDigitChars 10 [c] value ≤ bound then
        readDigits bound excess (Nat.ofDigitChars 10 [c] value) cs
      else .error excess := by
  have next : value * 10 + (c.toNat - '0'.toNat) = Nat.ofDigitChars 10 [c] value := by
    rw [Nat.mul_comm]
    rfl
  rw [readDigits, digitValue_eq_some digit]
  simp only [next]

theorem readDigits_cons_of_not_digit (other : isAsciiDigit c = false) :
    readDigits bound excess value (c :: cs) = .error .badDigit := by
  rw [readDigits, digitValue_eq_none other]

theorem readDigits_eq_ok_iff (start : value ≤ bound) {n : Nat} :
    readDigits bound excess value cs = .ok n ↔
      Fits bound value cs ∧ Nat.ofDigitChars 10 cs value = n := by
  induction cs generalizing value with
  | nil =>
    rw [readDigits, Except.ok.injEq]
    exact ⟨fun same => ⟨fits_nil start, same⟩, And.right⟩
  | cons c cs ih =>
    rw [fits_cons_iff]
    cases digit : isAsciiDigit c with
    | false => simp [readDigits_cons_of_not_digit digit]
    | true =>
      rw [readDigits_cons digit]
      split_ifs with small
      · rw [ih small]
        exact ⟨fun ⟨fits, same⟩ => ⟨⟨rfl, fits⟩, same⟩, fun ⟨⟨_, fits⟩, same⟩ => ⟨fits, same⟩⟩
      · constructor
        · intro read
          cases read
        · rintro ⟨⟨-, fits⟩, -⟩
          exact absurd fits.start_le small

theorem FirstFault.cons (digit : isAsciiDigit c = true)
    (first : FirstFault bound (Nat.ofDigitChars 10 [c] value) excess cs fault) :
    FirstFault bound value excess (c :: cs) fault := by
  cases first with
  | badDigit rest fits other =>
    exact .badDigit rest (fits_cons_iff.2 ⟨digit, fits⟩) other
  | excess rest fits next large =>
    exact .excess rest (fits_cons_iff.2 ⟨digit, fits⟩) next large

theorem readDigits_eq_error_iff (start : value ≤ bound) :
    readDigits bound excess value cs = .error fault ↔ FirstFault bound value excess cs fault := by
  constructor
  · intro failed
    induction cs generalizing value with
    | nil => cases failed
    | cons c cs ih =>
      cases digit : isAsciiDigit c with
      | false =>
        rw [readDigits_cons_of_not_digit digit] at failed
        cases failed
        exact .badDigit cs (fits_nil start) digit
      | true =>
        rw [readDigits_cons digit] at failed
        split_ifs at failed with small
        · exact (ih small failed).cons digit
        · cases failed
          exact .excess cs (fits_nil start) digit (Nat.lt_of_not_le small)
  · intro first
    -- The digits in front of the fault are read, one by one.
    have reads : ∀ {digits : List Char} {value : Nat}, Fits bound value digits → ∀ rest,
        readDigits bound excess value (digits ++ rest) =
          readDigits bound excess (Nat.ofDigitChars 10 digits value) rest := by
      intro digits
      induction digits with
      | nil => exact fun _ _ => rfl
      | cons d digits ih =>
        intro value fits rest
        obtain ⟨digit, later⟩ := fits_cons_iff.1 fits
        rw [List.cons_append, readDigits_cons digit, if_pos later.start_le, ih later]
        rfl
    cases first with
    | badDigit rest fits other => rw [reads fits, readDigits_cons_of_not_digit other]
    | excess rest fits digit large =>
      rw [Nat.ofDigitChars_append] at large
      rw [reads fits, readDigits_cons digit, if_neg (Nat.not_le_of_lt large)]

structure IsDecimal (digits : List Char) (n : Nat) : Prop where
  notEmpty : digits ≠ []
  ascii : ∀ c ∈ digits, isAsciiDigit c = true
  value : Nat.ofDigitChars 10 digits 0 = n

theorem IsDecimal.not_mem {n : Nat} (decimal : IsDecimal cs n) (other : isAsciiDigit c = false) :
    c ∉ cs := by
  intro mem
  rw [decimal.ascii c mem] at other
  cases other

theorem isDecimal_zero_iff : IsDecimal cs 0 ↔ cs ≠ [] ∧ ∀ c ∈ cs, c = '0' := by
  constructor
  · rintro ⟨notEmpty, ascii, value⟩
    exact ⟨notEmpty, (ofDigitChars_eq_zero_iff ascii).1 value⟩
  · rintro ⟨notEmpty, zeros⟩
    have ascii : ∀ c ∈ cs, isAsciiDigit c = true := by
      intro c mem
      rw [zeros c mem]
      rfl
    exact ⟨notEmpty, ascii, (ofDigitChars_eq_zero_iff ascii).2 zeros⟩

theorem readMagnitude_eq_ok_iff {n : Nat} :
    readMagnitude bound excess cs = .ok n ↔ IsDecimal cs n ∧ n ≤ bound := by
  cases cs with
  | nil =>
    constructor
    · intro read
      cases read
    · rintro ⟨decimal, -⟩
      exact absurd rfl decimal.notEmpty
  | cons c cs =>
    rw [readMagnitude, readDigits_eq_ok_iff (Nat.zero_le bound)]
    constructor
    · rintro ⟨fits, rfl⟩
      exact ⟨⟨List.cons_ne_nil c cs, fits.ascii, rfl⟩, fits.le⟩
    · rintro ⟨⟨-, ascii, rfl⟩, le⟩
      exact ⟨⟨ascii, le⟩, rfl⟩

inductive MagnitudeFault (bound : Nat) (excess : IntegerFault) : List Char → IntegerFault → Prop
  | missing : MagnitudeFault bound excess [] .badDigit
  | first {cs : List Char} {fault : IntegerFault} : FirstFault bound 0 excess cs fault →
    MagnitudeFault bound excess cs fault

theorem readMagnitude_eq_error_iff :
    readMagnitude bound excess cs = .error fault ↔ MagnitudeFault bound excess cs fault := by
  cases cs with
  | nil =>
    constructor
    · intro failed
      cases failed
      exact .missing
    · intro failing
      cases failing with
      | missing => rfl
      | first first => cases (readDigits_eq_error_iff (Nat.zero_le bound)).2 first
  | cons c cs =>
    rw [readMagnitude, readDigits_eq_error_iff (Nat.zero_le bound)]
    constructor
    · exact .first
    · intro failing
      cases failing with
      | first first => exact first

inductive IsNatural : List Char → Nat → Prop
  | plain {digits : List Char} {n : Nat} : IsDecimal digits n → IsNatural digits n
  | plus {digits : List Char} {n : Nat} : IsDecimal digits n → IsNatural ('+' :: digits) n

inductive NaturalFault (bound : Nat) : List Char → IntegerFault → Prop
  | empty : NaturalFault bound [] .empty
  | plain {c : Char} {cs : List Char} {fault : IntegerFault} : c ≠ '+' →
    MagnitudeFault bound .tooLarge (c :: cs) fault → NaturalFault bound (c :: cs) fault
  | plus {cs : List Char} {fault : IntegerFault} : MagnitudeFault bound .tooLarge cs fault →
    NaturalFault bound ('+' :: cs) fault

theorem isNatural_plus_iff {n : Nat} : IsNatural ('+' :: cs) n ↔ IsDecimal cs n := by
  constructor
  · intro natural
    cases natural with
    | plain decimal => exact absurd List.mem_cons_self (decimal.not_mem (by decide))
    | plus decimal => exact decimal
  · exact .plus

theorem isNatural_plain_iff (noSign : c ≠ '+') {n : Nat} :
    IsNatural (c :: cs) n ↔ IsDecimal (c :: cs) n := by
  constructor
  · intro natural
    cases natural with
    | plain decimal => exact decimal
    | plus decimal => exact absurd rfl noSign
  · exact .plain

theorem IsDecimal.isNatural_iff {m n : Nat} (decimal : IsDecimal cs n) :
    IsNatural cs m ↔ m = n := by
  constructor
  · intro natural
    cases natural with
    | plain other => rw [← other.value, decimal.value]
    | plus _ => exact absurd List.mem_cons_self (decimal.not_mem (by decide))
  · rintro rfl
    exact .plain decimal

theorem isNatural_zero_iff : IsNatural cs 0 ↔
    ∃ zeros, zeros ≠ [] ∧ (∀ c ∈ zeros, c = '0') ∧ (cs = zeros ∨ cs = '+' :: zeros) := by
  constructor
  · intro natural
    cases natural with
    | plain decimal =>
      obtain ⟨notEmpty, zeros⟩ := isDecimal_zero_iff.1 decimal
      exact ⟨_, notEmpty, zeros, .inl rfl⟩
    | plus decimal =>
      obtain ⟨notEmpty, zeros⟩ := isDecimal_zero_iff.1 decimal
      exact ⟨_, notEmpty, zeros, .inr rfl⟩
  · rintro ⟨zeros, notEmpty, all, rfl | rfl⟩
    · exact .plain (isDecimal_zero_iff.2 ⟨notEmpty, all⟩)
    · exact .plus (isDecimal_zero_iff.2 ⟨notEmpty, all⟩)

theorem readNatural_eq_ok_iff {n : Nat} :
    readNatural bound cs = .ok n ↔ IsNatural cs n ∧ n ≤ bound := by
  cases cs with
  | nil =>
    constructor
    · intro read
      cases read
    · rintro ⟨natural, -⟩
      cases natural with
      | plain decimal => exact absurd rfl decimal.notEmpty
  | cons c cs =>
    rw [readNatural]
    split_ifs with sign
    · rw [sign, readMagnitude_eq_ok_iff, isNatural_plus_iff]
    · rw [readMagnitude_eq_ok_iff, isNatural_plain_iff sign]

theorem readNatural_eq_error_iff :
    readNatural bound cs = .error fault ↔ NaturalFault bound cs fault := by
  cases cs with
  | nil =>
    constructor
    · intro failed
      cases failed
      exact .empty
    · intro failing
      cases failing
      rfl
  | cons c cs =>
    rw [readNatural]
    split_ifs with sign
    · rw [sign, readMagnitude_eq_error_iff]
      refine ⟨.plus, fun failing => ?_⟩
      cases failing with
      | plain noSign _ => exact absurd rfl noSign
      | plus failing => exact failing
    · rw [readMagnitude_eq_error_iff]
      refine ⟨.plain sign, fun failing => ?_⟩
      cases failing with
      | plain _ failing => exact failing
      | plus _ => exact absurd rfl sign

inductive IsInteger : List Char → Int → Prop
  | natural {cs : List Char} {n : Nat} : IsNatural cs n → IsInteger cs n
  | minus {digits : List Char} {n : Nat} : IsDecimal digits n → IsInteger ('-' :: digits) (-n)

inductive IntegerTextFault (below above : Nat) : List Char → IntegerFault → Prop
  | natural {cs : List Char} {fault : IntegerFault} : cs.head? ≠ some '-' →
    NaturalFault above cs fault → IntegerTextFault below above cs fault
  | minus {cs : List Char} {fault : IntegerFault} : MagnitudeFault below .tooSmall cs fault →
    IntegerTextFault below above ('-' :: cs) fault

variable {below above : Nat}

theorem readSigned_eq (below above : Nat) (noMinus : cs.head? ≠ some '-') :
    readSigned below above cs = (readNatural above cs).map fun n : Nat => (n : Int) := by
  cases cs with
  | nil => rfl
  | cons c cs =>
    have other : c ≠ '-' := fun same => noMinus (congrArg some same)
    rw [readSigned, readNatural, if_neg other]
    split
    · cases readMagnitude above .tooLarge cs <;> rfl
    · cases readMagnitude above .tooLarge (c :: cs) <;> rfl

theorem readSigned_minus (below above : Nat) (cs : List Char) :
    readSigned below above ('-' :: cs) =
      (readMagnitude below .tooSmall cs).map fun n : Nat => -(n : Int) := by
  rw [readSigned, if_pos rfl]
  cases readMagnitude below .tooSmall cs <;> rfl

theorem not_isNatural_minus {n : Nat} : ¬IsNatural ('-' :: cs) n := by
  rw [isNatural_plain_iff (by decide)]
  exact fun decimal => decimal.not_mem (by decide) List.mem_cons_self

theorem readSigned_eq_ok_iff {n : Int} :
    readSigned below above cs = .ok n ↔ IsInteger cs n ∧ -(below : Int) ≤ n ∧ n ≤ above := by
  by_cases minus : cs.head? = some '-'
  · obtain ⟨digits, rfl⟩ := List.head?_eq_some_iff.1 minus
    rw [readSigned_minus, map_eq_ok_iff]
    constructor
    · rintro ⟨m, read, rfl⟩
      obtain ⟨decimal, le⟩ := readMagnitude_eq_ok_iff.1 read
      exact ⟨.minus decimal, by omega, by omega⟩
    · rintro ⟨integer, ge, -⟩
      cases integer with
      | natural natural => exact absurd natural not_isNatural_minus
      | minus decimal => exact ⟨_, readMagnitude_eq_ok_iff.2 ⟨decimal, by omega⟩, rfl⟩
  · rw [readSigned_eq below above minus, map_eq_ok_iff]
    constructor
    · rintro ⟨m, read, rfl⟩
      obtain ⟨natural, le⟩ := readNatural_eq_ok_iff.1 read
      exact ⟨.natural natural, by omega, by omega⟩
    · rintro ⟨integer, -, le⟩
      cases integer with
      | natural natural => exact ⟨_, readNatural_eq_ok_iff.2 ⟨natural, by omega⟩, rfl⟩
      | minus _ => exact absurd rfl minus

theorem readSigned_eq_error_iff :
    readSigned below above cs = .error fault ↔ IntegerTextFault below above cs fault := by
  by_cases minus : cs.head? = some '-'
  · obtain ⟨digits, rfl⟩ := List.head?_eq_some_iff.1 minus
    rw [readSigned_minus, map_eq_error_iff, readMagnitude_eq_error_iff]
    refine ⟨.minus, fun failing => ?_⟩
    cases failing with
    | natural noMinus _ => exact absurd rfl noMinus
    | minus failing => exact failing
  · rw [readSigned_eq below above minus, map_eq_error_iff, readNatural_eq_error_iff]
    refine ⟨.natural minus, fun failing => ?_⟩
    cases failing with
    | natural _ failing => exact failing
    | minus _ => exact absurd rfl minus

end SwarmDeploy.Number
