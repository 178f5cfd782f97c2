import SwarmDeploy.Proofs.Number.IntegerText
import SwarmDeploy.Quantity.Cpu
import SwarmDeploy.Quantity.Memory

/-! The range of quantities: what is read fits a signed word of 64 bits. -/

namespace SwarmDeploy

namespace Cpu
open Number

variable {text : String}

theorem parse_eq_ok_iff {n : Int} : parse text = .ok n ↔
    IsInteger text.toList n ∧ -0x8000000000000000 ≤ n ∧ n ≤ 0x7FFFFFFFFFFFFFFF := by
  rw [parse, mapError_eq_ok_iff]
  exact readSigned_eq_ok_iff

theorem parse_eq_error_iff {fault : QuantityFault} : parse text = .error fault ↔
    ∃ first, IntegerTextFault 0x8000000000000000 0x7FFFFFFFFFFFFFFF text.toList first ∧
      .notAnInteger first = fault := by
  simp only [parse, mapError_eq_error_iff]
  exact exists_congr fun first => and_congr_left' readSigned_eq_error_iff

theorem parse_within {n : Int} (parsed : parse text = .ok n) :
    -0x8000000000000000 ≤ n ∧ n ≤ 0x7FFFFFFFFFFFFFFF :=
  (parse_eq_ok_iff.1 parsed).2

end Cpu

theorem Memory.bytes_le {digits power n : Nat} {exponent : Int}
    (fits : Memory.bytes digits exponent power = some n) : n ≤ Number.maxSignedWord := by
  unfold Memory.bytes at fits
  split at fits
  · split at fits
    · rename_i within
      cases fits
      exact within
    · cases fits
  · cases fits

theorem Memory.parse_within {text : String} {n : Int} (parsed : Memory.parse text = .ok n) :
    0 ≤ n ∧ n ≤ 0x7FFFFFFFFFFFFFFF := by
  unfold Memory.parse Memory.parseChars at parsed
  split at parsed
  · cases parsed
  · split at parsed
    · cases parsed
    · split at parsed
      · cases parsed
      · rename_i m fits
        cases parsed
        have bounded : m ≤ 0x7FFFFFFFFFFFFFFF := Memory.bytes_le fits
        omega

end SwarmDeploy
