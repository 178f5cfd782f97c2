import SwarmDeploy.Text.DecimalDigit

/-! Integers written in decimal, read from left to right.
The first fault met ends the reading: a character that is no digit, or the digit with which the
value leaves its range. -/

namespace SwarmDeploy.Number
open SwarmDeploy.Text

inductive IntegerFault where
  | empty
  | badDigit
  | tooLarge
  | tooSmall
  deriving DecidableEq, Repr

def IntegerFault.message : IntegerFault → String
  | .empty => "cannot parse integer from empty string"
  | .badDigit => "invalid digit found in string"
  | .tooLarge => "number too large to fit in target type"
  | .tooSmall => "number too small to fit in target type"

/-- Reads the digits after `value`, up to `bound`; a larger value is the fault `excess`. -/
def readDigits (bound : Nat) (excess : IntegerFault) : Nat → List Char → Except IntegerFault Nat
  | value, [] => .ok value
  | value, c :: cs =>
    match digitValue c with
    | none => .error .badDigit
    | some d =>
      if value * 10 + d ≤ bound then readDigits bound excess (value * 10 + d) cs else .error excess

def readMagnitude (bound : Nat) (excess : IntegerFault) : List Char → Except IntegerFault Nat
  | [] => .error .badDigit
  | c :: cs => readDigits bound excess 0 (c :: cs)

def readNatural (bound : Nat) : List Char → Except IntegerFault Nat
  | [] => .error .empty
  | c :: cs =>
    if c = '+' then readMagnitude bound .tooLarge cs
    else readMagnitude bound .tooLarge (c :: cs)

def readSigned (below above : Nat) : List Char → Except IntegerFault Int
  | [] => .error .empty
  | c :: cs =>
    if c = '-' then (readMagnitude below .tooSmall cs).map fun n => -(n : Int)
    else if c = '+' then (readMagnitude above .tooLarge cs).map fun n => (n : Int)
    else (readMagnitude above .tooLarge (c :: cs)).map fun n => (n : Int)

def maxWord : Nat := 0xFFFFFFFFFFFFFFFF

def readWord (text : String) : Except IntegerFault Nat :=
  readNatural maxWord text.toList

def maxSignedWord : Nat := 0x7FFFFFFFFFFFFFFF

def readSignedWord (text : String) : Except IntegerFault Int :=
  readSigned 0x8000000000000000 maxSignedWord text.toList

end SwarmDeploy.Number
