import SwarmDeploy.Quantity.Fault
import SwarmDeploy.Number.Binary64
import SwarmDeploy.Text.Split

/-! Memory sizes such as `512`, `40m` and `1.5 GiB`, in bytes.
A size is a number, an optional space, an optional unit letter and an optional `i` and `b`, which
change nothing: units are powers of 1024. The number is read as a binary64 magnitude. -/

namespace SwarmDeploy.Memory
open SwarmDeploy.Text SwarmDeploy.Number

def unitPower (c : Char) : Option Nat :=
  if c = 'k' ∨ c = 'K' then some 1
  else if c = 'm' ∨ c = 'M' then some 2
  else if c = 'g' ∨ c = 'G' then some 3
  else if c = 't' ∨ c = 'T' then some 4
  else if c = 'p' ∨ c = 'P' then some 5
  else none

structure Spelling where
  number : List Char
  space : Bool
  unit : Option Char
  binary : Option Char
  byte : Option Char
  deriving DecidableEq, Repr

def Spelling.text (s : Spelling) : List Char :=
  s.number ++ (if s.space then [' '] else []) ++ s.unit.toList ++ s.binary.toList ++ s.byte.toList

def Spelling.power (s : Spelling) : Nat :=
  (s.unit.bind unitPower).getD 0

/-- Digits of any script, in groups with single dots between them. -/
def isNumber (cs : List Char) : Bool :=
  (pieces '.' cs).all fun group => !group.isEmpty && group.all isDecimalDigit

def takeOptional (p : Char → Bool) : List Char → Option Char × List Char
  | [] => (none, [])
  | c :: cs => if p c then (some c, cs) else (none, c :: cs)

def inNumber (c : Char) : Bool :=
  isDecimalDigit c || c == '.'

/-- Takes a size apart; the number is as long as it can be. -/
def Spelling.read (cs : List Char) : Option Spelling :=
  let number := cs.takeWhile inNumber
  let space := takeOptional (· == ' ') (cs.dropWhile inNumber)
  let unit := takeOptional (fun c => (unitPower c).isSome) space.2
  let binary := takeOptional (fun c => c == 'i' || c == 'I') unit.2
  let byte := takeOptional (fun c => c == 'b' || c == 'B') binary.2
  if isNumber number ∧ byte.2 = [] then
    some ⟨number, space.1.isSome, unit.1, binary.1, byte.1⟩
  else none

def digitsValue (cs : List Char) : Nat :=
  cs.foldl (fun n c => n * 10 + (digitValue c).getD 0) 0

/-- A number of ASCII digits with at most one dot: its digits and the power of ten of the last. -/
def decimalParts (number : List Char) : Option (Nat × Int) :=
  if number.all fun c => isAsciiDigit c || c == '.' then
    match pieces '.' number with
    | [whole] => some (digitsValue whole, 0)
    | [whole, fraction] => some (digitsValue (whole ++ fraction), -(fraction.length : Int))
    | _ => none
  else none

/-- The size in bytes, cut to a whole number, if a signed word holds it. -/
def bytes (digits : Nat) (exponent : Int) (power : Nat) : Option Nat :=
  match (Binary64.mul (.ofDecimal digits exponent) (.ofNat (Nat.pow 1024 power))).floor? with
  | some n => if n ≤ maxSignedWord then some n else none
  | none => none

def parseChars (cs : List Char) : Except QuantityFault Int :=
  match Spelling.read cs with
  | none => .error .malformed
  | some s =>
    match decimalParts s.number with
    | none => .error (.notANumber s.number)
    | some (digits, exponent) =>
      match bytes digits exponent s.power with
      | none => .error .tooLarge
      | some n => .ok n

def parse (text : String) : Except QuantityFault Int :=
  parseChars text.toList

end SwarmDeploy.Memory
