/-! Magnitudes of the binary64 format and their arithmetic.
A finite magnitude is an integer of at most 53 bits times a power of two; every operation is
exact and is rounded once, to the nearest magnitude, a tie to the even one. -/

namespace SwarmDeploy.Number

/-- A magnitude `significand * 2 ^ exponent`, or one beyond the format's range. -/
inductive Binary64 where
  | finite (significand : Nat) (exponent : Int)
  | infinite
  deriving DecidableEq, Repr

namespace Binary64

def minExponent : Int := -1074

def maxExponent : Int := 971

/-- The integer nearest to `num / den`; of two equally near ones, the even one. -/
def nearestEven (num den : Nat) : Nat :=
  let q := num / den
  let r := num % den
  if 2 * r < den then q else if den < 2 * r then q + 1 else q + q % 2

def scaled (num den : Nat) (k : Int) : Nat × Nat :=
  (num * Nat.pow 2 k.toNat, den * Nat.pow 2 (-k).toNat)

/-- The exponent `e` with `2 ^ e ≤ num / den < 2 ^ (e + 1)`, for a positive fraction. -/
def binaryOrder (num den : Nat) : Int :=
  let e : Int := (num.log2 : Int) - (den.log2 : Int)
  let below := scaled den num e
  if below.1 ≤ below.2 then e else e - 1

/-- The magnitude nearest to `num / den * 2 ^ k`. -/
def ofFraction (num den : Nat) (k : Int) : Binary64 :=
  if num = 0 then .finite 0 minExponent
  else
    let e := max (binaryOrder num den + k - 52) minExponent
    let parts := scaled num den (k - e)
    let m := nearestEven parts.1 parts.2
    let carried := if m = 0x20000000000000 then (0x10000000000000, e + 1) else (m, e)
    if maxExponent < carried.2 then .infinite else .finite carried.1 carried.2

def ofNat (n : Nat) : Binary64 :=
  ofFraction n 1 0

def ofDecimal (digits : Nat) (exponent : Int) : Binary64 :=
  ofFraction (digits * Nat.pow 10 exponent.toNat) (Nat.pow 10 (-exponent).toNat) 0

def isZero : Binary64 → Bool
  | .finite 0 _ => true
  | _ => false

def mul : Binary64 → Binary64 → Binary64
  | .finite m e, .finite n f => ofFraction (m * n) 1 (e + f)
  | _, _ => .infinite

def div : Binary64 → Binary64 → Binary64
  | .finite m e, .finite n f => ofFraction m n (e - f)
  | .finite _ _, .infinite => .finite 0 minExponent
  | .infinite, _ => .infinite

def floor? : Binary64 → Option Nat
  | .finite m e =>
    let parts := scaled m 1 e
    some (parts.1 / parts.2)
  | .infinite => none

end Binary64
end SwarmDeploy.Number
