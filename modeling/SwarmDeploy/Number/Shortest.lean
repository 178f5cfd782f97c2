import SwarmDeploy.Number.Binary64

/-! The shortest decimal of a magnitude.
Of all decimals that read back as the magnitude, the ones with the fewest digits are chosen, and
of those the nearest to it. -/

namespace SwarmDeploy.Number

def decimalDigits (n : Nat) : List Char :=
  Nat.toDigits 10 n

/-- The exponent `k` with `10 ^ k ≤ num / den < 10 ^ (k + 1)`, searched upward from `k`. -/
def decimalOrder (num den : Nat) : Nat → Int → Int
  | 0, k => k
  | fuel + 1, k =>
    let next := k + 1
    if den * Nat.pow 10 next.toNat ≤ num * Nat.pow 10 (-next).toNat then
      decimalOrder num den fuel next
    else k

/-- The reals that round to a magnitude: the magnitude and the two ends, over one denominator. -/
structure RoundingInterval where
  value : Nat
  low : Nat
  high : Nat
  den : Nat
  closed : Bool

def RoundingInterval.ofFinite (m : Nat) (e : Int) : RoundingInterval :=
  let k := e - 2
  let up := Nat.pow 2 k.toNat
  let below := if m = 0x10000000000000 ∧ Binary64.minExponent < e then 1 else 2
  ⟨4 * m * up, (4 * m - below) * up, (4 * m + 2) * up, Nat.pow 2 (-k).toNat, m % 2 = 0⟩

def RoundingInterval.admits (i : RoundingInterval) (digits : Nat) (k : Int) : Bool :=
  let num := digits * Nat.pow 10 k.toNat * i.den
  let unit := Nat.pow 10 (-k).toNat
  if i.closed then i.low * unit ≤ num && num ≤ i.high * unit
  else i.low * unit < num && num < i.high * unit

/-- The admitted neighbour of the value on the grid of `10 ^ k`; of two, the nearer. -/
def RoundingInterval.onGrid (i : RoundingInterval) (k : Int) : Option Nat :=
  let num := i.value * Nat.pow 10 (-k).toNat
  let den := i.den * Nat.pow 10 k.toNat
  let low := num / den
  match i.admits low k && low != 0, i.admits (low + 1) k with
  | true, true => some (Binary64.nearestEven num den)
  | true, false => some low
  | false, true => some (low + 1)
  | false, false => none

def RoundingInterval.shortest (i : RoundingInterval) : Nat → Int → Nat × Int
  | 0, k => (i.value * Nat.pow 10 (-k).toNat / (i.den * Nat.pow 10 k.toNat), k)
  | fuel + 1, k =>
    match i.onGrid k with
    | some digits => (digits, k)
    | none => RoundingInterval.shortest i fuel (k - 1)

/-- The shortest digits of a positive magnitude and the power of ten of the last one. -/
def shortestDecimal (m : Nat) (e : Int) : Nat × Int :=
  let i := RoundingInterval.ofFinite m e
  i.shortest 17 (decimalOrder i.value i.den 640 (-330))

/-- How a reader names a number with a fraction or an exponent: positional from `1e-5` up to
`1e16`, with an exponent and its sign otherwise. -/
def floatText (negative : Bool) (magnitude : Binary64) : List Char :=
  let sign := if negative then ['-'] else []
  match magnitude with
  | .infinite => sign ++ ['i', 'n', 'f']
  | .finite 0 _ => sign ++ ['0', '.', '0']
  | .finite m e =>
    let shortest := shortestDecimal m e
    let raw := decimalDigits shortest.1
    let kept := ((raw.reverse.dropWhile (· == '0')).reverse)
    let point : Int := raw.length + shortest.2
    let body :=
      if -5 < point ∧ point ≤ 16 then
        if point ≤ 0 then
          ['0', '.'] ++ List.replicate (-point).toNat '0' ++ kept
        else if kept.length ≤ point.toNat then
          kept ++ List.replicate (point.toNat - kept.length) '0' ++ ['.', '0']
        else
          kept.take point.toNat ++ ['.'] ++ kept.drop point.toNat
      else
        let exponent := point - 1
        let fraction := kept.drop 1
        kept.take 1 ++ (if fraction.isEmpty then [] else '.' :: fraction) ++ ['e'] ++
          (if exponent < 0 then ['-'] else ['+']) ++ decimalDigits exponent.natAbs
    sign ++ body

end SwarmDeploy.Number
