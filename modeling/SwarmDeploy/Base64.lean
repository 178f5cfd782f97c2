/-! Base64 with padding, in the standard and the URL-safe alphabet.
Reading accepts only what writing produces: padding is required and the unused bits of the last
symbol are zero. The faults tell where and why another text is refused. -/

namespace SwarmDeploy.Base64

inductive Alphabet where
  | standard
  | urlSafe
  deriving DecidableEq, Repr

def Alphabet.symbol (a : Alphabet) (value : Nat) : Char :=
  if value < 26 then Char.ofNat (65 + value)
  else if value < 52 then Char.ofNat (97 + (value - 26))
  else if value < 62 then Char.ofNat (48 + (value - 52))
  else
    match a with
    | .standard => if value = 62 then '+' else '/'
    | .urlSafe => if value = 62 then '-' else '_'

def Alphabet.value (a : Alphabet) (symbol : UInt8) : Option Nat :=
  let n := symbol.toNat
  if 65 ≤ n ∧ n ≤ 90 then some (n - 65)
  else if 97 ≤ n ∧ n ≤ 122 then some (n - 97 + 26)
  else if 48 ≤ n ∧ n ≤ 57 then some (n - 48 + 52)
  else
    match a with
    | .standard => if n = 43 then some 62 else if n = 47 then some 63 else none
    | .urlSafe => if n = 45 then some 62 else if n = 95 then some 63 else none

def pad : UInt8 := 61

def encode (a : Alphabet) : List UInt8 → List Char
  | [] => []
  | [x] =>
    [a.symbol (x.toNat / 4), a.symbol (x.toNat % 4 * 16), '=', '=']
  | [x, y] =>
    [a.symbol (x.toNat / 4), a.symbol (x.toNat % 4 * 16 + y.toNat / 16),
      a.symbol (y.toNat % 16 * 4), '=']
  | x :: y :: z :: rest =>
    a.symbol (x.toNat / 4) :: a.symbol (x.toNat % 4 * 16 + y.toNat / 16) ::
      a.symbol (y.toNat % 16 * 4 + z.toNat / 64) :: a.symbol (z.toNat % 64) :: encode a rest

inductive Fault where
  | symbol (byte : UInt8) (offset : Nat)
  | length (offset : Nat)
  | padding
  | lastSymbol (byte : UInt8) (offset : Nat)
  deriving DecidableEq, Repr

def Fault.message : Fault → String
  | .symbol byte offset =>
    "Invalid symbol " ++ toString byte.toNat ++ ", offset " ++ toString offset ++ "."
  | .length offset => "Invalid input length: " ++ toString offset
  | .padding => "Invalid padding"
  | .lastSymbol byte offset =>
    "Invalid last symbol " ++ toString byte.toNat ++ ", offset " ++ toString offset ++ "."

def readSymbol (a : Alphabet) (byte : UInt8) (offset : Nat) : Except Fault Nat :=
  match a.value byte with
  | some v => .ok v
  | none => .error (.symbol byte offset)

/-- The symbols of the last group, with their bytes, and how many padding signs follow them.
`place` counts the bytes of the group read so far, `start` is its offset, and `padded` the place
of its first padding sign. -/
def readLastSymbols (a : Alphabet) (start : Nat) :
    Nat → Option Nat → List UInt8 → Except Fault (List (Nat × UInt8) × Nat)
  | _, _, [] => .ok ([], 0)
  | place, padded, b :: bytes =>
    if b = pad then
      if place < 2 then .error (.symbol pad (start + place))
      else do
        let rest ← readLastSymbols a start (place + 1) (padded.or (some place)) bytes
        pure (rest.1, rest.2 + 1)
    else
      match padded with
      | some first => .error (.symbol pad (start + first))
      | none => do
        let v ← readSymbol a b (start + place)
        let rest ← readLastSymbols a start (place + 1) none bytes
        pure ((v, b) :: rest.1, rest.2)

def decodeLast (a : Alphabet) (start : Nat) (group : List UInt8) : Except Fault (List UInt8) := do
  if start = 0 ∧ group = [] then return []
  let (symbols, pads) ← readLastSymbols a start 0 none group
  if symbols.length < 2 then throw (.length (start + symbols.length))
  if (symbols.length + pads) % 4 ≠ 0 then throw .padding
  match symbols with
  | [(p, _), (q, last)] =>
    if q % 16 = 0 then pure [UInt8.ofNat (p * 4 + q / 16)]
    else throw (.lastSymbol last (start + 1))
  | [(p, _), (q, _), (r, last)] =>
    if r % 4 = 0 then pure [UInt8.ofNat (p * 4 + q / 16), UInt8.ofNat (q % 16 * 16 + r / 4)]
    else throw (.lastSymbol last (start + 2))
  | (p, _) :: (q, _) :: (r, _) :: (s, _) :: _ =>
    pure [UInt8.ofNat (p * 4 + q / 16), UInt8.ofNat (q % 16 * 16 + r / 4),
      UInt8.ofNat (r % 4 * 64 + s)]
  | _ => pure []

def decodeGroups (a : Alphabet) : Nat → List UInt8 → Except Fault (List UInt8)
  | offset, w :: x :: y :: z :: next :: rest => do
    let p ← readSymbol a w offset
    let q ← readSymbol a x (offset + 1)
    let r ← readSymbol a y (offset + 2)
    let s ← readSymbol a z (offset + 3)
    let bytes ← decodeGroups a (offset + 4) (next :: rest)
    pure (UInt8.ofNat (p * 4 + q / 16) :: UInt8.ofNat (q % 16 * 16 + r / 4) ::
      UInt8.ofNat (r % 4 * 64 + s) :: bytes)
  | offset, group => decodeLast a offset group

/-- A lone last byte that is no symbol is named before all other faults. -/
def loneLast (a : Alphabet) (bytes : List UInt8) : Option Fault :=
  if bytes.length % 4 = 1 then
    match bytes.getLast? with
    | some b =>
      if b = pad ∨ (a.value b).isSome then none else some (.symbol b (bytes.length - 1))
    | none => none
  else none

def decode (a : Alphabet) (bytes : List UInt8) : Except Fault (List UInt8) :=
  match loneLast a bytes with
  | some fault => .error fault
  | none => decodeGroups a 0 bytes

end SwarmDeploy.Base64
