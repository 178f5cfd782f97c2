import SwarmDeploy.Json.Fault
import SwarmDeploy.Number.IntegerText
import SwarmDeploy.Text.Utf8

/-! The smallest parts of a JSON document: blanks, literals, strings and numbers.
Every reader takes the bytes that are left and gives back those that follow what it has read. -/

namespace SwarmDeploy.Json
open SwarmDeploy.Number SwarmDeploy.Text

abbrev Reading (α : Type) : Type := Except Fault (α × List UInt8)

def isBlank (b : UInt8) : Bool :=
  b == 0x20 || b == 0x0A || b == 0x09 || b == 0x0D

def skipBlanks : List UInt8 → List UInt8
  | [] => []
  | b :: rest => if isBlank b then skipBlanks rest else b :: rest

def byteOf (c : Char) : UInt8 := c.toUInt8

def readLiteral : List Char → List UInt8 → Except Fault (List UInt8)
  | [], rest => .ok rest
  | _ :: _, [] => .error (.here .endInValue [])
  | c :: cs, b :: rest =>
    if b = byteOf c then readLiteral cs rest else .error (.here .expectedLiteral rest)

def hexValue (b : UInt8) : Option Nat :=
  let n := b.toNat
  if 48 ≤ n ∧ n ≤ 57 then some (n - 48)
  else if 97 ≤ n ∧ n ≤ 102 then some (n - 87)
  else if 65 ≤ n ∧ n ≤ 70 then some (n - 55)
  else none

def hexValue4 (a b c d : UInt8) : Option Nat := do
  let a ← hexValue a
  let b ← hexValue b
  let c ← hexValue c
  let d ← hexValue d
  pure (((a * 16 + b) * 16 + c) * 16 + d)

def shortEscape (b : UInt8) : Option UInt8 :=
  if b = 0x22 ∨ b = 0x5C ∨ b = 0x2F then some b
  else if b = 0x62 then some 0x08
  else if b = 0x66 then some 0x0C
  else if b = 0x6E then some 0x0A
  else if b = 0x72 then some 0x0D
  else if b = 0x74 then some 0x09
  else none

def isLeadingSurrogate (n : Nat) : Bool := 0xD800 ≤ n && n < 0xDC00

def isTrailingSurrogate (n : Nat) : Bool := 0xDC00 ≤ n && n < 0xE000

def joinSurrogates (lead trail : Nat) : Nat :=
  (lead - 0xD800) * 1024 + (trail - 0xDC00) + 0x10000

def codePointBytes (n : Nat) : List UInt8 :=
  String.utf8EncodeChar (Char.ofNat n)

def prepend (bytes : List UInt8) (r : Reading (List UInt8)) : Reading (List UInt8) :=
  r.map fun found => (bytes ++ found.1, found.2)

/-- Reads the bytes of a string behind its opening quote, with its escapes replaced, and stops in
front of its closing quote. -/
def readQuotedBytes : List UInt8 → Reading (List UInt8)
  | [] => .error (.here .endInText [])
  | b :: rest =>
    if b = 0x22 then .ok ([], b :: rest)
    else if b = 0x5C then
      match rest with
      | [] => .error (.here .endInText [])
      | e :: rest =>
        if e = 0x75 then
          match rest with
          | h₁ :: h₂ :: h₃ :: h₄ :: rest =>
            match hexValue4 h₁ h₂ h₃ h₄ with
            | none => .error (.here .invalidEscape rest)
            | some n =>
              if isTrailingSurrogate n then .error (.here .loneSurrogate rest)
              else if isLeadingSurrogate n then
                match rest with
                | [] => .error (.here .endInText [])
                | s :: rest =>
                  if s ≠ 0x5C then .error (.here .unfinishedSurrogate rest)
                  else
                    match rest with
                    | [] => .error (.here .endInText [])
                    | u :: rest =>
                      if u ≠ 0x75 then .error (.here .unfinishedSurrogate rest)
                      else
                        match rest with
                        | k₁ :: k₂ :: k₃ :: k₄ :: rest =>
                          match hexValue4 k₁ k₂ k₃ k₄ with
                          | none => .error (.here .invalidEscape rest)
                          | some m =>
                            if isTrailingSurrogate m then
                              prepend (codePointBytes (joinSurrogates n m)) (readQuotedBytes rest)
                            else .error (.here .loneSurrogate rest)
                        | _ => .error (.here .endInText [])
              else prepend (codePointBytes n) (readQuotedBytes rest)
          | _ => .error (.here .endInText [])
        else
          match shortEscape e with
          | some c => prepend [c] (readQuotedBytes rest)
          | none => .error (.here .invalidEscape rest)
    else if b < 0x20 then .error (.here .controlCharacter rest)
    else prepend [b] (readQuotedBytes rest)

/-- Reads a string behind its opening quote. A bad sequence of bytes is placed by how far it stands
from the end of the string once the escapes are replaced. -/
def readQuoted (input : List UInt8) : Except Fault (List Char × List UInt8) := do
  let (bytes, rest) ← readQuotedBytes input
  match Utf8.decode bytes with
  | .ok cs => .ok (cs, rest.drop 1)
  | .error fault =>
    let behind := bytes.length - fault.validUpTo
    .error (.next .invalidCodePoint (input.drop (input.length - rest.length - behind)))

def byteDigit (b : UInt8) : Option Nat :=
  if 48 ≤ b.toNat ∧ b.toNat ≤ 57 then some (b.toNat - 48) else none

def isDigitByte (b : UInt8) : Bool := (byteDigit b).isSome

def startsWithDigit : List UInt8 → Bool
  | b :: _ => isDigitByte b
  | [] => false

def startsWithExponent : List UInt8 → Bool
  | b :: _ => b == 0x65 || b == 0x45
  | [] => false

/-- Takes digits as long as their value fits in 64 bits: the value, their count and the rest. -/
def takeDigits : Nat → Nat → List UInt8 → Nat × Nat × List UInt8
  | value, count, [] => (value, count, [])
  | value, count, b :: rest =>
    match byteDigit b with
    | some d =>
      if value * 10 + d ≤ maxWord then takeDigits (value * 10 + d) (count + 1) rest
      else (value, count, b :: rest)
    | none => (value, count, b :: rest)

def divideByPower : Nat → Binary64 → Nat → Binary64
  | 0, f, _ => f
  | fuel + 1, f, power =>
    if power ≤ 308 then f.div (.ofDecimal 1 power)
    else if f.isZero then f
    else divideByPower fuel (f.div (.ofDecimal 1 308)) (power - 308)

/-- `value * 10 ^ exponent` in the format's own arithmetic, unless it is out of range. -/
def scaleByPower (value : Nat) (exponent : Int) : Option Binary64 :=
  let f := Binary64.ofNat value
  if exponent < 0 then some (divideByPower 4 f exponent.natAbs)
  else if exponent ≤ 308 then
    match f.mul (.ofDecimal 1 exponent) with
    | .infinite => none
    | product => some product
  else if f.isZero then some f
  else none

def finishFloat (negative : Bool) (value : Nat) (exponent : Int) (rest : List UInt8) :
    Reading Numeral :=
  match scaleByPower value exponent with
  | some magnitude => .ok (.float negative magnitude, rest)
  | none => .error (.here .numberOutOfRange rest)

def maxWrittenExponent : Nat := 0x7FFFFFFF

/-- The digits of an exponent after the first one; a value that is too large ends the reading. -/
def exponentDigits : Nat → List UInt8 → Except (List UInt8) (Nat × List UInt8)
  | value, [] => .ok (value, [])
  | value, b :: rest =>
    match byteDigit b with
    | some d =>
      if value * 10 + d ≤ maxWrittenExponent then exponentDigits (value * 10 + d) rest
      else .error rest
    | none => .ok (value, b :: rest)

def readExponent (negative : Bool) (value : Nat) (exponent : Int) (input : List UInt8) :
    Reading Numeral :=
  let (down, input) : Bool × List UInt8 :=
    match input with
    | b :: rest =>
      if b = 0x2B then (false, rest) else if b = 0x2D then (true, rest) else (false, input)
    | [] => (false, [])
  match input with
  | [] => .error (.here .endInValue [])
  | b :: rest =>
    match byteDigit b with
    | none => .error (.here .invalidNumber rest)
    | some d =>
      match exponentDigits d rest with
      | .ok (e, rest) =>
        finishFloat negative value (if down then exponent - e else exponent + e) rest
      | .error rest =>
        if value ≠ 0 ∧ !down then .error (.here .numberOutOfRange rest)
        else .ok (.float negative (.finite 0 Binary64.minExponent), rest.dropWhile isDigitByte)

def readScaled (negative : Bool) (value : Nat) (exponent : Int) (input : List UInt8) :
    Reading Numeral :=
  if startsWithExponent input then readExponent negative value exponent (input.drop 1)
  else finishFloat negative value exponent input

def readFraction (negative : Bool) (value : Nat) (exponent : Int) (input : List UInt8) :
    Reading Numeral :=
  let (value, count, rest) := takeDigits value 0 input
  if startsWithDigit rest then
    readScaled negative value (exponent - count) (rest.dropWhile isDigitByte)
  else if count = 0 then
    .error (.next (if rest.isEmpty then .endInValue else .invalidNumber) rest)
  else readScaled negative value (exponent - count) rest

/-- An integer as written, which is a float if it is out of range or a zero with a sign. -/
def integerNumeral (negative : Bool) (value : Nat) : Numeral :=
  if !negative then .natural value
  else if value = 0 ∨ 0x8000000000000000 < value then .float true (.ofNat value)
  else .negative value

def readAfterInteger (negative : Bool) (value : Nat) (input : List UInt8) : Reading Numeral :=
  match input with
  | b :: rest =>
    if b = 0x2E then readFraction negative value 0 rest
    else if b = 0x65 ∨ b = 0x45 then readExponent negative value 0 rest
    else .ok (integerNumeral negative value, input)
  | [] => .ok (integerNumeral negative value, [])

/-- Goes on after the first digits of an integer part of more than 64 bits. -/
def readAfterLongInteger (negative : Bool) (value : Nat) (input : List UInt8) : Reading Numeral :=
  let dropped := (input.takeWhile isDigitByte).length
  match input.dropWhile isDigitByte with
  | b :: rest =>
    if b = 0x2E then readFraction negative value dropped rest
    else readScaled negative value dropped (b :: rest)
  | [] => finishFloat negative value dropped []

def readUnsigned (negative : Bool) : List UInt8 → Reading Numeral
  | [] => .error (.here .endInValue [])
  | b :: rest =>
    match byteDigit b with
    | none => .error (.here .invalidNumber rest)
    | some 0 =>
      if startsWithDigit rest then .error (.next .invalidNumber rest)
      else readAfterInteger negative 0 rest
    | some d =>
      let (value, _, rest) := takeDigits d 1 rest
      if startsWithDigit rest then readAfterLongInteger negative value rest
      else readAfterInteger negative value rest

end SwarmDeploy.Json
