import SwarmDeploy.Json.Lexeme

/-! Skipping values that nobody asks for.
A skipped value is checked for its syntax only: its strings may hold any bytes and any escapes, its
numbers may be of any size, and its brackets may nest to any depth. -/

namespace SwarmDeploy.Json

def skipQuoted : List UInt8 → Except Fault (List UInt8)
  | [] => .error (.here .endInText [])
  | b :: rest =>
    if b = 0x22 then .ok rest
    else if b = 0x5C then
      match rest with
      | [] => .error (.here .endInText [])
      | e :: rest =>
        if e = 0x75 then
          match rest with
          | a :: b :: c :: d :: rest =>
            if (hexValue4 a b c d).isSome then skipQuoted rest
            else .error (.here .invalidEscape rest)
          | _ => .error (.here .endInText [])
        else if (shortEscape e).isSome then skipQuoted rest
        else .error (.here .invalidEscape rest)
    else if b < 0x20 then .error (.here .controlCharacter (b :: rest))
    else skipQuoted rest

def skipExponent (input : List UInt8) : Except Fault (List UInt8) :=
  let unsigned :=
    match input with
    | b :: rest => if b = 0x2B ∨ b = 0x2D then rest else input
    | [] => []
  match unsigned with
  | [] => .error (.here .invalidNumber [])
  | b :: rest =>
    if isDigitByte b then .ok (rest.dropWhile isDigitByte)
    else .error (.here .invalidNumber rest)

def skipAfterInteger (input : List UInt8) : Except Fault (List UInt8) :=
  match input with
  | [] => .ok []
  | b :: rest =>
    if b = 0x2E then
      if startsWithDigit rest then
        let rest := rest.dropWhile isDigitByte
        if startsWithExponent rest then skipExponent (rest.drop 1) else .ok rest
      else .error (.next .invalidNumber rest)
    else if b = 0x65 ∨ b = 0x45 then skipExponent rest
    else .ok input

def skipNumber : List UInt8 → Except Fault (List UInt8)
  | [] => .error (.here .invalidNumber [])
  | b :: rest =>
    if b = 0x30 then
      if startsWithDigit rest then .error (.next .invalidNumber rest) else skipAfterInteger rest
    else if isDigitByte b then skipAfterInteger (rest.dropWhile isDigitByte)
    else .error (.here .invalidNumber rest)

inductive Bracket where
  | list
  | object
  deriving DecidableEq, Repr

def Bracket.closing : Bracket → UInt8
  | .list => 0x5D
  | .object => 0x7D

def Bracket.endOfInput : Bracket → Cause
  | .list => .endInList
  | .object => .endInObject

def Bracket.expectedEnd : Bracket → Cause
  | .list => .expectedListEnd
  | .object => .expectedObjectEnd

/-- Skips a key and its colon; the closing bracket is not looked for. -/
def skipKey (input : List UInt8) : Except Fault (List UInt8) :=
  match skipBlanks input with
  | [] => .error (.next .endInObject [])
  | b :: rest =>
    if b ≠ 0x22 then .error (.next .keyNotText (b :: rest))
    else do
      let rest ← skipQuoted rest
      match skipBlanks rest with
      | [] => .error (.next .endInObject [])
      | b :: rest => if b = 0x3A then .ok rest else .error (.next .expectedColon (b :: rest))

/-- Skips what stands in front of an item's value: nothing in a list, a key in an object. -/
def skipToValue : Bracket → List UInt8 → Except Fault (List UInt8)
  | .list, input => .ok input
  | .object, input => skipKey input

mutual

/-- Skips a value and everything up to the end of the outermost of the brackets that are open,
the innermost one first. The fuel bounds the number of steps. -/
def skipOpen : Nat → List Bracket → List UInt8 → Except Fault (List UInt8)
  | 0, _, input => .error (.next .endInValue input)
  | fuel + 1, brackets, input =>
    match skipBlanks input with
    | [] => .error (.next .endInValue [])
    | b :: rest =>
      if b = 0x6E then do
        skipEnds fuel brackets true (← readLiteral ['u', 'l', 'l'] rest)
      else if b = 0x74 then do
        skipEnds fuel brackets true (← readLiteral ['r', 'u', 'e'] rest)
      else if b = 0x66 then do
        skipEnds fuel brackets true (← readLiteral ['a', 'l', 's', 'e'] rest)
      else if b = 0x2D then do
        skipEnds fuel brackets true (← skipNumber rest)
      else if isDigitByte b then do
        skipEnds fuel brackets true (← skipNumber (b :: rest))
      else if b = 0x22 then do
        skipEnds fuel brackets true (← skipQuoted rest)
      else if b = 0x5B then skipEnds fuel (.list :: brackets) false rest
      else if b = 0x7B then skipEnds fuel (.object :: brackets) false rest
      else .error (.next .expectedValue (b :: rest))

/-- Skips closing brackets and goes on with the next value; `begun` says that an item of the
innermost bracket has been skipped, so that a comma must follow. -/
def skipEnds : Nat → List Bracket → Bool → List UInt8 → Except Fault (List UInt8)
  | 0, _, _, input => .error (.next .endInValue input)
  | _, [], _, input => .ok input
  | fuel + 1, bracket :: outer, begun, input =>
    match skipBlanks input with
    | [] => .error (.next bracket.endOfInput [])
    | b :: rest =>
      if b = bracket.closing then skipEnds fuel outer true rest
      else if begun then
        if b = 0x2C then do
          skipOpen fuel (bracket :: outer) (← skipToValue bracket rest)
        else .error (.next bracket.expectedEnd (b :: rest))
      else do
        skipOpen fuel (bracket :: outer) (← skipToValue bracket (b :: rest))

end

def skipValue (input : List UInt8) : Except Fault (List UInt8) :=
  skipOpen (2 * input.length + 2) [] input

end SwarmDeploy.Json
