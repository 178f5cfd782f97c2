import SwarmDeploy.Number.Shortest
import SwarmDeploy.Text.Quoted

/-! What can be wrong with a JSON document, and where.
A fault says how many bytes of the document had not been read when it was found; line and column
follow from that. -/

namespace SwarmDeploy.Json
open SwarmDeploy.Number

/-- A number as it is read: an integer of 64 bits, with or without a sign, or a magnitude. -/
inductive Numeral where
  | natural (n : Nat)
  | negative (n : Nat)
  | float (negative : Bool) (magnitude : Binary64)
  deriving DecidableEq, Repr

def Numeral.integer? : Numeral → Option Int
  | .natural n => some n
  | .negative n => some (-(n : Int))
  | .float _ _ => none

inductive Found where
  | null
  | bool (b : Bool)
  | number (n : Numeral)
  | text (s : List Char)
  | list
  | object
  deriving DecidableEq, Repr

def Found.message : Found → String
  | .null => "null"
  | .bool b => if b then "boolean `true`" else "boolean `false`"
  | .number (.natural n) => "integer `" ++ toString n ++ "`"
  | .number (.negative n) => "integer `-" ++ toString n ++ "`"
  | .number (.float negative m) => "floating point `" ++ String.ofList (floatText negative m) ++ "`"
  | .text s => "string " ++ String.ofList (Text.quoted s)
  | .list => "sequence"
  | .object => "map"

inductive Cause where
  | endInValue
  | endInText
  | endInList
  | endInObject
  | expectedValue
  | expectedLiteral
  | expectedColon
  | expectedListEnd
  | expectedObjectEnd
  | keyNotText
  | trailingComma
  | trailingCharacters
  | invalidNumber
  | numberOutOfRange
  | controlCharacter
  | invalidEscape
  | loneSurrogate
  | unfinishedSurrogate
  | invalidCodePoint
  | invalidType (found : Found) (expected : String)
  | invalidValue (n : Int) (expected : String)
  | invalidLength (length : Nat) (record : String) (size : Nat)
  | unknownVariant (name : List Char) (known : List String)
  | missingField (name : String)
  | duplicateField (name : String)
  deriving DecidableEq, Repr

def ticked (names : List String) : String :=
  ", ".intercalate (names.map fun n => "`" ++ n ++ "`")

def choiceText : List String → String
  | [] => "there are no variants"
  | [a] => "expected `" ++ a ++ "`"
  | [a, b] => "expected `" ++ a ++ "` or `" ++ b ++ "`"
  | names => "expected one of " ++ ticked names

def elementText (size : Nat) : String :=
  toString size ++ (if size = 1 then " element" else " elements")

def Cause.message : Cause → String
  | .endInValue => "EOF while parsing a value"
  | .endInText => "EOF while parsing a string"
  | .endInList => "EOF while parsing a list"
  | .endInObject => "EOF while parsing an object"
  | .expectedValue => "expected value"
  | .expectedLiteral => "expected ident"
  | .expectedColon => "expected `:`"
  | .expectedListEnd => "expected `,` or `]`"
  | .expectedObjectEnd => "expected `,` or `\x7d`"
  | .keyNotText => "key must be a string"
  | .trailingComma => "trailing comma"
  | .trailingCharacters => "trailing characters"
  | .invalidNumber => "invalid number"
  | .numberOutOfRange => "number out of range"
  | .controlCharacter => "control character (\\u0000-\\u001F) found while parsing a string"
  | .invalidEscape => "invalid escape"
  | .loneSurrogate => "lone leading surrogate in hex escape"
  | .unfinishedSurrogate => "unexpected end of hex escape"
  | .invalidCodePoint => "invalid unicode code point"
  | .invalidType found expected =>
    "invalid type: " ++ found.message ++ ", expected " ++ expected
  | .invalidValue n expected =>
    "invalid value: integer `" ++ toString n ++ "`, expected " ++ expected
  | .invalidLength length record size =>
    "invalid length " ++ toString length ++ ", expected struct " ++ record ++ " with " ++
      elementText size
  | .unknownVariant name known =>
    "unknown variant `" ++ String.ofList name ++ "`, " ++ choiceText known
  | .missingField name => "missing field `" ++ name ++ "`"
  | .duplicateField name => "duplicate field `" ++ name ++ "`"

/-- A fault and the number of bytes that were left to read. -/
structure Fault where
  cause : Cause
  left : Nat
  deriving DecidableEq, Repr

def Fault.here (cause : Cause) (rest : List UInt8) : Fault :=
  ⟨cause, rest.length⟩

def Fault.next (cause : Cause) (rest : List UInt8) : Fault :=
  ⟨cause, rest.length - 1⟩

def lineFeed : UInt8 := 10

/-- The line of the last of some bytes, counted from one, and the bytes since its start. -/
def position (read : List UInt8) : Nat × Nat :=
  (1 + read.count lineFeed, (read.reverse.takeWhile (· != lineFeed)).length)

def Fault.message (document : List UInt8) (f : Fault) : String :=
  let place := position (document.take (document.length - f.left))
  f.cause.message ++ " at line " ++ toString place.1 ++ " column " ++ toString place.2

end SwarmDeploy.Json
