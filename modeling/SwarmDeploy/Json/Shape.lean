import SwarmDeploy.Json.Skip
import SwarmDeploy.Json.Value
import SwarmDeploy.Bindings

/-! Shapes of JSON documents and the reading of a document under a shape.
A record is written as an object, whose unknown members are skipped, or as a list of its fields
in order. The value read from it has all fields in order, with defaults for those left out. -/

namespace SwarmDeploy.Json
open SwarmDeploy.Text

inductive IntegerRange where
  | word
  | signedWord
  | halfWord
  deriving DecidableEq, Repr

def IntegerRange.name : IntegerRange → String
  | .word => "u64"
  | .signedWord => "i64"
  | .halfWord => "u32"

def IntegerRange.contains : IntegerRange → Int → Bool
  | .word, n => 0 ≤ n && n < 0x10000000000000000
  | .signedWord, n => -0x8000000000000000 ≤ n && n < 0x8000000000000000
  | .halfWord, n => 0 ≤ n && n < 0x100000000

inductive Presence where
  | required
  | default (value : Value)
  deriving Repr

mutual

inductive Shape where
  | text
  | flag
  | integer (range : IntegerRange)
  | choice (names : List String)
  | optional (inner : Shape)
  | many (inner : Shape)
  | dictionary (inner : Shape)
  | record (name : String) (fields : Fields)

inductive Fields where
  | nil
  | cons (name : String) (shape : Shape) (presence : Presence) (rest : Fields)

end

def Fields.ofList : List (String × Shape × Presence) → Fields
  | [] => .nil
  | (name, shape, presence) :: rest => .cons name shape presence (Fields.ofList rest)

def Shape.recordOf (name : String) (fields : List (String × Shape × Presence)) : Shape :=
  .record name (.ofList fields)

structure FieldReader where
  name : String
  presence : Presence
  read : List UInt8 → Reading Value

/-- The fault for a value of another type than the expected one. A value without brackets is read
first, and its own faults come before. -/
def mismatch (expected : String) (input : List UInt8) : Fault :=
  let found (f : Found) (rest : List UInt8) : Fault := .here (.invalidType f expected) rest
  match input with
  | [] => .next .expectedValue []
  | b :: rest =>
    if b = 0x6E then
      match readLiteral ['u', 'l', 'l'] rest with
      | .ok rest => found .null rest
      | .error fault => fault
    else if b = 0x74 then
      match readLiteral ['r', 'u', 'e'] rest with
      | .ok rest => found (.bool true) rest
      | .error fault => fault
    else if b = 0x66 then
      match readLiteral ['a', 'l', 's', 'e'] rest with
      | .ok rest => found (.bool false) rest
      | .error fault => fault
    else if b = 0x2D then
      match readUnsigned true rest with
      | .ok (n, rest) => found (.number n) rest
      | .error fault => fault
    else if isDigitByte b then
      match readUnsigned false (b :: rest) with
      | .ok (n, rest) => found (.number n) rest
      | .error fault => fault
    else if b = 0x22 then
      match readQuoted rest with
      | .ok (s, rest) => found (.text s) rest
      | .error fault => fault
    else if b = 0x5B then found .list (b :: rest)
    else if b = 0x7B then found .object (b :: rest)
    else .next .expectedValue (b :: rest)

def readText (input : List UInt8) : Reading Value :=
  match skipBlanks input with
  | [] => .error (.next .endInValue [])
  | b :: rest =>
    if b = 0x22 then (readQuoted rest).map fun r => (.text (String.ofList r.1), r.2)
    else .error (mismatch "a string" (b :: rest))

def readFlag (input : List UInt8) : Reading Value :=
  match skipBlanks input with
  | [] => .error (.next .endInValue [])
  | b :: rest =>
    if b = 0x74 then (readLiteral ['r', 'u', 'e'] rest).map fun rest => (.bool true, rest)
    else if b = 0x66 then
      (readLiteral ['a', 'l', 's', 'e'] rest).map fun rest => (.bool false, rest)
    else .error (mismatch "a boolean" (b :: rest))

def acceptInteger (range : IntegerRange) (n : Numeral) (rest : List UInt8) : Reading Value :=
  match n.integer? with
  | none => .error (.here (.invalidType (.number n) range.name) rest)
  | some i =>
    if range.contains i then .ok (.int i, rest)
    else .error (.here (.invalidValue i range.name) rest)

def readInteger (range : IntegerRange) (input : List UInt8) : Reading Value :=
  match skipBlanks input with
  | [] => .error (.next .endInValue [])
  | b :: rest =>
    if b = 0x2D then
      match readUnsigned true rest with
      | .ok (n, rest) => acceptInteger range n rest
      | .error fault => .error fault
    else if isDigitByte b then
      match readUnsigned false (b :: rest) with
      | .ok (n, rest) => acceptInteger range n rest
      | .error fault => .error fault
    else .error (mismatch range.name (b :: rest))

def skipColon (input : List UInt8) : Except Fault (List UInt8) :=
  match skipBlanks input with
  | [] => .error (.next .endInObject [])
  | b :: rest => if b = 0x3A then .ok rest else .error (.next .expectedColon (b :: rest))

def readVariant (names : List String) (input : List UInt8) : Reading Value :=
  match readQuoted input with
  | .error fault => .error fault
  | .ok (cs, rest) =>
    if names.contains (String.ofList cs) then .ok (.text (String.ofList cs), rest)
    else .error (.here (.unknownVariant cs names) rest)

/-- Reads the `null` that stands behind the name of a choice written as an object. -/
def readUnit (input : List UInt8) : Except Fault (List UInt8) :=
  match skipBlanks input with
  | [] => .error (.next .endInValue [])
  | b :: rest =>
    if b = 0x6E then readLiteral ['u', 'l', 'l'] rest
    else .error (mismatch "unit" (b :: rest))

/-- A choice is a string, or an object whose one member has the name and the value `null`. -/
def readChoice (names : List String) (input : List UInt8) :
    Except Fault (Value × List UInt8) :=
  match skipBlanks input with
  | [] => .error (.next .endInValue [])
  | b :: rest =>
    if b = 0x22 then readVariant names rest
    else if b = 0x7B then
      match skipBlanks rest with
      | [] => .error (.next .endInValue [])
      | b :: rest =>
        if b = 0x22 then do
          let (v, rest) ← readVariant names rest
          let rest ← readUnit (← skipColon rest)
          match skipBlanks rest with
          | [] => .error (.here .endInObject [])
          | b :: rest =>
            if b = 0x7D then .ok (v, rest) else .error (.here .expectedValue (b :: rest))
        else .error (mismatch "variant identifier" (b :: rest))
    else .error (.next .expectedValue (b :: rest))

/-- Whether another item of a list follows; the input then starts with it, and with the closing
bracket otherwise. -/
def nextItem (first : Bool) (input : List UInt8) : Reading Bool :=
  match skipBlanks input with
  | [] => .error (.next .endInList [])
  | b :: rest =>
    if b = 0x5D then .ok (false, b :: rest)
    else if first then .ok (true, b :: rest)
    else if b = 0x2C then
      match skipBlanks rest with
      | [] => .error (.next .endInValue [])
      | b :: rest =>
        if b = 0x5D then .error (.next .trailingComma (b :: rest)) else .ok (true, b :: rest)
    else .error (.next .expectedListEnd (b :: rest))

/-- Reads the items of a list and its closing bracket; the fuel bounds their number. -/
def readItems (read : List UInt8 → Reading Value) :
    Nat → Bool → List UInt8 → Except Fault (List Value × List UInt8)
  | 0, _, input => .error (.next .endInList input)
  | fuel + 1, first, input => do
    let (more, input) ← nextItem first input
    if more then
      let (v, rest) ← read input
      let (vs, rest) ← readItems read fuel false rest
      pure (v :: vs, rest)
    else pure ([], input.drop 1)

def readList (read : List UInt8 → Reading Value) (input : List UInt8) : Reading Value :=
  match skipBlanks input with
  | [] => .error (.next .endInValue [])
  | b :: rest =>
    if b = 0x5B then (readItems read input.length true rest).map fun r => (.list r.1, r.2)
    else .error (mismatch "a sequence" (b :: rest))

/-- Whether another member of an object follows; the input then starts behind the opening quote
of its name, and with the closing bracket otherwise. -/
def nextMember (first : Bool) (input : List UInt8) : Reading Bool :=
  let member (input : List UInt8) : Reading Bool :=
    match input with
    | [] => .error (.next .endInValue [])
    | b :: rest =>
      if b = 0x22 then .ok (true, rest)
      else if b = 0x7D then .error (.next .trailingComma (b :: rest))
      else .error (.next .keyNotText (b :: rest))
  match skipBlanks input with
  | [] => .error (.next .endInObject [])
  | b :: rest =>
    if b = 0x7D then .ok (false, b :: rest)
    else if first then member (b :: rest)
    else if b = 0x2C then member (skipBlanks rest)
    else .error (.next .expectedObjectEnd (b :: rest))

/-- Reads the members of a dictionary and its closing bracket; the last of repeated names gives
the value, the first one the place. -/
def readEntries (read : List UInt8 → Reading Value) :
    Nat → Bool → List (String × Value) → List UInt8 →
      Except Fault (List (String × Value) × List UInt8)
  | 0, _, _, input => .error (.next .endInObject input)
  | fuel + 1, first, entries, input => do
    let (more, input) ← nextMember first input
    if more then
      let (key, rest) ← readQuoted input
      let (v, rest) ← read (← skipColon rest)
      readEntries read fuel false (Bindings.bind (String.ofList key) v entries) rest
    else pure (entries, input.drop 1)

def readDictionary (read : List UInt8 → Reading Value) (input : List UInt8) : Reading Value :=
  match skipBlanks input with
  | [] => .error (.next .endInValue [])
  | b :: rest =>
    if b = 0x7B then
      (readEntries read input.length true [] rest).map fun r => (.object r.1, r.2)
    else .error (mismatch "a map" (b :: rest))

/-- The input behind the closing bracket of an object whose reading was given up. -/
def leaveObject (input : List UInt8) : List UInt8 :=
  match skipBlanks input with
  | [] => []
  | b :: rest => if b = 0x7D then rest else b :: rest

def readMembers (fields : List FieldReader) :
    Nat → Bool → List (String × Value) → List UInt8 →
      Except Fault (List (String × Value) × List UInt8)
  | 0, _, _, input => .error (.next .endInObject input)
  | fuel + 1, first, found, input => do
    let (more, input) ← nextMember first input
    if more then
      let (key, rest) ← readQuoted input
      let name := String.ofList key
      match fields.find? fun f => f.name == name with
      | none => readMembers fields fuel false found (← skipValue (← skipColon rest))
      | some field =>
        if (found.lookup name).isSome then
          throw (.here (.duplicateField name) (leaveObject rest))
        else
          let (v, rest) ← field.read (← skipColon rest)
          readMembers fields fuel false ((name, v) :: found) rest
    else pure (found, input)

/-- All fields in order, with their defaults; `rest` follows the closing bracket. -/
def complete (found : List (String × Value)) (rest : List UInt8) :
    List FieldReader → Except Fault (List (String × Value))
  | [] => .ok []
  | field :: fields =>
    match found.lookup field.name, field.presence with
    | some v, _ => (complete found rest fields).map ((field.name, v) :: ·)
    | none, .default v => (complete found rest fields).map ((field.name, v) :: ·)
    | none, .required => .error (.here (.missingField field.name) rest)

def closeList (input : List UInt8) : Except Fault (List UInt8) :=
  match skipBlanks input with
  | [] => .error (.next .endInList [])
  | b :: rest =>
    if b = 0x5D then .ok rest
    else if b = 0x2C then
      match skipBlanks rest with
      | [] => .error (.next .trailingCharacters [])
      | b :: rest =>
        .error (.next (if b = 0x5D then .trailingComma else .trailingCharacters) (b :: rest))
    else .error (.next .trailingCharacters (b :: rest))

def readPositions (record : String) (size : Nat) :
    Nat → List FieldReader → List UInt8 → Except Fault (List (String × Value) × List UInt8)
  | _, [], input => (closeList input).map fun rest => ([], rest)
  | index, field :: fields, input => do
    let (more, input) ← nextItem (index == 0) input
    let (v, rest) ←
      if more then field.read input
      else
        match field.presence with
        | .default v => pure (v, input)
        | .required => throw (.here (.invalidLength index record size) (input.drop 1))
    let (vs, rest) ← readPositions record size (index + 1) fields rest
    pure ((field.name, v) :: vs, rest)

def readRecord (record : String) (fields : List FieldReader) (input : List UInt8) :
    Except Fault (Value × List UInt8) :=
  match skipBlanks input with
  | [] => .error (.next .endInValue [])
  | b :: rest =>
    if b = 0x5B then
      (readPositions record fields.length 0 fields rest).map fun r => (.object r.1, r.2)
    else if b = 0x7B then do
      let (found, rest) ← readMembers fields input.length true [] rest
      let members ← complete found (rest.drop 1) fields
      pure (.object members, rest.drop 1)
    else .error (mismatch ("struct " ++ record) (b :: rest))

def readOptional (read : List UInt8 → Reading Value) (input : List UInt8) : Reading Value :=
  match skipBlanks input with
  | [] => read []
  | b :: rest =>
    if b = 0x6E then (readLiteral ['u', 'l', 'l'] rest).map fun rest => (.null, rest)
    else read (b :: rest)

mutual

def Shape.read : Shape → List UInt8 → Reading Value
  | .text => readText
  | .flag => readFlag
  | .integer range => readInteger range
  | .choice names => readChoice names
  | .optional inner => readOptional inner.read
  | .many inner => readList inner.read
  | .dictionary inner => readDictionary inner.read
  | .record name fields => readRecord name fields.readers

def Fields.readers : Fields → List FieldReader
  | .nil => []
  | .cons name shape presence rest => ⟨name, presence, shape.read⟩ :: rest.readers

end

def Shape.readDocument (s : Shape) (document : List UInt8) : Except Fault Value := do
  let (v, rest) ← s.read document
  match skipBlanks rest with
  | [] => pure v
  | b :: rest => throw (.next .trailingCharacters (b :: rest))

end SwarmDeploy.Json
