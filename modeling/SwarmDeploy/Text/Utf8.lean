/-! UTF-8: characters as bytes and back.
Reading names the first sequence of bytes that is no character; the lossy reading puts the
replacement character in the place of each one. -/

namespace SwarmDeploy.Text.Utf8

def encode (cs : List Char) : List UInt8 :=
  cs.flatMap String.utf8EncodeChar

def ofString (text : String) : List UInt8 :=
  encode text.toList

/-- The start of a sequence of bytes: a character, bytes that begin no character, or the
beginning of a character that is cut off. -/
inductive Next where
  | character (c : Char) (rest : List UInt8)
  | invalid (length : Nat) (rest : List UInt8)
  | incomplete
  deriving Repr

/-- How many bytes follow the first byte of a character, and the range of the second one. -/
def following (first : UInt8) : Option (Nat × UInt8 × UInt8) :=
  if first < 0xC2 then none
  else if first < 0xE0 then some (1, 0x80, 0xBF)
  else if first = 0xE0 then some (2, 0xA0, 0xBF)
  else if first = 0xED then some (2, 0x80, 0x9F)
  else if first < 0xF0 then some (2, 0x80, 0xBF)
  else if first = 0xF0 then some (3, 0x90, 0xBF)
  else if first < 0xF4 then some (3, 0x80, 0xBF)
  else if first = 0xF4 then some (3, 0x80, 0x8F)
  else none

def isTail (b : UInt8) : Bool :=
  0x80 ≤ b && b ≤ 0xBF

/-- Reads the bytes after the second one; `length` counts the bytes that fit so far. -/
def tails (value length : Nat) : Nat → List UInt8 → Next
  | 0, bytes => .character (Char.ofNat value) bytes
  | _ + 1, [] => .incomplete
  | n + 1, b :: bytes =>
    if isTail b then tails (value * 64 + (b.toNat - 0x80)) (length + 1) n bytes
    else .invalid length (b :: bytes)

def next (first : UInt8) (bytes : List UInt8) : Next :=
  if first < 0x80 then .character (Char.ofNat first.toNat) bytes
  else
    match following first with
    | none => .invalid 1 bytes
    | some (n, low, high) =>
      match bytes with
      | [] => .incomplete
      | b :: rest =>
        if low ≤ b ∧ b ≤ high then
          let lead := first.toNat - (if n = 1 then 0xC0 else if n = 2 then 0xE0 else 0xF0)
          tails (lead * 64 + (b.toNat - 0x80)) 2 (n - 1) rest
        else .invalid 1 (b :: rest)

/-- Where bytes stop being UTF-8, and the length of the bad sequence unless it is cut off. -/
structure Fault where
  validUpTo : Nat
  length : Option Nat
  deriving DecidableEq, Repr

def Fault.message (f : Fault) : String :=
  match f.length with
  | some n =>
    "invalid utf-8 sequence of " ++ toString n ++ " bytes from index " ++ toString f.validUpTo
  | none => "incomplete utf-8 byte sequence from index " ++ toString f.validUpTo

/-- Reads the bytes from `index` on; no more than `fuel` characters. -/
def decodeFrom : Nat → Nat → List UInt8 → Except Fault (List Char)
  | _, _, [] => .ok []
  | 0, index, _ => .error ⟨index, none⟩
  | fuel + 1, index, b :: bytes =>
    match next b bytes with
    | .character c rest => (decodeFrom fuel (index + c.utf8Size) rest).map (c :: ·)
    | .invalid length _ => .error ⟨index, some length⟩
    | .incomplete => .error ⟨index, none⟩

def decode (bytes : List UInt8) : Except Fault (List Char) :=
  decodeFrom bytes.length 0 bytes

def replacement : Char := Char.ofNat 0xFFFD

def decodeLossyFrom : Nat → List UInt8 → List Char
  | 0, _ => []
  | _, [] => []
  | fuel + 1, b :: bytes =>
    match next b bytes with
    | .character c rest => c :: decodeLossyFrom fuel rest
    | .invalid _ rest => replacement :: decodeLossyFrom fuel rest
    | .incomplete => [replacement]

def decodeLossy (bytes : List UInt8) : List Char :=
  decodeLossyFrom bytes.length bytes

end SwarmDeploy.Text.Utf8
