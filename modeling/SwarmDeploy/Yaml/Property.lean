import SwarmDeploy.Yaml.Scalar

/-! What is written in front of a node: the name of its anchor, and its tag. Directives in front of
a document say what the handles of its tags stand for. Tags are octets; each one is kept as the
character with its number. -/

namespace SwarmDeploy.Yaml

def isNamePart (c : Char) : Bool :=
  c.isAlphanum || c == '_' || c == '-'

def endsName (rest : List Char) : Bool :=
  atBlank rest || rest.head?.any "?:,]\x7d%@`".toList.contains

def scanName (cs : List Char) : Option (String × List Char) :=
  let name := cs.takeWhile isNamePart
  let rest := cs.dropWhile isNamePart
  if !name.isEmpty && endsName rest then some (String.ofList name, rest) else none

/-- Reads a mark and a word behind it, and tells whether a second mark closes it. -/
def scanHandle : List Char → Option (List Char × Bool × List Char)
  | '!' :: cs =>
    let word := cs.takeWhile isNamePart
    match cs.dropWhile isNamePart with
    | '!' :: rest => some (word, true, rest)
    | rest => some (word, false, rest)
  | _ => none

def handleText (word : List Char) (closed : Bool) : String :=
  String.ofList ('!' :: word ++ if closed then ['!'] else [])

def octetOf (a b : Char) : Option Nat := do
  some (16 * (← hexValue a) + (← hexValue b))

def octetsBehind (octet : Nat) : Option Nat :=
  if octet < 0x80 then some 0
  else if octet / 0x20 = 0x06 then some 1
  else if octet / 0x10 = 0x0E then some 2
  else if octet / 0x08 = 0x1E then some 3
  else none

/-- Signs that stand for themselves in a tag; the last three do so within angle brackets only. -/
def isUriPart (bracketed : Bool) (c : Char) : Bool :=
  isNamePart c || ";/?:@&=+$.!~*'()".toList.contains c ||
    (bracketed && ",[]".toList.contains c)

/-- Reads a tag up to the first sign that is none of its own. `missing` octets of a character have
to follow. -/
def scanUri (bracketed : Bool) : Nat → List Char → Option (List Char × List Char)
  | missing, '%' :: a :: b :: rest => do
    let octet ← octetOf a b
    let missing ←
      match missing with
      | 0 => octetsBehind octet
      | n + 1 => if octet / 0x40 = 2 then some n else none
    (scanUri bracketed missing rest).map fun r => (Char.ofNat octet :: r.1, r.2)
  | 0, c :: rest =>
    if c = '%' then none
    else if isUriPart bracketed c then (scanUri bracketed 0 rest).map fun r => (c :: r.1, r.2)
    else some ([], c :: rest)
  | 0, [] => some ([], [])
  | _ + 1, _ => none

/-- A tag counts up to its first octet that is zero. -/
def uriText (uri : List Char) : String :=
  String.ofList (uri.takeWhile (·.toNat ≠ 0))

/-- Reads a tag: its handle, which is empty if the tag is given in full, and what follows it. -/
def scanTag : List Char → Option (String × String × List Char)
  | '!' :: '<' :: cs => do
    let (uri, rest) ← scanUri true 0 cs
    match rest with
    | '>' :: rest => if uri.isEmpty then none else some ("", uriText uri, rest)
    | _ => none
  | cs => do
    let (word, closed, rest) ← scanHandle cs
    let (uri, rest) ← scanUri false 0 rest
    if closed then
      if uri.isEmpty then none else some (handleText word true, uriText uri, rest)
    else
      let suffix := uriText (word ++ uri)
      some (if suffix.isEmpty then ("", "!", rest) else ("!", suffix, rest))

inductive Directive where
  | version (major minor : Nat)
  | tag (handle start : String)
  deriving DecidableEq, Repr

def scanNumber (cs : List Char) : Option (Nat × List Char) :=
  let digits := cs.takeWhile Char.isDigit
  if digits.isEmpty || 9 < digits.length then none
  else some (Nat.ofDigitChars 10 digits 0, cs.dropWhile Char.isDigit)

def scanVersion (cs : List Char) : Option (Directive × List Char) := do
  let (major, rest) ← scanNumber cs
  match rest with
  | '.' :: rest => (scanNumber rest).map fun r => (.version major r.1, r.2)
  | _ => none

def scanTagDirective (cs : List Char) : Option (Directive × List Char) := do
  let (word, closed, rest) ← scanHandle cs
  if (closed || word.isEmpty) && rest.head?.any isSpace then
    let (uri, rest) ← scanUri true 0 (rest.dropWhile isSpace)
    if !uri.isEmpty && atBlank rest then
      some (.tag (handleText word closed) (uriText uri), rest)
    else none
  else none

def scanDirective (cs : List Char) : Option (Directive × List Char) := do
  let name := String.ofList (cs.takeWhile isNamePart)
  let rest := cs.dropWhile isNamePart
  let (directive, rest) ←
    if !atBlank rest then none
    else if name = "YAML" then scanVersion (rest.dropWhile isSpace)
    else if name = "TAG" then scanTagDirective (rest.dropWhile isSpace)
    else none
  (skipLineEnd rest).map (directive, ·)

end SwarmDeploy.Yaml
