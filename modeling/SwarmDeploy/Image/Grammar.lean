import SwarmDeploy.Text.DecimalDigit
import SwarmDeploy.Text.Split

/-! The grammar of image references.
A reference is a name, an optional tag behind a colon and an optional digest behind an at sign; a
name is made of path components, the first of which may be a domain instead. Each part has a
test, and `takeApart` finds the parts of a text. -/

namespace SwarmDeploy.Image
open SwarmDeploy.Text

def isLowerLetter (c : Char) : Bool :=
  'a' ≤ c && c ≤ 'z'

def isLetter (c : Char) : Bool :=
  isLowerLetter c || ('A' ≤ c && c ≤ 'Z')

def isLetterOrDigit (c : Char) : Bool :=
  isLetter c || isAsciiDigit c

def isLowerOrDigit (c : Char) : Bool :=
  isLowerLetter c || isAsciiDigit c

def isHexDigit (c : Char) : Bool :=
  isAsciiDigit c || ('a' ≤ c && c ≤ 'f') || ('A' ≤ c && c ≤ 'F')

inductive ComponentState where
  | start
  | word
  | dot
  | underscore
  | underscores
  | hyphens
  deriving DecidableEq, Repr

/-- The state after one more character; separators are a dot, one or two underscores, or a run of
hyphens, and stand between words. -/
def ComponentState.next (s : ComponentState) (c : Char) : Option ComponentState :=
  if isLowerOrDigit c then some .word
  else
    match s with
    | .word =>
      if c = '.' then some .dot
      else if c = '_' then some .underscore
      else if c = '-' then some .hyphens
      else none
    | .underscore => if c = '_' then some .underscores else none
    | .hyphens => if c = '-' then some .hyphens else none
    | _ => none

def ComponentState.accepts : ComponentState → List Char → Bool
  | s, [] => s == .word
  | s, c :: cs =>
    match s.next c with
    | some next => next.accepts cs
    | none => false

def isPathComponent (cs : List Char) : Bool :=
  ComponentState.start.accepts cs

def isDomainComponent (cs : List Char) : Bool :=
  cs.all (fun c => isLetterOrDigit c || c == '-') &&
    (cs.head?.any isLetterOrDigit && cs.getLast?.any isLetterOrDigit)

def isHost (cs : List Char) : Bool :=
  (pieces '.' cs).all isDomainComponent

def isPort (cs : List Char) : Bool :=
  !cs.isEmpty && cs.all isAsciiDigit

def isDomain (cs : List Char) : Bool :=
  match cutFirst ':' cs with
  | none => isHost cs
  | some (host, port) => isHost host && isPort port

/-- Path components, the first of which may be a domain if another follows. -/
def isName (cs : List Char) : Bool :=
  match pieces '/' cs with
  | [] => false
  | first :: rest =>
    rest.all isPathComponent && (isPathComponent first || (!rest.isEmpty && isDomain first))

def isTagStart (c : Char) : Bool :=
  isLetterOrDigit c || c == '_'

def isTagCharacter (c : Char) : Bool :=
  isTagStart c || c == '.' || c == '-'

def isTag (cs : List Char) : Bool :=
  cs.head?.any isTagStart && cs.all isTagCharacter && cs.length ≤ 128

/-- Words of letters and digits that start with a letter, with single separators between them;
`begun` says that a word has begun. -/
def isAlgorithm (begun : Bool) : List Char → Bool
  | [] => begun
  | c :: cs =>
    if isLetter c then isAlgorithm true cs
    else if begun then
      if isAsciiDigit c then isAlgorithm true cs
      else if c = '-' ∨ c = '_' ∨ c = '+' ∨ c = '.' then isAlgorithm false cs
      else false
    else false

def isDigest (cs : List Char) : Bool :=
  match cutFirst ':' cs with
  | none => false
  | some (algorithm, hex) =>
    isAlgorithm false algorithm && hex.all isHexDigit && 32 ≤ hex.length

structure Parts where
  name : List Char
  tag : Option (List Char)
  digest : Option (List Char)
  deriving DecidableEq, Repr

def Parts.text (p : Parts) : List Char :=
  p.name ++ (p.tag.elim [] fun t => ':' :: t) ++ (p.digest.elim [] fun d => '@' :: d)

def Parts.valid (p : Parts) : Bool :=
  isName p.name && p.tag.all isTag && p.digest.all isDigest

/-- Name and tag: the tag starts at the first colon behind the last slash. -/
def splitTag (cs : List Char) : List Char × Option (List Char) :=
  match cutLast '/' cs with
  | none =>
    match cutFirst ':' cs with
    | none => (cs, none)
    | some (name, tag) => (name, some tag)
  | some (directory, last) =>
    match cutFirst ':' last with
    | none => (cs, none)
    | some (base, tag) => (directory ++ '/' :: base, some tag)

def Parts.split (cs : List Char) : Parts :=
  match cutFirst '@' cs with
  | none => ⟨(splitTag cs).1, (splitTag cs).2, none⟩
  | some (front, digest) => ⟨(splitTag front).1, (splitTag front).2, some digest⟩

def takeApart (cs : List Char) : Option Parts :=
  let parts := Parts.split cs
  if parts.valid then some parts else none

/-- The form of a container's identifier, which is no image name. -/
def isHexId (cs : List Char) : Bool :=
  cs.length == 64 && cs.all fun c => isAsciiDigit c || ('a' ≤ c && c ≤ 'f')

end SwarmDeploy.Image
