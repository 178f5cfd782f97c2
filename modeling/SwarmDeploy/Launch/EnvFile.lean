import SwarmDeploy.Text.Alphanumeric
import SwarmDeploy.Text.Blank
import SwarmDeploy.Text.Split
import SwarmDeploy.Text.Utf8

/-! Files of variables: lines of the form `NAME=value`, with comments, quotes and references to
variables that are known already. Such a file adds variables and changes none. -/

namespace SwarmDeploy.Launch
open Text

/-- Variables with their values; of several ones with the same name the first one counts. -/
abbrev Environment := List (String × String)

def Environment.get? (env : Environment) (name : String) : Option String :=
  env.lookup name

/-- Why a file of variables is refused: the text at fault and the place of the fault in it. -/
structure EnvFault where
  text : List Char
  index : Nat
  deriving DecidableEq, Repr

def EnvFault.message (f : EnvFault) : String :=
  "Error parsing line: '" ++ String.ofList f.text ++ "', error at line index: " ++ toString f.index

inductive LoadFault where
  | malformed (fault : EnvFault)
  /-- A value with a zero character, which no process can have. -/
  | notSettable (name : String)
  deriving DecidableEq, Repr

namespace EnvFile

def size (cs : List Char) : Nat :=
  (Utf8.encode cs).length

def singleQuote : Char := Char.ofNat 39

def lines : List Char → List (List Char)
  | [] => []
  | c :: rest =>
    if c = '\n' then [c] :: lines rest
    else
      match lines rest with
      | [] => [[c]]
      | l :: ls => (c :: l) :: ls

inductive Quoting where
  | outside
  /-- Behind a blank, where a comment may start. -/
  | blank
  | escaped
  | double
  | doubleEscaped
  | single
  | singleEscaped
  deriving DecidableEq, Repr

def Quoting.behind (c : Char) : Quoting :=
  if c = '\\' then .escaped
  else if c = '"' then .double
  else if c = singleQuote then .single
  else .outside

def Quoting.next (q : Quoting) (c : Char) : Quoting :=
  match q with
  | .outside => if isBlank c ∧ c ≠ '\n' ∧ c ≠ '\r' then .blank else .behind c
  | .blank => .behind c
  | .escaped => .outside
  | .double => if c = '\\' then .doubleEscaped else if c = '"' then .outside else .double
  | .doubleEscaped => .double
  | .single => if c = '\\' then .singleEscaped else if c = singleQuote then .outside else .single
  | .singleEscaped => .single

def uncomment : Quoting → List Char → List Char × Option Quoting
  | q, [] => ([], some q)
  | q, c :: rest =>
    if q = .blank ∧ c = '#' then ([], none)
    else
      let (kept, ends) := uncomment (q.next c) rest
      (c :: kept, ends)

def dropBreak (cs : List Char) : List Char :=
  match cs.reverse with
  | '\n' :: '\r' :: rest => rest.reverse
  | '\n' :: rest => rest.reverse
  | _ => cs

/-- Joins lines whose quotes go on, from the lines that have been joined so far. A text that ends
within quotes, or behind a blank, is a fault. -/
def joined : List Char → Quoting → List (List Char) → List (Except EnvFault (List Char))
  | read, q, [] => if q = .outside then [] else [.error ⟨read, size read⟩]
  | read, q, line :: rest =>
    let all := read ++ line
    if (all.dropWhile isBlank).head? == some '#' then joined [] .outside rest
    else
      match uncomment q line with
      | (kept, none) => .ok (read ++ kept) :: joined [] .outside rest
      | (_, some .outside) => .ok (dropBreak all) :: joined [] .outside rest
      | (_, some q) => joined all q rest

inductive Place where
  | bare
  | double
  | single
  | escaped (double : Bool)
  | behind
  | name (double : Bool) (read : List Char)
  | bracedName (double : Bool) (read : List Char)
  deriving Repr

def Place.back (double : Bool) : Place :=
  if double then .double else .bare

def isLetter (c : Char) : Bool :=
  ('a' ≤ c && c ≤ 'z') || ('A' ≤ c && c ≤ 'Z')

def isDigit (c : Char) : Bool :=
  '0' ≤ c && c ≤ '9'

def unescape (c : Char) : Option Char :=
  if c = 'n' then some '\n'
  else if c = '\\' ∨ c = singleQuote ∨ c = '"' ∨ c = '$' ∨ c = ' ' then some c
  else none

def expand (env : Environment) (name : List Char) : List Char :=
  ((env.get? (String.ofList name)).getD "").toList

/-- Reads a value from character `index` on. The error is an index: that of the character at
fault, or `last` for a value that ends too early. -/
def readValue (env : Environment) (last : Nat) :
    Place → Nat → List Char → Except Nat (List Char)
  | place, _, [] =>
    match place with
    | .bare => .ok []
    | .behind => .ok []
    | .escaped false => .ok []
    | .name false read => .ok (expand env read)
    | _ => .error last
  | place, index, c :: rest =>
    let go (place : Place) (text : List Char) : Except Nat (List Char) :=
      (readValue env last place (index + 1) rest).map (text ++ ·)
    match place with
    | .bare =>
      if c = '$' then go (.name false []) []
      else if c = singleQuote then go .single []
      else if c = '"' then go .double []
      else if c = '\\' then go (.escaped false) []
      else if c = ' ' ∨ c = '\t' then go .behind []
      else go .bare [c]
    | .double =>
      if c = '$' then go (.name true []) []
      else if c = '"' then go .bare []
      else if c = '\\' then go (.escaped true) []
      else go .double [c]
    | .single => if c = singleQuote then go .bare [] else go .single [c]
    | .escaped double =>
      match unescape c with
      | some d => go (.back double) [d]
      | none => .error index
    | .behind =>
      if c = ' ' ∨ c = '\t' then go .behind []
      else if c = '#' then .ok []
      else .error index
    | .name double read =>
      if isAlphanumeric c then go (.name double (read ++ [c])) []
      else if c = '\x7b' ∧ read = [] then go (.bracedName double []) []
      else if c = '$' then go (.name double []) (expand env read)
      else go (.back double) (expand env read ++ [c])
    | .bracedName double read =>
      if c = '\x7d' then go (.back double) (expand env read)
      else go (.bracedName double (read ++ [c])) []

def startsName (c : Char) : Bool :=
  isLetter c || c == '_'

def isNamePart (c : Char) : Bool :=
  isLetter c || isDigit c || c == '_' || c == '.'

def readName (fault : List Char → EnvFault) (cs : List Char) :
    Except EnvFault (List Char × List Char) :=
  if cs.head?.any startsName then
    .ok (cs.takeWhile isNamePart, (cs.dropWhile isNamePart).dropWhile isBlank)
  else .error (fault cs)

def readAssigned (env : Environment) (fault : List Char → EnvFault) (name : List Char) :
    List Char → Except EnvFault (String × String)
  | '=' :: rest =>
    let value := rest.dropWhile isBlank
    if value.isEmpty || value.head? == some '#' then .ok (String.ofList name, "")
    else
      match readValue env (size value - 1) .bare 0 value with
      | .ok text => .ok (String.ofList name, String.ofList text)
      | .error index => .error ⟨value, index⟩
  | rest => .error (fault rest)

def readLine (env : Environment) (line : List Char) : Except EnvFault (Option (String × String)) :=
  let text := dropEndWhile isBlank line
  let fault (rest : List Char) : EnvFault := ⟨line, size text - size rest⟩
  let body := text.dropWhile isBlank
  if body.isEmpty || body.head? == some '#' then .ok none
  else do
    let (name, rest) ← readName fault body
    let (name, rest) ←
      if name = "export".toList ∧ rest.head? ≠ some '=' then readName fault rest
      else .ok (name, rest)
    (readAssigned env fault name rest).map some

def isSettable (value : String) : Bool :=
  !value.toList.contains (Char.ofNat 0)

/-- Adds the variables of lines one after another. One that is set already stays as it is, and then
it does not matter what value the file has for it. -/
def addLines : Environment → List (Except EnvFault (List Char)) → Except LoadFault Environment
  | env, [] => .ok env
  | _, .error fault :: _ => .error (.malformed fault)
  | env, .ok line :: rest =>
    match readLine env line with
    | .error fault => .error (.malformed fault)
    | .ok none => addLines env rest
    | .ok (some assigned) =>
      if (env.get? assigned.1).isSome || isSettable assigned.2 then
        addLines (env ++ [assigned]) rest
      else .error (.notSettable assigned.1)

def byteOrderMark : Char := Char.ofNat 0xFEFF

end EnvFile

def Environment.load (env : Environment) (file : List Char) : Except LoadFault Environment :=
  let text := if file.head? == some EnvFile.byteOrderMark then file.drop 1 else file
  EnvFile.addLines env (EnvFile.joined [] .outside (EnvFile.lines text))

end SwarmDeploy.Launch
