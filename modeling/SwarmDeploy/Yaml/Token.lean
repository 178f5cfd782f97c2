import SwarmDeploy.Yaml.Property

/-! The tokens of YAML. Collections without brackets start and end where the indentation changes,
and their tokens stand for no characters. A key is known as one only at the colon behind it: its
token is put in front of all that has been read since the place where the key started. -/

namespace SwarmDeploy.Yaml

inductive Token where
  | documentStart
  | documentEnd
  | blockSequence
  | blockMapping
  | blockEnd
  | openSequence
  | closeSequence
  | openMapping
  | closeMapping
  | hyphen
  | comma
  | key
  | value
  | scalar (text : String) (style : Style)
  | anchor (name : String)
  | alias (name : String)
  | tag (handle suffix : String)
  | directive (d : Directive)
  deriving DecidableEq, Repr

/-- A place in a text; a line break of two characters counts as one. -/
structure Position where
  index : Nat := 0
  line : Nat := 0
  column : Nat := 0
  deriving DecidableEq, Repr

def Position.advance (p : Position) : List Char → Position
  | [] => p
  | c :: rest =>
    if isBreak c && !startsLongBreak c rest then advance ⟨p.index + 1, p.line + 1, 0⟩ rest
    else advance ⟨p.index + 1, p.line, p.column + 1⟩ rest

structure KeyStart where
  position : Position
  tokensBefore : Nat
  /-- Whether nothing but a key can stand there. -/
  required : Bool
  deriving DecidableEq, Repr

/-- A key is written on one line, in 1024 characters at most. -/
def KeyStart.isPast (k : KeyStart) (p : Position) : Bool :=
  k.position.line < p.line || k.position.index + 1024 < p.index

structure Cursor where
  rest : List Char
  position : Position := {}
  keyAllowed : Bool := true
  /-- The column of the innermost block collection; -1 outside of all. -/
  indent : Int := -1
  outerIndents : List Int := []
  keyStart : Option KeyStart := none
  /-- What `keyStart` was in front of each open bracket, the innermost first. -/
  outerKeyStarts : List (Option KeyStart) := []
  tokens : List Token := []
  deriving Repr

namespace Cursor

def inFlow (c : Cursor) : Bool :=
  !c.outerKeyStarts.isEmpty

def column (c : Cursor) : Nat :=
  c.position.column

def emit (t : Token) (c : Cursor) : Cursor :=
  { c with tokens := c.tokens ++ [t] }

def moveTo (rest : List Char) (c : Cursor) : Cursor :=
  let read := c.rest.take (c.rest.length - rest.length)
  { c with rest, position := c.position.advance read }

def skip (n : Nat) (c : Cursor) : Cursor :=
  c.moveTo (c.rest.drop n)

/-- The indentations that are left when all collections deeper than `column` end, and how many
of them end. -/
def unindent (column : Int) : Int → List Int → Int × List Int × Nat
  | indent, [] => (indent, [], 0)
  | indent, next :: outer =>
    if indent ≤ column then (indent, next :: outer, 0)
    else
      let (indent, outer, ended) := unindent column next outer
      (indent, outer, ended + 1)

def closeBlocks (column : Int) (c : Cursor) : Cursor :=
  if c.inFlow then c
  else
    let (indent, outerIndents, ended) := unindent column c.indent c.outerIndents
    { c with indent, outerIndents, tokens := c.tokens ++ List.replicate ended .blockEnd }

/-- Starts a block collection at `column` unless it has started already; its token goes in front
of those that follow the first `tokensBefore`. -/
def openBlock (t : Token) (column tokensBefore : Nat) (c : Cursor) : Cursor :=
  if c.inFlow || (column : Int) ≤ c.indent then c
  else
    { c with
      indent := column
      outerIndents := c.indent :: c.outerIndents
      tokens := c.tokens.insertIdx tokensBefore t }

def openBlockHere (t : Token) (c : Cursor) : Cursor :=
  c.openBlock t c.column c.tokens.length

/-- Gives up the place where a key may have started; none if a key is required there. -/
def forgetKey (c : Cursor) : Option Cursor :=
  if c.keyStart.any KeyStart.required then none else some { c with keyStart := none }

def noteKey (c : Cursor) : Option Cursor :=
  if c.keyAllowed then
    c.forgetKey.map fun c =>
      let required := !c.inFlow && c.indent == (c.column : Int)
      { c with keyStart := some ⟨c.position, c.tokens.length, required⟩ }
  else some c

def forgetPastKeys (c : Cursor) : Option Cursor :=
  let past (k : KeyStart) : Bool := k.isPast c.position
  if (c.keyStart :: c.outerKeyStarts).any (·.any fun k => k.required && past k) then none
  else
    some { c with
      keyStart := c.keyStart.filter (!past ·)
      outerKeyStarts := c.outerKeyStarts.map (·.filter (!past ·)) }

/-- Drops blanks, line breaks and comments, and tells whether a key may start behind them. A tab is
no blank where a key may start outside of brackets. -/
def dropBlanks (flow : Bool) : Bool → Bool → List Char → Bool × List Char
  | keyAllowed, _, [] => (keyAllowed, [])
  | keyAllowed, comment, c :: rest =>
    if isBreak c then dropBlanks flow (keyAllowed || !flow) false rest
    else if comment then dropBlanks flow keyAllowed true rest
    else if c == ' ' || (c == '\t' && (flow || !keyAllowed)) then
      dropBlanks flow keyAllowed false rest
    else if c == '#' then dropBlanks flow keyAllowed true rest
    else (keyAllowed, c :: rest)

def skipBlanks (c : Cursor) : Cursor :=
  let (keyAllowed, rest) := dropBlanks c.inFlow c.keyAllowed false c.rest
  { c.moveTo rest with keyAllowed }

def documentMark (t : Token) (c : Cursor) : Option Cursor :=
  (c.closeBlocks (-1)).forgetKey.map fun c => { (c.skip 3).emit t with keyAllowed := false }

def openBracket (t : Token) (c : Cursor) : Option Cursor :=
  c.noteKey.map fun c =>
    { (c.skip 1).emit t with
      outerKeyStarts := c.keyStart :: c.outerKeyStarts
      keyStart := none
      keyAllowed := true }

def closeBracket (t : Token) (c : Cursor) : Option Cursor :=
  c.forgetKey.map fun c =>
    let (keyStart, outerKeyStarts) :=
      match c.outerKeyStarts with
      | [] => (none, [])
      | k :: outer => (k, outer)
    { (c.skip 1).emit t with keyStart, outerKeyStarts, keyAllowed := false }

def comma (c : Cursor) : Option Cursor :=
  c.forgetKey.map fun c => { (c.skip 1).emit .comma with keyAllowed := true }

def hyphen (c : Cursor) : Option Cursor :=
  if !c.inFlow && !c.keyAllowed then none
  else
    (c.openBlockHere .blockSequence).forgetKey.map fun c =>
      { (c.skip 1).emit .hyphen with keyAllowed := true }

def questionMark (c : Cursor) : Option Cursor :=
  if !c.inFlow && !c.keyAllowed then none
  else
    (c.openBlockHere .blockMapping).forgetKey.map fun c =>
      { (c.skip 1).emit .key with keyAllowed := !c.inFlow }

def property (t : Token) (rest : List Char) (c : Cursor) : Cursor :=
  { (c.moveTo rest).emit t with keyAllowed := false }

def directive (c : Cursor) : Option Cursor := do
  let c ← (c.closeBlocks (-1)).forgetKey
  let (d, rest) ← scanDirective (c.rest.drop 1)
  some (c.property (.directive d) rest)

def named (token : String → Token) (c : Cursor) : Option Cursor := do
  let c ← c.noteKey
  let (name, rest) ← scanName (c.rest.drop 1)
  some (c.property (token name) rest)

def tag (c : Cursor) : Option Cursor := do
  let c ← c.noteKey
  let (handle, suffix, rest) ← scanTag c.rest
  if atBlank rest || (c.inFlow && rest.head? == some ',') then
    some (c.property (.tag handle suffix) rest)
  else none

/-- A colon makes a key of what stands in front of it, if a key may have started there. -/
def colon (c : Cursor) : Option Cursor :=
  match c.keyStart with
  | some k =>
    let c := { c with tokens := c.tokens.insertIdx k.tokensBefore .key, keyStart := none }
    let c := c.openBlock .blockMapping k.position.column k.tokensBefore
    some { (c.skip 1).emit .value with keyAllowed := false }
  | none =>
    if !c.inFlow && !c.keyAllowed then none
    else
      let c := c.openBlockHere .blockMapping
      some { (c.skip 1).emit .value with keyAllowed := !c.inFlow }

def scalar (style : Style) (keyAllowed : Bool) (s : Scanned) (c : Cursor) : Cursor :=
  { (c.moveTo s.rest).emit (.scalar (String.ofList s.text) style) with keyAllowed }

def singleQuoted (c : Cursor) : Option Cursor := do
  let c ← c.noteKey
  let s ← scanSingle (c.column + 1) none (c.rest.drop 1)
  some (c.scalar .quoted false s)

def doubleQuoted (c : Cursor) : Option Cursor := do
  let c ← c.noteKey
  let s ← scanDouble (c.column + 1) none (c.rest.drop 1)
  some (c.scalar .quoted false s)

def plain (c : Cursor) : Option Cursor := do
  let c ← c.noteKey
  let s ← scanPlain c.inFlow (c.indent + 1).toNat c.column none c.rest
  some (c.scalar .plain s.broken s)

def block (literal : Bool) (c : Cursor) : Option Cursor := do
  let c ← c.forgetKey
  let s ← scanBlock literal c.indent (c.rest.drop 1)
  some (c.scalar (if literal then .literal else .quoted) true s)

/-- The characters that no plain scalar starts with, three of them with exceptions. -/
def indicators : List Char :=
  "-?:,[]\x7b\x7d#&*!|>'\"%@`".toList

def startsPlain (flow : Bool) (c : Char) : Bool :=
  if indicators.contains c then c == '-' || (!flow && (c == '?' || c == ':'))
  else !isSpace c

def readToken (d : Char) (rest : List Char) (c : Cursor) : Option Cursor :=
  if c.column = 0 ∧ d = '%' then c.directive
  else if c.column = 0 ∧ startsWithMark '-' (d :: rest) then c.documentMark .documentStart
  else if c.column = 0 ∧ startsWithMark '.' (d :: rest) then c.documentMark .documentEnd
  else if d = '[' then c.openBracket .openSequence
  else if d = '\x7b' then c.openBracket .openMapping
  else if d = ']' then c.closeBracket .closeSequence
  else if d = '\x7d' then c.closeBracket .closeMapping
  else if d = ',' then c.comma
  else if d = '-' ∧ atBlank rest then c.hyphen
  else if d = '?' ∧ (c.inFlow ∨ atBlank rest) then c.questionMark
  else if d = ':' ∧ (c.inFlow ∨ atBlank rest) then c.colon
  else if d = '*' then c.named .alias
  else if d = '&' then c.named .anchor
  else if d = '!' then c.tag
  else if d = '|' ∧ !c.inFlow then c.block true
  else if d = '>' ∧ !c.inFlow then c.block false
  else if d = singleQuote then c.singleQuoted
  else if d = '"' then c.doubleQuoted
  else if startsPlain c.inFlow d then c.plain
  else none

/-- All tokens of a text; every one but the last takes a character at least. -/
def readAll : Nat → Cursor → Option (List Token)
  | 0, _ => none
  | fuel + 1, c => do
    let c ← c.skipBlanks.forgetPastKeys
    let c := c.closeBlocks c.column
    match c.rest with
    | [] => (c.closeBlocks (-1)).forgetKey.map Cursor.tokens
    | d :: rest => (← c.readToken d rest).readAll fuel

end Cursor

def tokens (text : String) : Option (List Token) :=
  let cs := text.toList
  let cs := if cs.head? == some byteOrderMark then cs.drop 1 else cs
  if cs.all isAllowed then ({ rest := cs } : Cursor).readAll (cs.length + 1) else none

end SwarmDeploy.Yaml
