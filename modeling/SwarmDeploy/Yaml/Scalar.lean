import SwarmDeploy.Yaml.Character

/-! Scalars of YAML: plain, in quotes of both kinds, and in blocks.
A scalar may go over several lines. A single line break between words is read as a space, and of
several ones the first is dropped. Every reader gives the text and the rest of the document. -/

namespace SwarmDeploy.Yaml

inductive Style where
  | plain
  | literal
  /-- In quotes, or in a block whose lines are folded. -/
  | quoted
  deriving DecidableEq, Repr

structure Gap where
  spaces : List Char := []
  first : Option Char := none
  more : List Char := []
  broken : Bool := false
  deriving Repr

def Gap.addSpace (g : Gap) (c : Char) : Gap :=
  if g.broken then g else { g with spaces := g.spaces ++ [c] }

def Gap.addBreak (g : Gap) (c : Char) : Gap :=
  if g.broken then { g with more := g.more ++ [readBreak c] }
  else { g with first := some (readBreak c), broken := true }

def Gap.text (g : Gap) : List Char :=
  if g.broken then
    match g.first with
    | none => g.more
    | some c => if c = '\n' then (if g.more.isEmpty then [' '] else g.more) else c :: g.more
  else g.spaces

/-- A scalar that has been read: its text, the rest of the document, and whether line breaks
follow the last word. -/
structure Scanned where
  text : List Char
  rest : List Char
  broken : Bool := false
  deriving Repr

def Scanned.prepend (text : List Char) (s : Scanned) : Scanned :=
  { s with text := text ++ s.text }

def endsBehindGap (flow : Bool) (indent column : Nat) (c : Char) (rest : List Char) : Bool :=
  (!flow && column < indent) || c == '#' || (column == 0 && atDocumentMark (c :: rest))

def endsPlain (flow : Bool) (c : Char) (rest : List Char) : Bool :=
  (c == ':' && atBlank rest) || (flow && isFlowIndicator c)

/-- A colon in front of an indicator, which a flow collection does not allow. -/
def isStrayColon (flow : Bool) (c : Char) (rest : List Char) : Bool :=
  flow && c == ':' && rest.head?.any fun d => isFlowIndicator d || d == '?'

/-- Reads a plain scalar; its lines must be indented by `indent` at least. -/
def scanPlain (flow : Bool) (indent : Nat) : Nat → Option Gap → List Char → Option Scanned
  | _, gap, [] => some ⟨[], [], gap.any Gap.broken⟩
  | column, gap, c :: rest =>
    let g := gap.getD {}
    if isSpace c then
      if g.broken && column < indent && c == '\t' then none
      else scanPlain flow indent (column + 1) (some (g.addSpace c)) rest
    else if isBreak c then
      if startsLongBreak c rest then scanPlain flow indent column gap rest
      else scanPlain flow indent 0 (some (g.addBreak c)) rest
    else if (gap.isSome && endsBehindGap flow indent column c rest) || endsPlain flow c rest then
      some ⟨[], c :: rest, g.broken⟩
    else if isStrayColon flow c rest then none
    else (scanPlain flow indent (column + 1) none rest).map (.prepend (g.text ++ [c]))

def shortEscape (c : Char) : Option Char :=
  if c = '0' then some (Char.ofNat 0)
  else if c = 'a' then some (Char.ofNat 0x07)
  else if c = 'b' then some (Char.ofNat 0x08)
  else if c = 't' ∨ c = '\t' then some '\t'
  else if c = 'n' then some '\n'
  else if c = 'v' then some (Char.ofNat 0x0B)
  else if c = 'f' then some (Char.ofNat 0x0C)
  else if c = 'r' then some '\r'
  else if c = 'e' then some (Char.ofNat 0x1B)
  else if c = ' ' ∨ c = '"' ∨ c = '/' ∨ c = '\\' then some c
  else if c = 'N' then some (Char.ofNat 0x85)
  else if c = '_' then some (Char.ofNat 0xA0)
  else if c = 'L' then some (Char.ofNat 0x2028)
  else if c = 'P' then some (Char.ofNat 0x2029)
  else none

def hexValue (c : Char) : Option Nat :=
  let n := c.toNat
  if 48 ≤ n ∧ n ≤ 57 then some (n - 48)
  else if 97 ≤ n ∧ n ≤ 102 then some (n - 87)
  else if 65 ≤ n ∧ n ≤ 70 then some (n - 55)
  else none

def hexChar (digits : List Char) : Option Char := do
  let n ← digits.foldlM (fun n d => (hexValue d).map (n * 16 + ·)) 0
  if n.isValidChar then some (Char.ofNat n) else none

def escapedBreak : Gap := { broken := true }

def singleQuote : Char := Char.ofNat 39

def scanSingle : Nat → Option Gap → List Char → Option Scanned
  | _, _, [] => none
  | column, gap, c :: rest =>
    let g := gap.getD {}
    if isSpace c then scanSingle (column + 1) (some (g.addSpace c)) rest
    else if isBreak c then
      if startsLongBreak c rest then scanSingle column gap rest
      else scanSingle 0 (some (g.addBreak c)) rest
    else if gap.isSome && column == 0 && atDocumentMark (c :: rest) then none
    else if c = singleQuote then
      match rest with
      | d :: rest =>
        if d = singleQuote then
          (scanSingle (column + 2) none rest).map (.prepend (g.text ++ [c]))
        else some ⟨g.text, d :: rest, false⟩
      | [] => some ⟨g.text, [], false⟩
    else (scanSingle (column + 1) none rest).map (.prepend (g.text ++ [c]))

def scanDouble : Nat → Option Gap → List Char → Option Scanned
  | _, _, [] => none
  | column, gap, c :: rest =>
    let g := gap.getD {}
    if isSpace c then scanDouble (column + 1) (some (g.addSpace c)) rest
    else if isBreak c then
      if startsLongBreak c rest then scanDouble column gap rest
      else scanDouble 0 (some (g.addBreak c)) rest
    else if gap.isSome && column == 0 && atDocumentMark (c :: rest) then none
    else if c = '"' then some ⟨g.text, rest, false⟩
    else if c = '\\' then
      match rest with
      | [] => none
      | e :: rest =>
        if isBreak e then
          match rest with
          | d :: tail =>
            if startsLongBreak e (d :: tail) then
              (scanDouble 0 (some escapedBreak) tail).map (.prepend g.text)
            else (scanDouble 0 (some escapedBreak) (d :: tail)).map (.prepend g.text)
          | [] => none
        else if e = 'x' then
          match rest with
          | a :: b :: rest =>
            (hexChar [a, b]).bind fun d =>
              (scanDouble (column + 4) none rest).map (.prepend (g.text ++ [d]))
          | _ => none
        else if e = 'u' then
          match rest with
          | a :: b :: c :: d :: rest =>
            (hexChar [a, b, c, d]).bind fun d =>
              (scanDouble (column + 6) none rest).map (.prepend (g.text ++ [d]))
          | _ => none
        else if e = 'U' then
          match rest with
          | a :: b :: c :: d :: e :: f :: g' :: h :: rest =>
            (hexChar [a, b, c, d, e, f, g', h]).bind fun d =>
              (scanDouble (column + 10) none rest).map (.prepend (g.text ++ [d]))
          | _ => none
        else
          (shortEscape e).bind fun d =>
            (scanDouble (column + 2) none rest).map (.prepend (g.text ++ [d]))
    else (scanDouble (column + 1) none rest).map (.prepend (g.text ++ [c]))

inductive Chomping where
  | strip
  | clip
  | keep
  deriving DecidableEq, Repr

structure BlockHeader where
  literal : Bool
  chomping : Chomping := .clip
  increment : Option Nat := none
  deriving Repr

def chompingOf (c : Char) : Option Chomping :=
  if c = '+' then some .keep else if c = '-' then some .strip else none

def incrementOf (c : Char) : Option Nat :=
  if 49 ≤ c.toNat ∧ c.toNat ≤ 57 then some (c.toNat - 48) else none

def BlockHeader.read (h : BlockHeader) : List Char → BlockHeader × List Char
  | [] => (h, [])
  | c :: rest =>
    match chompingOf c, incrementOf c with
    | some chomping, _ =>
      let h := { h with chomping }
      match h.increment, rest with
      | none, d :: tail =>
        match incrementOf d with
        | some n => ({ h with increment := some n }, tail)
        | none => (h, rest)
      | _, _ => (h, rest)
    | none, some n =>
      let h := { h with increment := some n }
      match rest with
      | d :: tail =>
        match chompingOf d with
        | some chomping => ({ h with chomping }, tail)
        | none => (h, rest)
      | [] => (h, [])
    | none, none => (h, c :: rest)

def skipLineEnd (cs : List Char) : Option (List Char) :=
  let rest := cs.dropWhile isSpace
  let rest := if rest.head? == some '#' then rest.dropWhile fun c => !isBreak c else rest
  match rest with
  | [] => some []
  | c :: tail =>
    if isBreak c then some (if startsLongBreak c tail then tail.drop 1 else tail) else none

/-- Drops the spaces in front of a line of a block, `limit` of them at most. -/
def dropIndent : Option Nat → Nat → List Char → Nat × List Char
  | limit, column, c :: rest =>
    if c = ' ' ∧ limit.all (column < ·) then dropIndent limit (column + 1) rest
    else (column, c :: rest)
  | _, column, [] => (column, [])

/-- Reads empty lines: their breaks, the column of the first line that is not empty, the largest
column of them all, and the rest. -/
def emptyLines (limit : Option Nat) :
    Nat → Nat → List Char → Option (List Char × Nat × Nat × List Char)
  | 0, _, _ => none
  | fuel + 1, most, cs =>
    let (column, rest) := dropIndent limit 0 cs
    let most := max most column
    match rest with
    | [] => some ([], column, most, [])
    | c :: tail =>
      if c = '\t' ∧ limit.all (column < ·) then none
      else if isBreak c then
        let tail := if startsLongBreak c tail then tail.drop 1 else tail
        (emptyLines limit fuel most tail).map fun r => (readBreak c :: r.1, r.2)
      else some ([], column, most, rest)

/-- Reads the lines of a block. `lead` is the break of the last line, `breaks` are those of the
empty lines after it, and `blankBefore` says that it started with a blank. -/
def blockLines (header : BlockHeader) (indent : Nat) :
    Nat → Option Char → Bool → List Char → Nat → List Char → Option Scanned
  | 0, _, _, _, _, _ => none
  | fuel + 1, lead, blankBefore, breaks, column, cs =>
    if column = indent ∧ cs ≠ [] then
      let blankHere := cs.head?.any isSpace
      let joined :=
        if !header.literal && lead == some '\n' && !blankBefore && !blankHere then
          if breaks.isEmpty then [' '] else []
        else lead.toList
      let content := cs.takeWhile fun c => !isBreak c
      match cs.dropWhile fun c => !isBreak c with
      | [] => some ⟨joined ++ breaks ++ content, [], true⟩
      | c :: tail =>
        let tail := if startsLongBreak c tail then tail.drop 1 else tail
        match emptyLines (some indent) (tail.length + 1) 0 tail with
        | none => none
        | some (more, column, _, rest) =>
          (blockLines header indent fuel (some (readBreak c)) blankHere more column rest).map
            (.prepend (joined ++ breaks ++ content))
    else
      let kept :=
        match header.chomping with
        | .strip => []
        | .clip => lead.toList
        | .keep => lead.toList ++ breaks
      some ⟨kept, cs, true⟩

/-- Reads a block behind its indicator; `outer` is the indentation of the collection around it,
which is -1 where there is none. -/
def scanBlock (literal : Bool) (outer : Int) (cs : List Char) : Option Scanned := do
  let (header, rest) := BlockHeader.read { literal } cs
  let rest ← skipLineEnd rest
  let given := header.increment.map fun n => if 0 ≤ outer then outer.toNat + n else n
  let (breaks, column, most, rest) ← emptyLines given (rest.length + 1) 0 rest
  let indent := given.getD (max most (max (outer + 1).toNat 1))
  blockLines header indent (rest.length + 1) none false breaks column rest

end SwarmDeploy.Yaml
