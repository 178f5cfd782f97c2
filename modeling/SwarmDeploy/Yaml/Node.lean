import SwarmDeploy.Yaml.Token

/-! The tree of a YAML document: scalars, lists and mappings. A node may be anchored under a name,
and an alias stands for the node that is anchored under its name. -/

namespace SwarmDeploy.Yaml

/-- A node whose anchors and aliases are given by references of some kind. -/
inductive Node (Ref : Type) where
  | scalar (text : String) (style : Style)
  | list (items : List (Node Ref))
  | mapping (entries : List (Node Ref × Node Ref))
  | anchored (ref : Ref) (node : Node Ref)
  | alias (ref : Ref)
  deriving Repr

/-- What the handles of tags stand for; of several ones for a handle the first one counts. -/
abbrev Handles := List (String × String)

namespace Handles

def predefined : Handles :=
  [("!", "!"), ("!!", "tag:yaml.org,2002:")]

def expand (handles : Handles) (handle suffix : String) : Option String :=
  if handle = "" then some suffix else (handles.lookup handle).map (· ++ suffix)

/-- Reads directives behind others, of which the version may have been one. The version and each
handle are given once at most. -/
def read : Bool → Handles → List Token → Option (Handles × List Token)
  | versioned, handles, .directive (.version major minor) :: rest =>
    if !versioned && major == 1 && (minor == 1 || minor == 2) then read true handles rest
    else none
  | versioned, handles, .directive (.tag handle start) :: rest =>
    if handles.any (·.1 == handle) then none
    else read versioned (handles ++ [(handle, start)]) rest
  | _, handles, rest => some (handles, rest)

end Handles

structure Properties where
  anchor : Option String := none
  tag : Option String := none

def readTag (handles : Handles) : List Token → Option (Option String × List Token)
  | .tag handle suffix :: rest => (handles.expand handle suffix).map fun tag => (some tag, rest)
  | rest => some (none, rest)

namespace Properties

def read (handles : Handles) : List Token → Option (Properties × List Token)
  | .anchor name :: rest => (readTag handles rest).map fun r => (⟨some name, r.1⟩, r.2)
  | ts =>
    (readTag handles ts).map fun r =>
      match r with
      | (tag, .anchor name :: rest) => (⟨some name, tag⟩, rest)
      | (tag, rest) => (⟨none, tag⟩, rest)

def mark (p : Properties) (node : Node String) : Node String :=
  p.anchor.elim node (.anchored · node)

end Properties

def integerTag : String := "tag:yaml.org,2002:int"

/-- A literal block is told from other texts under the tag of integers only. -/
def Style.under (tag : Option String) : Style → Style
  | .literal => if tag = some integerTag then .literal else .quoted
  | style => style

namespace Node

def empty {Ref : Type} : Node Ref := .scalar "" .plain

/-- The tokens in front of which a place of a collection is left empty. -/
def endsEntry (t : Token) : Bool :=
  t == .hyphen || t == .blockEnd

def endsLooseEntry (t : Token) : Bool :=
  endsEntry t || t == .key || t == .value

def endsPart (t : Token) : Bool :=
  t == .key || t == .value || t == .blockEnd

def endsFlowItem (t : Token) : Bool :=
  t == .comma || t == .closeSequence

def endsFlowPart (t : Token) : Bool :=
  t == .comma || t == .closeMapping

section
variable (handles : Handles)

/-- What properties stand in front of if no content follows them. -/
def alone (p : Properties) (ts : List Token) : Option (Node String × List Token) :=
  if p.anchor.isSome || p.tag.isSome then some (empty, ts) else none

mutual

/-- Reads a node. Collections without brackets stand in block places only; a list whose hyphens
are at the indentation of the mapping around it stands in loose places only. -/
def read (block loose : Bool) : Nat → List Token → Option (Node String × List Token)
  | 0, _ => none
  | _ + 1, .alias name :: rest => some (.alias name, rest)
  | fuel + 1, ts =>
    (Properties.read handles ts).bind fun (p, ts) =>
      let content : Option (Node String × List Token) :=
        match ts with
        | .scalar text style :: rest => some (.scalar text (style.under p.tag), rest)
        | .openSequence :: rest => (readItems fuel true rest).map fun r => (.list r.1, r.2)
        | .openMapping :: rest => (readPairs fuel true rest).map fun r => (.mapping r.1, r.2)
        | .blockSequence :: rest =>
          if block then (readEntries fuel rest).map fun r => (.list r.1, r.2) else alone p ts
        | .blockMapping :: rest =>
          if block then (readMembers fuel rest).map fun r => (.mapping r.1, r.2) else alone p ts
        | .hyphen :: _ =>
          if loose then (readLooseEntries fuel ts).map fun r => (.list r.1, r.2) else alone p ts
        | _ => alone p ts
      content.map fun r => (p.mark r.1, r.2)

def readUnless (ends : Token → Bool) (block loose : Bool) :
    Nat → List Token → Option (Node String × List Token)
  | 0, _ => none
  | fuel + 1, ts => if ts.head?.any ends then some (empty, ts) else read block loose fuel ts

def readEntries : Nat → List Token → Option (List (Node String) × List Token)
  | fuel + 1, .hyphen :: rest => do
    let (item, rest) ← readUnless endsEntry true false fuel rest
    let (items, rest) ← readEntries fuel rest
    some (item :: items, rest)
  | _ + 1, .blockEnd :: rest => some ([], rest)
  | _, _ => none

/-- Reads the entries of a list that ends with its last hyphen. -/
def readLooseEntries : Nat → List Token → Option (List (Node String) × List Token)
  | fuel + 1, .hyphen :: rest => do
    let (item, rest) ← readUnless endsLooseEntry true false fuel rest
    let (items, rest) ← readLooseEntries fuel rest
    some (item :: items, rest)
  | 0, _ => none
  | _ + 1, rest => some ([], rest)

def readMembers : Nat → List Token → Option (List (Node String × Node String) × List Token)
  | fuel + 1, .key :: rest => do
    let (key, rest) ← readUnless endsPart true true fuel rest
    let (value, rest) ←
      match rest with
      | .value :: rest => readUnless endsPart true true fuel rest
      | rest => some (empty, rest)
    let (members, rest) ← readMembers fuel rest
    some ((key, value) :: members, rest)
  | _ + 1, .blockEnd :: rest => some ([], rest)
  | _, _ => none

/-- Reads the items of a list in brackets and its end. A comma stands between two items and may
stand behind the last one. -/
def readItems : Nat → Bool → List Token → Option (List (Node String) × List Token)
  | _ + 1, _, .closeSequence :: rest => some ([], rest)
  | fuel + 1, false, .comma :: rest => readItems fuel true rest
  | fuel + 1, true, rest => do
    let (item, rest) ← readItem fuel rest
    let (items, rest) ← readItems fuel false rest
    some (item :: items, rest)
  | _, _, _ => none

/-- Reads an item of a list in brackets; a key with its value is a mapping of one member. -/
def readItem : Nat → List Token → Option (Node String × List Token)
  | fuel + 1, .key :: rest => do
    let (key, rest) ←
      match rest with
      | [] => none
      | t :: rest =>
        if t == .value || endsFlowItem t then some (empty, rest)
        else read false false fuel (t :: rest)
    let (value, rest) ←
      match rest with
      | .value :: rest => readUnless endsFlowItem false false fuel rest
      | rest => some (empty, rest)
    some (.mapping [(key, value)], rest)
  | fuel + 1, rest => read false false fuel rest
  | 0, _ => none

def readPairs :
    Nat → Bool → List Token → Option (List (Node String × Node String) × List Token)
  | _ + 1, _, .closeMapping :: rest => some ([], rest)
  | fuel + 1, false, .comma :: rest => readPairs fuel true rest
  | fuel + 1, true, .key :: rest => do
    let (key, rest) ← readUnless (fun t => t == .value || endsFlowPart t) false false fuel rest
    let (value, rest) ←
      match rest with
      | .value :: rest => readUnless endsFlowPart false false fuel rest
      | rest => some (empty, rest)
    let (members, rest) ← readPairs fuel false rest
    some ((key, value) :: members, rest)
  | fuel + 1, true, rest => do
    let (key, rest) ← read false false fuel rest
    let (members, rest) ← readPairs fuel false rest
    some ((key, empty) :: members, rest)
  | _, _, _ => none

end

/-- Reads a document behind its directives, if there are any: they make its start a requirement. -/
def readDocument (directed : Bool) (fuel : Nat) :
    List Token → Option (Option (Node String) × List Token)
  | [] => if directed then none else some (none, [])
  | .documentStart :: rest =>
    if rest.isEmpty || rest.head?.any fun t => t == .documentStart || t == .documentEnd then
      some (some empty, rest)
    else (read handles true false fuel rest).map fun r => (some r.1, r.2)
  | ts =>
    if directed then none else (read handles true false fuel ts).map fun r => (some r.1, r.2)

end

def ofTokens (ts : List Token) : Option (Option (Node String)) :=
  (Handles.read false [] ts).bind fun (handles, body) =>
    let directed := body.length < ts.length
    let document :=
      readDocument (handles ++ Handles.predefined) directed (3 * ts.length + 3) body
    document.bind fun (node, rest) =>
      if (rest.dropWhile (· == .documentEnd)).isEmpty then some node else none

def ofText (text : String) : Option (Option (Node String)) :=
  (tokens text).bind ofTokens

end Node

end SwarmDeploy.Yaml
