import SwarmDeploy.Log
import SwarmDeploy.Text.Split

/-! Filters of the log. A filter is a list of directives, each a level for the events of one source
and of its parts, or for all events; the most specific directive counts. -/

namespace SwarmDeploy.Launch
open Text

/-- The events of the sources whose names start with `target`, up to some detail. -/
structure Directive where
  target : List Char
  detail : Nat
  deriving DecidableEq, Repr

abbrev LogFilter := List Directive

def LogFilter.upTo (level : Level) : LogFilter :=
  [⟨[], level.detail⟩]

def levelNames : List (String × Nat) :=
  [("off", 0), ("error", 1), ("warn", 2), ("info", 3), ("debug", 4), ("trace", 5), ("0", 0),
    ("1", 1), ("2", 2), ("3", 3), ("4", 4), ("5", 5)]

def detailOf (cs : List Char) : Option Nat :=
  levelNames.lookup (String.ofList (cs.map Char.toLower))

def isTargetPart (c : Char) : Bool :=
  c.isAlphanum || c == '_' || c == ':' || c == '-'

/-- Reads a directive: a level, a target, or a target and its level. A target alone stands for
all of its events. -/
def Directive.read (cs : List Char) : Option Directive :=
  match detailOf cs with
  | some detail => some ⟨[], detail⟩
  | none =>
    let (target, level) :=
      match cutFirst '=' cs with
      | some (target, level) => (target, level)
      | none => (cs, [])
    if target.isEmpty || !target.all isTargetPart then none
    else if level.isEmpty then some ⟨target, Level.trace.detail⟩
    else (detailOf level).map fun detail => ⟨target, detail⟩

/-- Reads a filter: directives with commas between them. Without any it lets errors through. -/
def LogFilter.read (text : String) : Option LogFilter :=
  match (pieces ',' text.toList).filter (!·.isEmpty) with
  | [] => some (.upTo .error)
  | parts => parts.mapM Directive.read

def Directive.choose (best : Option Directive) (d : Directive) : Option Directive :=
  match best with
  | none => some d
  | some b => if d.target.length < b.target.length then some b else some d

def LogFilter.directive (f : LogFilter) (source : Source) : Option Directive :=
  (f.filter fun d => d.target.isPrefixOf source.name.toList).foldl Directive.choose none

def LogFilter.allows (f : LogFilter) (e : Event) : Bool :=
  (f.directive e.source).any fun d => e.level.detail ≤ d.detail

/-- A control that a terminal could act on is shown as its number. -/
def shown (c : Char) : List Char :=
  let n := c.toNat
  if n = 0x07 then "\\x07".toList
  else if n = 0x08 then "\\x08".toList
  else if n = 0x0C then "\\x0c".toList
  else if n = 0x1B then "\\x1b".toList
  else if n = 0x7F then "\\x7f".toList
  else if 0x80 ≤ n ∧ n < 0xA0 then
    "\\u\x7b".toList ++ Nat.toDigits 16 n ++ ['\x7d']
  else [c]

def logLine (e : Event) : String :=
  e.level.name ++ " " ++ e.source.name ++ ": " ++
    String.ofList (e.text.toList.flatMap shown) ++ "\n"

def LogFilter.lines (f : LogFilter) (events : List Event) : String :=
  String.join ((events.filter f.allows).map logLine)

end SwarmDeploy.Launch
