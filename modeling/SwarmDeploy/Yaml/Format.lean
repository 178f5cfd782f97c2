import SwarmDeploy.Settings.Format
import SwarmDeploy.Yaml.Document

/-! YAML as a format of settings. What is left empty is an empty text, an empty list and an empty
mapping. Tags are no hindrance to any of it. -/

namespace SwarmDeploy.Yaml

def digitIn (base : Nat) (c : Char) : Option Nat :=
  (hexValue c).filter (· < base)

def digitsIn (base : Nat) (cs : List Char) : Option Nat :=
  if cs.isEmpty then none
  else cs.foldlM (fun n c => (digitIn base c).map (n * base + ·)) 0

def hasLeadingZero (cs : List Char) : Bool :=
  cs.head? == some '0' && 1 < cs.length

def numberOf (cs : List Char) : Option Nat :=
  let cs := if cs.head? == some '+' then cs.drop 1 else cs
  match cs with
  | '0' :: 'x' :: digits => digitsIn 16 digits
  | '0' :: 'o' :: digits => digitsIn 8 digits
  | '0' :: 'b' :: digits => digitsIn 2 digits
  | digits => if hasLeadingZero digits then none else digitsIn 10 digits

namespace Element

def text? (p : Element) : Option String :=
  match p.content with
  | some (.scalar text _) => some text
  | _ => none

def natural? (p : Element) : Option Nat :=
  match p.content with
  | some (.scalar _ .quoted) => none
  | some (.scalar text _) => numberOf text.toList
  | _ => none

def items? (p : Element) : Option (List Element) :=
  match p.content with
  | some (.list items) => some (items.map (⟨p.root, ·⟩))
  | some (.scalar "" .plain) => some []
  | _ => none

def entries? (p : Element) : Option (List (Element × Element)) :=
  match p.content with
  | some (.mapping entries) => some (entries.map fun e => (⟨p.root, e.1⟩, ⟨p.root, e.2⟩))
  | some (.scalar "" .plain) => some []
  | _ => none

end Element

abbrev format : Format where
  Part := Element
  document? := documentOf
  entries? := Element.entries?
  items? := Element.items?
  text? := Element.text?
  natural? := Element.natural?

end SwarmDeploy.Yaml
