import SwarmDeploy.Json.Value

/-! Taking JSON values apart and putting objects together.
A value of an unexpected kind reads as empty; documents read under a shape have none. -/

namespace SwarmDeploy.Json

namespace Value

def textOf : Value → String
  | .text s => s
  | _ => ""

def intOf : Value → Int
  | .int n => n
  | _ => 0

def flagOf : Value → Bool
  | .bool b => b
  | _ => false

def itemsOf : Value → List Value
  | .list items => items
  | _ => []

def membersOf : Value → List (String × Value)
  | .object members => members
  | _ => []

def field (v : Value) (name : String) : Value :=
  (v.get? name).getD .null

def optional {α : Type} (f : Value → α) : Value → Option α
  | .null => none
  | v => some (f v)

def textsOf (v : Value) : List String :=
  v.itemsOf.map textOf

def pairsOf (v : Value) : List (String × String) :=
  v.membersOf.map fun m => (m.1, m.2.textOf)

def texts (items : List String) : Value :=
  .list (items.map .text)

def pairs (members : List (String × String)) : Value :=
  .object (members.map fun m => (m.1, .text m.2))

end Value

def optionalMember (name : String) (v : Option Value) : List (String × Value) :=
  v.toList.map fun v => (name, v)

def listMember (name : String) (items : List Value) : List (String × Value) :=
  if items.isEmpty then [] else [(name, .list items)]

def textMember (name : String) (s : String) : List (String × Value) :=
  if s = "" then [] else [(name, .text s)]

def pairsMember (name : String) (members : List (String × String)) : List (String × Value) :=
  if members.isEmpty then [] else [(name, .pairs members)]

end SwarmDeploy.Json
