import SwarmDeploy.Yaml.Node

/-! Documents with their references.
Anchors are numbered as they are met, and an alias refers to the number that its name has there.
The number of an anchor is the number of names before it. A name that is anchored again is none
the more, so that anchors may share a number, and then the last one of them counts. -/

namespace SwarmDeploy.Yaml

abbrev Anchors := List (String × Nat)

def Anchors.insert (name : String) (anchors : Anchors) : Anchors :=
  (name, anchors.length) :: anchors.filter (·.1 != name)

mutual

/-- Numbers the references of a node; an alias for a name that has no anchor yet is refused. -/
def Node.link : Node String → Anchors → Option (Node Nat × Anchors)
  | .scalar text style, anchors => some (.scalar text style, anchors)
  | .list items, anchors => (linkItems items anchors).map fun r => (.list r.1, r.2)
  | .mapping entries, anchors => (linkEntries entries anchors).map fun r => (.mapping r.1, r.2)
  | .anchored name node, anchors =>
    (node.link (anchors.insert name)).map fun r => (.anchored anchors.length r.1, r.2)
  | .alias name, anchors => (anchors.lookup name).map fun number => (.alias number, anchors)

def linkItems : List (Node String) → Anchors → Option (List (Node Nat) × Anchors)
  | [], anchors => some ([], anchors)
  | item :: items, anchors => do
    let (item, anchors) ← item.link anchors
    (linkItems items anchors).map fun r => (item :: r.1, r.2)

def linkEntries : List (Node String × Node String) → Anchors →
    Option (List (Node Nat × Node Nat) × Anchors)
  | [], anchors => some ([], anchors)
  | (key, value) :: entries, anchors => do
    let (key, anchors) ← key.link anchors
    let (value, anchors) ← value.link anchors
    (linkEntries entries anchors).map fun r => ((key, value) :: r.1, r.2)

end

variable {Ref : Type}

mutual

def Node.targets : Node Ref → List (Ref × Node Ref)
  | .scalar _ _ => []
  | .list items => itemTargets items
  | .mapping entries => entryTargets entries
  | .anchored ref node => (ref, node) :: node.targets
  | .alias _ => []

def itemTargets : List (Node Ref) → List (Ref × Node Ref)
  | [] => []
  | item :: items => item.targets ++ itemTargets items

def entryTargets : List (Node Ref × Node Ref) → List (Ref × Node Ref)
  | [] => []
  | (key, value) :: entries => key.targets ++ value.targets ++ entryTargets entries

end

structure Element where
  root : Node Nat
  node : Node Nat

/-- The node itself, or the one that it refers to. References are followed only where a node is
looked at: a node may well refer to one that it is a part of. -/
def Element.content (p : Element) : Option (Node Nat) :=
  match p.node with
  | .alias ref => p.root.targets.reverse.lookup ref
  | .anchored _ node => some node
  | node => some node

def Element.ofNode (node : Node String) : Option Element :=
  (node.link []).map fun r => ⟨r.1, r.1⟩

/-- The document of a text, which holds one at most. -/
def documentOf (text : String) : Option (Option Element) :=
  (Node.ofText text).bind (·.mapM Element.ofNode)

end SwarmDeploy.Yaml
