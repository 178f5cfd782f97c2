import Mathlib.Data.List.Basic
import SwarmDeploy.Yaml.Document

/-! References of documents.
An alias is refused unless its name has been anchored before it, so that every alias of a document
refers to one of its nodes. -/

namespace SwarmDeploy.Yaml

section
variable {Ref : Type}

mutual

def Node.refs : Node Ref → List Ref
  | .scalar _ _ => []
  | .list items => itemRefs items
  | .mapping entries => entryRefs entries
  | .anchored _ node => node.refs
  | .alias ref => [ref]

def itemRefs : List (Node Ref) → List Ref
  | [] => []
  | item :: items => item.refs ++ itemRefs items

def entryRefs : List (Node Ref × Node Ref) → List Ref
  | [] => []
  | (key, value) :: entries => key.refs ++ value.refs ++ entryRefs entries

end

end

/-- The references of a piece of a document go to anchors in front of it or to targets in it, and
no name has another number behind it. -/
structure Linked (before : Anchors) (refs : List Nat) (targets : List (Nat × Node Nat))
    (after : Anchors) : Prop where
  refs : ∀ r ∈ refs, r ∈ before.map Prod.snd ∨ r ∈ targets.map Prod.fst
  after : ∀ r ∈ after.map Prod.snd, r ∈ before.map Prod.snd ∨ r ∈ targets.map Prod.fst

namespace Linked

variable {before middle after : Anchors} {refs refs' : List Nat}
  {targets targets' : List (Nat × Node Nat)}

theorem none (anchors : Anchors) : Linked anchors [] [] anchors :=
  ⟨nofun, fun _ => .inl⟩

theorem append (first : Linked before refs targets middle)
    (second : Linked middle refs' targets' after) :
    Linked before (refs ++ refs') (targets ++ targets') after := by
  have earlier {r : Nat} (known : r ∈ middle.map Prod.snd ∨ r ∈ targets'.map Prod.fst) :
      r ∈ before.map Prod.snd ∨ r ∈ (targets ++ targets').map Prod.fst := by
    rw [List.map_append, List.mem_append]
    obtain here | here := known
    · exact (first.after r here).imp_right .inl
    · exact .inr (.inr here)
  refine ⟨fun r mem => ?_, fun r mem => earlier (second.after r mem)⟩
  obtain mem | mem := List.mem_append.1 mem
  · rw [List.map_append, List.mem_append]
    exact (first.refs r mem).imp_right .inl
  · exact earlier (second.refs r mem)

theorem anchored {name : String} {node : Node Nat}
    (inner : Linked (before.insert name) refs targets after) :
    Linked before refs ((before.length, node) :: targets) after := by
  have kept {r : Nat} (known : r ∈ (before.insert name).map Prod.snd ∨ r ∈ targets.map Prod.fst) :
      r ∈ before.map Prod.snd ∨ r ∈ ((before.length, node) :: targets).map Prod.fst := by
    simp only [Anchors.insert, List.map_cons, List.mem_cons] at known ⊢
    obtain (new | old) | here := known
    · exact .inr (.inl new)
    · exact .inl (List.map_subset _ (List.filter_subset_self before) old)
    · exact .inr (.inr here)
  exact ⟨fun r mem => kept (inner.refs r mem), fun r mem => kept (inner.after r mem)⟩

end Linked

mutual

theorem linked_of_link : (node : Node String) → ∀ {before after : Anchors} {node' : Node Nat},
    node.link before = some (node', after) → Linked before node'.refs node'.targets after
  | .scalar _ _, before, _, _, link => by
    cases link
    exact .none before
  | .list items, _, _, _, link => by
    obtain ⟨_, inner, same⟩ := Option.map_eq_some_iff.1 link
    cases same
    exact linked_of_linkItems items inner
  | .mapping entries, _, _, _, link => by
    obtain ⟨_, inner, same⟩ := Option.map_eq_some_iff.1 link
    cases same
    exact linked_of_linkEntries entries inner
  | .anchored _ node, _, _, _, link => by
    obtain ⟨_, inner, same⟩ := Option.map_eq_some_iff.1 link
    cases same
    exact (linked_of_link node inner).anchored
  | .alias name, before, _, _, link => by
    obtain ⟨number, found, same⟩ := Option.map_eq_some_iff.1 link
    cases same
    obtain ⟨first, later, whole, -⟩ := List.lookup_eq_some_iff.1 found
    have known : number ∈ before.map Prod.snd := by simp [whole]
    refine ⟨fun r mem => .inl ?_, fun _ => .inl⟩
    rw [List.mem_singleton.1 mem]
    exact known

theorem linked_of_linkItems : (items : List (Node String)) → ∀ {before after : Anchors}
    {items' : List (Node Nat)}, linkItems items before = some (items', after) →
      Linked before (itemRefs items') (itemTargets items') after
  | [], before, _, _, link => by
    cases link
    exact .none before
  | item :: items, _, _, _, link => by
    obtain ⟨⟨item', middle⟩, first, rest⟩ := Option.bind_eq_some_iff.1 link
    obtain ⟨_, later, same⟩ := Option.map_eq_some_iff.1 rest
    cases same
    exact (linked_of_link item first).append (linked_of_linkItems items later)

theorem linked_of_linkEntries : (entries : List (Node String × Node String)) →
    ∀ {before after : Anchors} {entries' : List (Node Nat × Node Nat)},
      linkEntries entries before = some (entries', after) →
        Linked before (entryRefs entries') (entryTargets entries') after
  | [], before, _, _, link => by
    cases link
    exact .none before
  | (key, value) :: entries, _, _, _, link => by
    obtain ⟨⟨key', middle⟩, first, rest⟩ := Option.bind_eq_some_iff.1 link
    obtain ⟨⟨value', middle'⟩, second, rest⟩ := Option.bind_eq_some_iff.1 rest
    obtain ⟨_, later, same⟩ := Option.map_eq_some_iff.1 rest
    cases same
    exact ((linked_of_link key first).append (linked_of_link value second)).append
      (linked_of_linkEntries entries later)

end

/-- Every alias of a document has a content. -/
theorem isSome_content_alias {node : Node String} {document : Element}
    (read : Element.ofNode node = some document) {r : Nat} (mem : r ∈ document.root.refs) :
    (Element.content ⟨document.root, .alias r⟩).isSome = true := by
  obtain ⟨_, link, rfl⟩ := Option.map_eq_some_iff.1 read
  obtain outside | target := (linked_of_link node link).refs r mem
  · cases outside
  · rw [Element.content, List.lookup_isSome_iff]
    simpa using target

end SwarmDeploy.Yaml
