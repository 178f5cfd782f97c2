import SwarmDeploy.Proofs.Yaml.JsonTokens
import SwarmDeploy.Yaml.Document

/-! JSON texts as documents of YAML.
The tokens of a value are read as its tree, and so the text of an object is the tree of the object
with its strings folded. -/

namespace SwarmDeploy.Json
open Yaml (Allowed Handles Node Token reread)

section
variable {Ref : Type}

mutual

def Value.node : Value → Node Ref
  | .null => .scalar (String.ofList nullText) .plain
  | .bool b => .scalar (String.ofList (flagText b)) .plain
  | .int n => .scalar (String.ofList (integerText n)) .plain
  | .text s => .scalar s .quoted
  | .list items => .list (itemNodes items)
  | .object members => .mapping (memberNodes members)

def itemNodes : List Value → List (Node Ref)
  | [] => []
  | v :: vs => v.node :: itemNodes vs

def memberNodes : List (String × Value) → List (Node Ref × Node Ref)
  | [] => []
  | (k, v) :: ms => (.scalar k .quoted, v.node) :: memberNodes ms

end

end

variable {v : Value} {fuel : Nat} {more rest' : List Token} {handles : Handles}
  {items : List (Node String)} {members : List (Node String × Node String)}

inductive Opens : Token → Prop
  | scalar (text : String) (style : Yaml.Style) : Opens (.scalar text style)
  | sequence : Opens .openSequence
  | mapping : Opens .openMapping

theorem exists_opens (v : Value) : ∃ t ts, v.tokens = t :: ts ∧ Opens t := by
  cases v with
  | null => exact ⟨_, _, rfl, .scalar _ _⟩
  | bool b => exact ⟨_, _, rfl, .scalar _ _⟩
  | int n => exact ⟨_, _, rfl, .scalar _ _⟩
  | text s => exact ⟨_, _, rfl, .scalar _ _⟩
  | list items => exact ⟨_, _, rfl, .sequence⟩
  | object members => exact ⟨_, _, rfl, .mapping⟩

theorem length_tokens_pos (v : Value) : 0 < v.tokens.length := by
  obtain ⟨t, ts, same, -⟩ := exists_opens v
  simp [same]

theorem length_itemTokens_pos (first : Bool) (vs : List Value) :
    0 < (itemTokens first vs).length := by
  cases vs with
  | nil => simp [itemTokens]
  | cons v vs =>
    have some := length_tokens_pos v
    simp only [itemTokens, List.length_append]
    omega

theorem length_memberTokens_pos (first : Bool) (ms : List (String × Value)) :
    0 < (memberTokens first ms).length := by
  cases ms with
  | nil => simp [memberTokens]
  | cons m ms =>
    simp only [memberTokens, List.length_append, List.length_cons]
    omega

theorem read_scalar (block loose : Bool) (text : String) (rest : List Token) :
    Node.read handles block loose (fuel + 1) (.scalar text .quoted :: rest) =
      some (.scalar text .quoted, rest) :=
  rfl

theorem read_openSequence (block loose : Bool) (rest : List Token) :
    Node.read handles block loose (fuel + 1) (.openSequence :: rest) =
      (Node.readItems handles fuel true rest).map fun r => (.list r.1, r.2) := by
  simp [Node.read, Yaml.Properties.read, Yaml.readTag, Yaml.Properties.mark, Function.comp_def]

theorem read_openMapping (block loose : Bool) (rest : List Token) :
    Node.read handles block loose (fuel + 1) (.openMapping :: rest) =
      (Node.readPairs handles fuel true rest).map fun r => (.mapping r.1, r.2) := by
  simp [Node.read, Yaml.Properties.read, Yaml.readTag, Yaml.Properties.mark, Function.comp_def]

theorem readItems_item
    (item : Node.read handles false false fuel (v.tokens ++ more) = some (v.node, more))
    (later : Node.readItems handles (fuel + 1) false more = some (items, rest')) :
    Node.readItems handles (fuel + 2) true (v.tokens ++ more) = some (v.node :: items, rest') := by
  obtain ⟨t, ts, same, opens⟩ := exists_opens v
  rw [same, List.cons_append] at item ⊢
  cases opens <;> simp [Node.readItems, Node.readItem, item, later]

theorem readUnless_value (ends : Token → Bool) (opens : ∀ t, Opens t → ends t = false)
    (value : Node.read handles false false fuel (v.tokens ++ more) = some (v.node, more)) :
    Node.readUnless handles ends false false (fuel + 1) (v.tokens ++ more) =
      some (v.node, more) := by
  obtain ⟨t, ts, same, starts⟩ := exists_opens v
  rw [same, List.cons_append] at value ⊢
  simp [Node.readUnless, opens t starts, value]

theorem readPairs_member (k : String)
    (value : Node.read handles false false fuel (v.tokens ++ more) = some (v.node, more))
    (later : Node.readPairs handles (fuel + 1) false more = some (members, rest')) :
    Node.readPairs handles (fuel + 2) true
        (.key :: .scalar k .quoted :: .value :: (v.tokens ++ more)) =
      some ((.scalar k .quoted, v.node) :: members, rest') := by
  obtain ⟨n, rfl⟩ : ∃ n, fuel = n + 1 := by
    cases fuel with
    | zero => simp [Node.read] at value
    | succ n => exact ⟨n, rfl⟩
  have own := readUnless_value Node.endsFlowPart (by rintro t (_ | _ | _) <;> rfl) value
  have name : Node.readUnless handles (fun t => t == .value || Node.endsFlowPart t) false false
      (n + 2) (.scalar k .quoted :: .value :: (v.tokens ++ more)) =
      some (.scalar k .quoted, .value :: (v.tokens ++ more)) := by
    simp [Node.readUnless, read_scalar, Node.endsFlowPart]
  simp [Node.readPairs, name, own, later]

theorem readItems_comma (fuel : Nat) (rest : List Token) :
    Node.readItems handles (fuel + 1) false (.comma :: rest) =
      Node.readItems handles fuel true rest := by
  rw [Node.readItems]

theorem readPairs_comma (fuel : Nat) (rest : List Token) :
    Node.readPairs handles (fuel + 1) false (.comma :: rest) =
      Node.readPairs handles fuel true rest := by
  rw [Node.readPairs]

/-- Three steps for each token are enough, since no token is met by more readers in a row. -/
theorem exists_fuel (fuel : Nat) {n m : Nat} (enough : 3 * (n + m) ≤ fuel) (first : 0 < n)
    (later : 0 < m) : ∃ k, fuel = k + 2 ∧ 3 * n ≤ k ∧ 3 * m ≤ k + 1 :=
  ⟨fuel - 2, by omega, by omega, by omega⟩

mutual

theorem read_value : (v : Value) → ∀ {block loose : Bool} (fuel : Nat) (rest : List Token),
    3 * v.tokens.length ≤ fuel →
    Node.read handles block loose fuel (v.tokens ++ rest) = some (v.node, rest)
  | .null, _, _, fuel + 1, _, _ => rfl
  | .bool b, _, _, fuel + 1, _, _ => rfl
  | .int n, _, _, fuel + 1, _, _ => rfl
  | .text s, _, _, fuel + 1, _, _ => rfl
  | .list items, block, loose, fuel + 1, rest, enough => by
    rw [Value.tokens, List.length_cons] at enough
    have read := readItems_true items fuel rest (by omega)
    rw [Value.tokens, List.cons_append, read_openSequence, read]
    rfl
  | .object members, block, loose, fuel + 1, rest, enough => by
    rw [Value.tokens, List.length_cons] at enough
    have read := readPairs_true members fuel rest (by omega)
    rw [Value.tokens, List.cons_append, read_openMapping, read]
    rfl

theorem readItems_true : (vs : List Value) → ∀ (fuel : Nat) (rest : List Token),
    3 * (itemTokens true vs).length ≤ fuel →
    Node.readItems handles fuel true (itemTokens true vs ++ rest) = some (itemNodes vs, rest)
  | [], fuel + 1, _, _ => rfl
  | v :: vs, fuel, rest, enough => by
    simp only [itemTokens, commaUnless, if_true, List.nil_append, List.length_append] at enough
    obtain ⟨n, rfl, own, further⟩ :=
      exists_fuel fuel enough (length_tokens_pos v) (length_itemTokens_pos false vs)
    have read := readItems_item (read_value v _ _ own) (readItems_false vs _ rest further)
    simpa only [itemTokens, itemNodes, commaUnless, if_true, List.nil_append,
      List.append_assoc] using read

theorem readItems_false : (vs : List Value) → ∀ (fuel : Nat) (rest : List Token),
    3 * (itemTokens false vs).length ≤ fuel →
    Node.readItems handles fuel false (itemTokens false vs ++ rest) = some (itemNodes vs, rest)
  | [], fuel + 1, _, _ => rfl
  | v :: vs, fuel + 1, rest, enough => by
    simp only [itemTokens, commaUnless, Bool.false_eq_true, if_false, List.cons_append,
      List.length_cons, List.length_append] at enough
    obtain ⟨n, rfl, own, further⟩ := exists_fuel fuel (by omega) (length_tokens_pos v)
      (length_itemTokens_pos false vs)
    have read := readItems_item (read_value v _ _ own) (readItems_false vs _ rest further)
    simpa only [itemTokens, itemNodes, commaUnless, Bool.false_eq_true, if_false,
      List.cons_append, List.nil_append, List.append_assoc, readItems_comma] using read

theorem readPairs_true : (ms : List (String × Value)) → ∀ (fuel : Nat) (rest : List Token),
    3 * (memberTokens true ms).length ≤ fuel →
    Node.readPairs handles fuel true (memberTokens true ms ++ rest) = some (memberNodes ms, rest)
  | [], fuel + 1, _, _ => rfl
  | (k, v) :: ms, fuel, rest, enough => by
    simp only [memberTokens, commaUnless, if_true, List.nil_append, List.cons_append,
      List.length_append, List.length_cons] at enough
    obtain ⟨n, rfl, own, further⟩ := exists_fuel fuel (by omega) (length_tokens_pos v)
      (length_memberTokens_pos false ms)
    have read := readPairs_member k (read_value v _ _ own) (readPairs_false ms _ rest further)
    simpa only [memberTokens, memberNodes, commaUnless, if_true, List.nil_append,
      List.cons_append, List.append_assoc] using read

theorem readPairs_false : (ms : List (String × Value)) → ∀ (fuel : Nat) (rest : List Token),
    3 * (memberTokens false ms).length ≤ fuel →
    Node.readPairs handles fuel false (memberTokens false ms ++ rest) = some (memberNodes ms, rest)
  | [], fuel + 1, _, _ => rfl
  | (k, v) :: ms, fuel + 1, rest, enough => by
    simp only [memberTokens, commaUnless, Bool.false_eq_true, if_false, List.cons_append,
      List.nil_append, List.length_append, List.length_cons] at enough
    obtain ⟨n, rfl, own, further⟩ := exists_fuel fuel (by omega) (length_tokens_pos v)
      (length_memberTokens_pos false ms)
    have read := readPairs_member k (read_value v _ _ own) (readPairs_false ms _ rest further)
    simpa only [memberTokens, memberNodes, commaUnless, Bool.false_eq_true, if_false,
      List.cons_append, List.nil_append, List.append_assoc, readPairs_comma] using read

end

mutual

theorem link_node : (v : Value) → ∀ anchors, v.node.link anchors = some (v.node, anchors)
  | .null, _ => rfl
  | .bool _, _ => rfl
  | .int _, _ => rfl
  | .text _, _ => rfl
  | .list items, anchors => by rw [Value.node, Node.link, link_itemNodes items]; rfl
  | .object members, anchors => by rw [Value.node, Node.link, link_memberNodes members]; rfl

theorem link_itemNodes : (vs : List Value) → ∀ anchors,
    Yaml.linkItems (itemNodes vs) anchors = some (itemNodes vs, anchors)
  | [], _ => rfl
  | v :: vs, anchors => by
    simp only [itemNodes, Yaml.linkItems, link_node v, link_itemNodes vs, Option.bind_eq_bind,
      Option.bind_some, Option.map_some]

theorem link_memberNodes : (ms : List (String × Value)) → ∀ anchors,
    Yaml.linkEntries (memberNodes ms) anchors = some (memberNodes ms, anchors)
  | [], _ => rfl
  | (k, v) :: ms, anchors => by
    simp only [memberNodes, Yaml.linkEntries, Node.link, link_node v, link_memberNodes ms,
      Option.bind_eq_bind, Option.bind_some, Option.map_some]

end

def Value.element (v : Value) : Yaml.Element :=
  ⟨v.node, v.node⟩

/-- A document that is the text of an object is the tree of the object with its texts folded. -/
theorem documentOf_toText_eq_some_iff {ms : List (String × Value)} (keyed : KeyedMembers ms)
    {document : Option Yaml.Element} :
    Yaml.documentOf (Value.object ms).toText = some document ↔
      (∀ s ∈ memberTexts ms, Allowed s) ∧
        ∃ ws, mapMembers reread ms = some ws ∧ some (Value.object ws).element = document := by
  have tree (ws : List (String × Value)) :
      Node.ofTokens (Value.object ws).tokens = some (some (Value.object ws).node) := by
    have read : Node.read Handles.predefined true false (3 * (Value.object ws).tokens.length + 3)
        ((Value.object ws).tokens ++ []) = some ((Value.object ws).node, []) :=
      read_value (.object ws) _ [] (Nat.le_add_right _ 3)
    rw [List.append_nil, Value.tokens, List.length_cons] at read
    simp [Node.ofTokens, Handles.read, Node.readDocument, Value.tokens, read]
  have linked (ws : List (String × Value)) :
      (some (Value.object ws).node).mapM Yaml.Element.ofNode =
        some (some (Value.object ws).element) := by
    simp [Yaml.Element.ofNode, link_node, Value.element]
  simp only [Yaml.documentOf, Node.ofText, Option.bind_eq_some_iff, tokens_toText_eq_some_iff keyed]
  constructor
  · rintro ⟨d, ⟨ts, ⟨allowed, ws, mapped, rfl⟩, whole⟩, read⟩
    obtain rfl := Option.some.inj ((tree ws).symm.trans whole)
    exact ⟨allowed, ws, mapped, Option.some.inj ((linked ws).symm.trans read)⟩
  · rintro ⟨allowed, ws, mapped, rfl⟩
    exact ⟨_, ⟨_, ⟨allowed, ws, mapped, rfl⟩, tree ws⟩, linked ws⟩

end SwarmDeploy.Json
