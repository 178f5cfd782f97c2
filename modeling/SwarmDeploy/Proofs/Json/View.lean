import Mathlib.Data.List.Forall2
import Mathlib.Tactic.Common
import SwarmDeploy.Json.Access
import SwarmDeploy.Json.Shape

/-! What a shape makes of a value.
A view gives the value that is read when another one was written, and nothing where the shape does
not fit: members may be left out, but none may come twice or be unknown. -/

namespace SwarmDeploy.Json

theorem mapM_eq_some_iff {α β : Type} {f : α → Option β} {as : List α} {bs : List β} :
    as.mapM f = some bs ↔ List.Forall₂ (fun a b => f a = some b) as bs := by
  induction as generalizing bs with
  | nil =>
    rw [List.forall₂_nil_left_iff]
    exact ⟨fun h => (Option.some.inj h).symm, fun h => h ▸ rfl⟩
  | cons a as ih =>
    simp only [List.mapM_cons, Option.bind_eq_bind, Option.bind_eq_some_iff, ih,
      List.forall₂_cons_left_iff]
    constructor
    · rintro ⟨b, first, bs', rest, all⟩
      exact ⟨b, bs', first, rest, (Option.some.inj all).symm⟩
    · rintro ⟨b, bs', first, rest, rfl⟩
      exact ⟨b, first, bs', rest, rfl⟩

theorem exists_of_mapM_eq_some {α β : Type} {f : α → Option β} {as : List α} {bs : List β}
    (all : as.mapM f = some bs) {a : α} (mem : a ∈ as) : ∃ b ∈ bs, f a = some b := by
  rw [mapM_eq_some_iff] at all
  induction all with
  | nil => cases mem
  | @cons c b as bs first all ih =>
    cases mem with
    | head => exact ⟨b, List.mem_cons_self, first⟩
    | tail _ mem =>
      obtain ⟨b, later, eq⟩ := ih mem
      exact ⟨b, List.mem_cons_of_mem _ later, eq⟩

/-- A field of a record with the view of its value. -/
structure FieldView where
  name : String
  presence : Presence
  view : Value → Option Value

def viewText : Value → Option Value
  | .text s => some (.text s)
  | _ => none

def viewFlag : Value → Option Value
  | .bool b => some (.bool b)
  | _ => none

def viewInteger (range : IntegerRange) : Value → Option Value
  | .int n => if range.contains n then some (.int n) else none
  | _ => none

def viewChoice (names : List String) : Value → Option Value
  | .text s => if names.contains s then some (.text s) else none
  | _ => none

def viewOptional (view : Value → Option Value) : Value → Option Value
  | .null => some .null
  | v => view v

def viewMany (view : Value → Option Value) : Value → Option Value
  | .list items => (items.mapM view).map .list
  | _ => none

def viewEntry (view : Value → Option Value) (entry : String × Value) : Option (String × Value) :=
  (view entry.2).map fun v => (entry.1, v)

def viewDictionary (view : Value → Option Value) : Value → Option Value
  | .object entries =>
    if (entries.map (·.1)).Nodup then (entries.mapM (viewEntry view)).map .object else none
  | _ => none

def FieldView.take (members : List (String × Value)) (f : FieldView) : Option (String × Value) :=
  match members.lookup f.name, f.presence with
  | some w, _ => (f.view w).map fun v => (f.name, v)
  | none, .default v => some (f.name, v)
  | none, .required => none

def Known (names : List String) (members : List (String × Value)) : Prop :=
  names.Nodup ∧ (members.map (·.1)).Nodup ∧ ∀ m ∈ members, m.1 ∈ names

instance (names : List String) (members : List (String × Value)) :
    Decidable (Known names members) :=
  inferInstanceAs (Decidable (_ ∧ _ ∧ _))

def viewRecord (fields : List FieldView) : Value → Option Value
  | .object members =>
    if Known (fields.map FieldView.name) members then
      (fields.mapM (FieldView.take members)).map .object
    else none
  | _ => none

mutual

/-- What a value is read as under a shape. -/
def Shape.view : Shape → Value → Option Value
  | .text => viewText
  | .flag => viewFlag
  | .integer range => viewInteger range
  | .choice names => viewChoice names
  | .optional inner => viewOptional inner.view
  | .many inner => viewMany inner.view
  | .dictionary inner => viewDictionary inner.view
  | .record _ fields => viewRecord fields.views

def Fields.views : Fields → List FieldView
  | .nil => []
  | .cons name shape presence rest => ⟨name, presence, shape.view⟩ :: rest.views

end

theorem viewRecord_of_forall₂ {fields : List FieldView} {members vs : List (String × Value)}
    (known : Known (fields.map (·.name)) members)
    (taken : List.Forall₂ (fun f m => f.take members = some m) fields vs) :
    viewRecord fields (.object members) = some (.object vs) := by
  simp only [viewRecord, known, if_true, mapM_eq_some_iff.2 taken, Option.map_some]

theorem known_of_sublist {names : List String} {members : List (String × Value)}
    (distinct : names.Nodup) (ordered : (members.map (·.1)).Sublist names) :
    Known names members :=
  ⟨distinct, ordered.nodup distinct, fun _ mem => ordered.subset (List.mem_map_of_mem mem)⟩

theorem keys_textMember (name s : String) :
    ((textMember name s).map (·.1)).Sublist [name] := by
  unfold textMember
  split
  · exact List.nil_sublist _
  · exact List.Sublist.refl _

@[simp]
theorem lookup_textMember (name s key : String) :
    (textMember name s).lookup key = if key = name ∧ s ≠ "" then some (.text s) else none := by
  unfold textMember
  by_cases empty : s = ""
  · simp [empty]
  · by_cases same : key = name
    · simp [empty, same]
    · simp [empty, same, List.lookup_cons, beq_false_of_ne same]

theorem take_textMember {members : List (String × Value)} {name s : String}
    (written : members.lookup name = if s ≠ "" then some (.text s) else none) :
    FieldView.take members ⟨name, .default (.text ""), viewText⟩ = some (name, .text s) := by
  by_cases empty : s = ""
  · simp [FieldView.take, written, empty]
  · simp [FieldView.take, written, empty, viewText]

theorem take_of_lookup {members : List (String × Value)} {name : String} {presence : Presence}
    {view : Value → Option Value} {w v : Value} (written : members.lookup name = some w)
    (viewed : view w = some v) :
    FieldView.take members ⟨name, presence, view⟩ = some (name, v) := by
  simp only [FieldView.take, written, viewed, Option.map_some]

theorem keys_optionalMember (name : String) (v : Option Value) :
    ((optionalMember name v).map (·.1)).Sublist [name] := by
  cases v with
  | none => exact List.nil_sublist _
  | some v => exact List.Sublist.refl _

@[simp]
theorem lookup_optionalMember (name : String) (v : Option Value) (key : String) :
    (optionalMember name v).lookup key = if key = name then v else none := by
  cases v with
  | none => simp [optionalMember]
  | some v =>
    by_cases same : key = name
    · simp [optionalMember, same]
    · simp [optionalMember, same, List.lookup_cons, beq_false_of_ne same]

theorem keys_listMember (name : String) (items : List Value) :
    ((listMember name items).map (·.1)).Sublist [name] := by
  unfold listMember
  split
  · exact List.nil_sublist _
  · exact List.Sublist.refl _

@[simp]
theorem lookup_listMember (name : String) (items : List Value) (key : String) :
    (listMember name items).lookup key =
      if key = name ∧ items ≠ [] then some (.list items) else none := by
  unfold listMember
  by_cases empty : items = []
  · simp [empty]
  · by_cases same : key = name
    · simp [empty, same]
    · simp [empty, same, List.lookup_cons, beq_false_of_ne same]

theorem keys_pairsMember (name : String) (pairs : List (String × String)) :
    ((pairsMember name pairs).map (·.1)).Sublist [name] := by
  unfold pairsMember
  split
  · exact List.nil_sublist _
  · exact List.Sublist.refl _

@[simp]
theorem lookup_pairsMember (name : String) (pairs : List (String × String)) (key : String) :
    (pairsMember name pairs).lookup key =
      if key = name ∧ pairs ≠ [] then some (.pairs pairs) else none := by
  unfold pairsMember
  by_cases empty : pairs = []
  · simp [empty]
  · by_cases same : key = name
    · simp [empty, same]
    · simp [empty, same, List.lookup_cons, beq_false_of_ne same]

theorem view_integer {range : IntegerRange} {n : Int} (within : range.contains n = true) :
    (Shape.integer range).view (.int n) = some (.int n) := by
  rw [Shape.view, viewInteger, if_pos within]

theorem view_text (s : String) : Shape.text.view (.text s) = some (.text s) := rfl

theorem view_flag (b : Bool) : Shape.flag.view (.bool b) = some (.bool b) := rfl

theorem Value.text_ne_null (s : String) : Value.text s ≠ .null :=
  Value.noConfusion

theorem Value.texts_ne_null (items : List String) : Value.texts items ≠ .null :=
  Value.noConfusion

section
variable {α : Type} {shape : Shape} {toJson viewed : α → Value}
  {members : List (String × Value)} {name : String}

theorem take_optionalMember {a : Option α} (views : ∀ b, shape.view (toJson b) = some (viewed b))
    (notNull : ∀ b, toJson b ≠ .null) (written : members.lookup name = a.map toJson) :
    FieldView.take members ⟨name, .default .null, (Shape.optional shape).view⟩ =
      some (name, a.elim .null viewed) := by
  cases a with
  | none => simp only [FieldView.take, written, Option.map_none, Option.elim_none]
  | some b =>
    have present : (Shape.optional shape).view (toJson b) = shape.view (toJson b) := by
      rw [Shape.view]
      unfold viewOptional
      split
      · rename_i null
        exact absurd null (notNull b)
      · rfl
    exact take_of_lookup written (present.trans (views b))

theorem view_many (views : ∀ a, shape.view (toJson a) = some (viewed a)) (items : List α) :
    (Shape.many shape).view (.list (items.map toJson)) = some (.list (items.map viewed)) := by
  have all : (items.map toJson).mapM shape.view = some (items.map viewed) := by
    rw [mapM_eq_some_iff, List.forall₂_map_left_iff, List.forall₂_map_right_iff]
    exact List.forall₂_same.2 fun a _ => views a
  simp only [Shape.view, viewMany, all, Option.map_some]

theorem take_listMember {items : List α} (views : ∀ a, shape.view (toJson a) = some (viewed a))
    (written : members.lookup name =
      if items ≠ [] then some (.list (items.map toJson)) else none) :
    FieldView.take members ⟨name, .default (.list []), (Shape.many shape).view⟩ =
      some (name, .list (items.map viewed)) := by
  by_cases empty : items = []
  · simp [FieldView.take, written, empty]
  · rw [if_pos empty] at written
    exact take_of_lookup written (view_many views items)

theorem view_pairs {pairs : List (String × String)} (distinct : (pairs.map (·.1)).Nodup) :
    (Shape.dictionary .text).view (.pairs pairs) = some (.pairs pairs) := by
  have keys : ((pairs.map fun m => (m.1, Value.text m.2)).map (·.1)).Nodup := by
    rwa [List.map_map]
  have all : (pairs.map fun m => (m.1, Value.text m.2)).mapM (viewEntry viewText) =
      some (pairs.map fun m => (m.1, Value.text m.2)) := by
    rw [mapM_eq_some_iff, List.forall₂_map_left_iff, List.forall₂_map_right_iff]
    exact List.forall₂_same.2 fun m _ => rfl
  simp only [Value.pairs, Shape.view, viewDictionary, keys, if_true, all, Option.map_some]

theorem take_pairsMember {pairs : List (String × String)} (distinct : (pairs.map (·.1)).Nodup)
    (written : members.lookup name = if pairs ≠ [] then some (.pairs pairs) else none) :
    FieldView.take members ⟨name, .default (.object []), (Shape.dictionary .text).view⟩ =
      some (name, .pairs pairs) := by
  by_cases empty : pairs = []
  · simp [FieldView.take, written, empty, Value.pairs]
  · rw [if_pos empty] at written
    exact take_of_lookup written (view_pairs distinct)

end

namespace Value

theorem textsOf_texts (items : List String) : (texts items).textsOf = items := by
  simp [texts, textsOf, itemsOf, textOf, Function.comp_def]

theorem pairsOf_pairs (members : List (String × String)) : (pairs members).pairsOf = members := by
  simp [pairs, pairsOf, membersOf, textOf, Function.comp_def]

theorem itemsOf_map {α : Type} {toJson : α → Value} {ofJson : Value → α}
    (back : ∀ a, ofJson (toJson a) = a) (items : List α) :
    (list (items.map toJson)).itemsOf.map ofJson = items := by
  simp only [itemsOf, List.map_map, Function.comp_def, back, List.map_id']

theorem optional_elim {α : Type} {toJson : α → Value} {ofJson : Value → α}
    (notNull : ∀ a, toJson a ≠ .null) (back : ∀ a, ofJson (toJson a) = a) (a : Option α) :
    (a.elim .null toJson).optional ofJson = a := by
  cases a with
  | none => rfl
  | some a =>
    rw [Option.elim_some]
    unfold optional
    split
    · rename_i null
      exact absurd null (notNull a)
    · rw [back]

end Value

end SwarmDeploy.Json
