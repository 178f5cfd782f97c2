import SwarmDeploy.Proofs.Json.Record

/-! What a shape reads is settled: the view of it is the value itself.
A record that was read has all its fields, also those that the document left out, and what stands
in them is settled again. So writing a value that was read and reading it again changes nothing. -/

namespace SwarmDeploy.Json
open SwarmDeploy.Text

def Settled (view : Value → Option Value) (v : Value) : Prop :=
  view v = some v

def Settles (read : List UInt8 → Reading Value) (view : Value → Option Value) : Prop :=
  ∀ {input v rest}, read input = .ok (v, rest) → Settled view v

variable {read : List UInt8 → Reading Value} {view : Value → Option Value}
  {input rest : List UInt8} {first : Bool} {fuel : Nat}

theorem readText_settles : Settles readText viewText := by
  intro input v rest ok
  unfold readText at ok
  split at ok
  · cases ok
  · split at ok
    · obtain ⟨r, -, eq⟩ := map_eq_ok_iff.1 ok
      cases eq
      rfl
    · cases ok

theorem readFlag_settles : Settles readFlag viewFlag := by
  intro input v rest ok
  unfold readFlag at ok
  split at ok
  · cases ok
  · split at ok
    · obtain ⟨rest, -, eq⟩ := map_eq_ok_iff.1 ok
      cases eq
      rfl
    · split at ok
      · obtain ⟨rest, -, eq⟩ := map_eq_ok_iff.1 ok
        cases eq
        rfl
      · cases ok

theorem settled_of_acceptInteger {range : IntegerRange} {n : Numeral} {v : Value}
    (ok : acceptInteger range n input = .ok (v, rest)) : Settled (viewInteger range) v := by
  unfold acceptInteger at ok
  split at ok
  · cases ok
  · split at ok
    · rename_i within
      cases ok
      exact if_pos within
    · cases ok

theorem readInteger_settles (range : IntegerRange) :
    Settles (readInteger range) (viewInteger range) := by
  intro input v rest ok
  unfold readInteger at ok
  split at ok
  · cases ok
  · split at ok
    · split at ok
      · exact settled_of_acceptInteger ok
      · cases ok
    · split at ok
      · split at ok
        · exact settled_of_acceptInteger ok
        · cases ok
      · cases ok

theorem settled_of_readVariant {names : List String} {v : Value}
    (ok : readVariant names input = .ok (v, rest)) : Settled (viewChoice names) v := by
  unfold readVariant at ok
  split at ok
  · cases ok
  · split at ok
    · rename_i known
      cases ok
      exact if_pos known
    · cases ok

theorem readChoice_settles (names : List String) :
    Settles (readChoice names) (viewChoice names) := by
  intro input v rest ok
  unfold readChoice at ok
  split at ok
  · cases ok
  · split at ok
    · exact settled_of_readVariant ok
    · split at ok
      · split at ok
        · cases ok
        · split at ok
          · obtain ⟨⟨w, behind⟩, variant, ok⟩ := bind_eq_ok_iff.1 ok
            obtain ⟨colon, -, ok⟩ := bind_eq_ok_iff.1 ok
            obtain ⟨unit, -, ok⟩ := bind_eq_ok_iff.1 ok
            split at ok
            · cases ok
            · split at ok
              · cases ok
                exact settled_of_readVariant variant
              · cases ok
          · cases ok
      · cases ok

theorem readOptional_settles (settles : Settles read view) :
    Settles (readOptional read) (viewOptional view) := by
  have given : ∀ {v}, Settled view v → Settled (viewOptional view) v := by
    intro v settled
    unfold Settled viewOptional
    split
    · rfl
    · exact settled
  intro input v rest ok
  unfold readOptional at ok
  split at ok
  · exact given (settles ok)
  · split at ok
    · obtain ⟨rest, -, eq⟩ := map_eq_ok_iff.1 ok
      cases eq
      rfl
    · exact given (settles ok)

theorem settled_of_readItems (settles : Settles read view) {vs : List Value}
    (ok : readItems read fuel first input = .ok (vs, rest)) : ∀ v ∈ vs, Settled view v := by
  induction fuel generalizing first input vs with
  | zero => cases ok
  | succ fuel ih =>
    obtain ⟨⟨more, behind⟩, -, ok⟩ := bind_eq_ok_iff.1 ok
    dsimp only at ok
    split at ok
    · obtain ⟨⟨v, later⟩, item, ok⟩ := bind_eq_ok_iff.1 ok
      obtain ⟨⟨others, last⟩, items, ok⟩ := bind_eq_ok_iff.1 ok
      cases ok
      rw [List.forall_mem_cons]
      exact ⟨settles item, ih items⟩
    · cases ok
      exact List.forall_mem_nil _

theorem mapM_of_settled {α : Type} {f : α → Option α} {items : List α}
    (settled : ∀ a ∈ items, f a = some a) : items.mapM f = some items :=
  mapM_eq_some_iff.2 (List.forall₂_same.2 settled)

theorem readList_settles (settles : Settles read view) :
    Settles (readList read) (viewMany view) := by
  intro input v rest ok
  unfold readList at ok
  split at ok
  · cases ok
  · split at ok
    · obtain ⟨⟨vs, behind⟩, items, eq⟩ := map_eq_ok_iff.1 ok
      cases eq
      have all := mapM_of_settled (settled_of_readItems settles items)
      simp only [Settled, viewMany, all, Option.map_some]
    · cases ok

theorem mem_bind {α : Type} {name : String} {value : α} {entries : List (String × α)}
    {e : String × α} (mem : e ∈ Bindings.bind name value entries) :
    e.2 = value ∨ e ∈ entries := by
  induction entries with
  | nil =>
    cases List.mem_singleton.1 mem
    exact .inl rfl
  | cons entry entries ih =>
    unfold Bindings.bind at mem
    split at mem
    · rcases List.mem_cons.1 mem with rfl | later
      · exact .inl rfl
      · exact .inr (List.mem_cons_of_mem _ later)
    · rcases List.mem_cons.1 mem with rfl | later
      · exact .inr List.mem_cons_self
      · exact (ih later).imp id (List.mem_cons_of_mem _)

theorem settled_of_readEntries (settles : Settles read view)
    {entries vs : List (String × Value)} (distinct : (entries.map (·.1)).Nodup)
    (settled : ∀ e ∈ entries, Settled view e.2)
    (ok : readEntries read fuel first entries input = .ok (vs, rest)) :
    (vs.map (·.1)).Nodup ∧ ∀ e ∈ vs, Settled view e.2 := by
  induction fuel generalizing first entries input with
  | zero => cases ok
  | succ fuel ih =>
    obtain ⟨⟨more, behind⟩, -, ok⟩ := bind_eq_ok_iff.1 ok
    dsimp only at ok
    split at ok
    · obtain ⟨⟨key, after⟩, -, ok⟩ := bind_eq_ok_iff.1 ok
      obtain ⟨colon, -, ok⟩ := bind_eq_ok_iff.1 ok
      obtain ⟨⟨v, later⟩, value, ok⟩ := bind_eq_ok_iff.1 ok
      refine ih (Bindings.nodup_bind _ v distinct) (fun e mem => ?_) ok
      rcases mem_bind mem with eq | old
      · rw [eq]
        exact settles value
      · exact settled e old
    · cases ok
      exact ⟨distinct, settled⟩

theorem readDictionary_settles (settles : Settles read view) :
    Settles (readDictionary read) (viewDictionary view) := by
  intro input v rest ok
  unfold readDictionary at ok
  split at ok
  · cases ok
  · split at ok
    · obtain ⟨⟨vs, behind⟩, entries, eq⟩ := map_eq_ok_iff.1 ok
      cases eq
      have start : (([] : List (String × Value)).map (·.1)).Nodup := List.nodup_nil
      obtain ⟨distinct, settled⟩ :=
        settled_of_readEntries settles start (List.forall_mem_nil _) entries
      have all : vs.mapM (viewEntry view) = some vs :=
        mapM_of_settled fun e mem => congrArg (Option.map _) (settled e mem)
      simp only [Settled, viewDictionary, distinct, if_true, all, Option.map_some]
    · cases ok

def Presence.Settled (view : Value → Option Value) : Presence → Prop
  | .required => True
  | .default v => view v = some v

/-- A reader and a view of the same field, whose values are settled, the default included. -/
structure SettlesField (r : FieldReader) (f : FieldView) : Prop where
  name : r.name = f.name
  default : r.presence.Settled f.view
  read : Settles r.read f.view

def Filled (fields : List FieldView) (members : List (String × Value)) : Prop :=
  List.Forall₂ (fun f m => f.name = m.1 ∧ Settled f.view m.2) fields members

variable {readers : List FieldReader} {fields : List FieldView}
  {found members : List (String × Value)}

theorem Filled.map_fst (filled : Filled fields members) :
    members.map (·.1) = fields.map (·.name) := by
  induction filled with
  | nil => rfl
  | cons first filled ih => rw [List.map_cons, List.map_cons, ih, first.1]

def FoundSettled (fields : List FieldView) (found : List (String × Value)) : Prop :=
  ∀ f ∈ fields, ∀ v, found.lookup f.name = some v → Settled f.view v

theorem foundSettled_of_readMembers (agree : List.Forall₂ SettlesField readers fields)
    (distinct : (fields.map (·.name)).Nodup) {all : List (String × Value)}
    (settled : FoundSettled fields found)
    (ok : readMembers readers fuel first found input = .ok (all, rest)) :
    FoundSettled fields all := by
  induction fuel generalizing first found input with
  | zero => cases ok
  | succ fuel ih =>
    obtain ⟨⟨more, behind⟩, -, ok⟩ := bind_eq_ok_iff.1 ok
    dsimp only at ok
    split at ok
    · obtain ⟨⟨key, after⟩, -, ok⟩ := bind_eq_ok_iff.1 ok
      dsimp only at ok
      split at ok
      · obtain ⟨colon, -, ok⟩ := bind_eq_ok_iff.1 ok
        obtain ⟨later, -, ok⟩ := bind_eq_ok_iff.1 ok
        exact ih settled ok
      · rename_i r known
        split at ok
        · cases ok
        · obtain ⟨colon, -, ok⟩ := bind_eq_ok_iff.1 ok
          obtain ⟨⟨v, later⟩, value, ok⟩ := bind_eq_ok_iff.1 ok
          refine ih (fun f mem w written => ?_) ok
          rw [List.lookup_cons] at written
          split at written
          · rename_i same
            obtain ⟨r', known', settles⟩ := find?_of_forall₂ SettlesField.name agree distinct mem
            rw [beq_iff_eq.1 same, known] at known'
            cases known'
            cases written
            exact settles.read value
          · exact settled f mem w written
    · cases ok
      exact settled

theorem filled_of_complete (agree : List.Forall₂ SettlesField readers fields)
    (settled : FoundSettled fields found) (ok : complete found rest readers = .ok members) :
    Filled fields members := by
  induction agree generalizing members with
  | nil =>
    cases ok
    exact .nil
  | @cons r f readers fields same agree ih =>
    have others : FoundSettled fields found := fun g mem => settled g (List.mem_cons_of_mem _ mem)
    unfold complete at ok
    split at ok
    · rename_i v written
      obtain ⟨members, later, rfl⟩ := map_eq_ok_iff.1 ok
      rw [same.name] at written
      exact .cons ⟨same.name.symm, settled f List.mem_cons_self v written⟩ (ih others later)
    · rename_i v default
      obtain ⟨members, later, rfl⟩ := map_eq_ok_iff.1 ok
      have kept := same.default
      rw [default] at kept
      exact .cons ⟨same.name.symm, kept⟩ (ih others later)
    · cases ok

theorem filled_of_readPositions (agree : List.Forall₂ SettlesField readers fields) {record : String}
    {size index : Nat}
    (ok : readPositions record size index readers input = .ok (members, rest)) :
    Filled fields members := by
  induction agree generalizing members index input with
  | nil =>
    obtain ⟨behind, -, eq⟩ := map_eq_ok_iff.1 ok
    cases eq
    exact .nil
  | @cons r f readers fields same agree ih =>
    obtain ⟨⟨more, behind⟩, -, ok⟩ := bind_eq_ok_iff.1 ok
    dsimp only at ok
    split at ok
    · obtain ⟨⟨v, after⟩, value, ok⟩ := bind_eq_ok_iff.1 ok
      obtain ⟨⟨vs, last⟩, later, ok⟩ := bind_eq_ok_iff.1 ok
      cases ok
      exact .cons ⟨same.name.symm, same.read value⟩ (ih later)
    · split at ok
      · rename_i d default
        obtain ⟨⟨v, after⟩, value, ok⟩ := bind_eq_ok_iff.1 ok
        cases value
        obtain ⟨⟨vs, last⟩, later, ok⟩ := bind_eq_ok_iff.1 ok
        cases ok
        have kept := same.default
        rw [default] at kept
        exact .cons ⟨same.name.symm, kept⟩ (ih later)
      · cases ok

theorem settled_of_filled (distinct : (fields.map (·.name)).Nodup)
    (filled : Filled fields members) : Settled (viewRecord fields) (.object members) := by
  have names := filled.map_fst
  have known : Known (fields.map (·.name)) members :=
    known_of_sublist distinct (names ▸ List.Sublist.refl _)
  refine viewRecord_of_forall₂ known (List.forall₂_iff_zip.2 ⟨?_, ?_⟩)
  · simpa only [List.length_map] using (congrArg List.length names).symm
  · intro f m mem
    obtain ⟨named, settled⟩ := (List.forall₂_iff_zip.1 filled).2 mem
    have written := lookup_eq_some_of_mem known.2.1 (List.of_mem_zip mem).2
    rw [← named] at written
    rw [take_of_lookup written settled, named]

theorem readRecord_settles (name : String) (agree : List.Forall₂ SettlesField readers fields)
    (distinct : (fields.map (·.name)).Nodup) :
    Settles (readRecord name readers) (viewRecord fields) := by
  intro input v rest ok
  unfold readRecord at ok
  split at ok
  · cases ok
  · split at ok
    · obtain ⟨⟨members, behind⟩, positions, eq⟩ := map_eq_ok_iff.1 ok
      cases eq
      exact settled_of_filled distinct (filled_of_readPositions agree positions)
    · split at ok
      · obtain ⟨⟨found, behind⟩, read, ok⟩ := bind_eq_ok_iff.1 ok
        obtain ⟨members, completed, ok⟩ := bind_eq_ok_iff.1 ok
        cases ok
        have nothing : FoundSettled fields [] := fun f mem v written => nomatch written
        exact settled_of_filled distinct
          (filled_of_complete agree (foundSettled_of_readMembers agree distinct nothing read)
            completed)
      · cases ok

theorem settled_field {f : FieldView} {v : Value} (settled : Settled (viewRecord fields) v)
    (mem : f ∈ fields) : Settled f.view (v.field f.name) := by
  unfold Settled viewRecord at settled
  split at settled
  · rename_i members
    split at settled
    · rename_i known
      obtain ⟨vs, taken, eq⟩ := Option.map_eq_some_iff.1 settled
      cases eq
      obtain ⟨m, inMembers, first⟩ := exists_of_mapM_eq_some taken mem
      have lookup := lookup_eq_some_of_mem known.2.1 inMembers
      cases written : members.lookup f.name with
      | some w =>
        obtain ⟨u, rfl, viewed⟩ := view_of_take first written
        have same : w = u := Option.some.inj (written.symm.trans lookup)
        have value : (Value.object members).field f.name = w := congrArg (·.getD .null) written
        rw [value, Settled, viewed, same]
      | none =>
        have named : m.1 = f.name := by
          simp only [FieldView.take, written] at first
          cases presence : f.presence with
          | required =>
            rw [presence] at first
            cases first
          | default d =>
            rw [presence] at first
            cases first
            rfl
        rw [named, written] at lookup
        cases lookup
    · cases settled
  · cases settled

mutual

/-- Records whose fields have names of their own and settled defaults. -/
def Shape.Proper : Shape → Prop
  | .optional inner => inner.Proper
  | .many inner => inner.Proper
  | .dictionary inner => inner.Proper
  | .record _ fields => (fields.views.map (·.name)).Nodup ∧ fields.Proper
  | _ => True

def Fields.Proper : Fields → Prop
  | .nil => True
  | .cons _ shape presence rest => shape.Proper ∧ presence.Settled shape.view ∧ rest.Proper

end

mutual

theorem Shape.read_settles : (s : Shape) → s.Proper → Settles s.read s.view
  | .text, _ => readText_settles
  | .flag, _ => readFlag_settles
  | .integer range, _ => readInteger_settles range
  | .choice names, _ => readChoice_settles names
  | .optional inner, proper => readOptional_settles (inner.read_settles proper)
  | .many inner, proper => readList_settles (inner.read_settles proper)
  | .dictionary inner, proper => readDictionary_settles (inner.read_settles proper)
  | .record name fields, proper => readRecord_settles name (fields.settles proper.2) proper.1

theorem Fields.settles : (fields : Fields) → fields.Proper →
    List.Forall₂ SettlesField fields.readers fields.views
  | .nil, _ => .nil
  | .cons _ shape _ rest, proper =>
    .cons ⟨rfl, proper.2.1, shape.read_settles proper.1⟩ (rest.settles proper.2.2)

end

theorem Shape.settled_of_readDocument {s : Shape} (proper : s.Proper) {v : Value}
    (ok : s.readDocument input = .ok v) : Settled s.view v := by
  obtain ⟨⟨w, rest⟩, read, ok⟩ := bind_eq_ok_iff.1 ok
  dsimp only at ok
  split at ok
  · cases ok
    exact s.read_settles proper read
  · cases ok

end SwarmDeploy.Json
