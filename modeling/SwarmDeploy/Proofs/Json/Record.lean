import SwarmDeploy.Proofs.Json.Faithful
import SwarmDeploy.Proofs.Basic

/-! Records, and with them all shapes, are read as their views.
Members are found by their names in whatever order they were written; what was not found has its
default, as in the view. -/

namespace SwarmDeploy.Json
open SwarmDeploy.Text

def Agree (readers : List FieldReader) (fields : List FieldView) : Prop :=
  List.Forall₂ (fun r f => r.name = f.name ∧ r.presence = f.presence ∧ Faithful r.read f.view)
    readers fields

variable {readers : List FieldReader} {fields : List FieldView}
  {found members : List (String × Value)} {bytes rest : List UInt8}

theorem find?_of_forall₂ {goesWith : FieldReader → FieldView → Prop}
    (named : ∀ {r f}, goesWith r f → r.name = f.name)
    (all : List.Forall₂ goesWith readers fields) (distinct : (fields.map (·.name)).Nodup)
    {f : FieldView} (mem : f ∈ fields) :
    ∃ r, readers.find? (fun r => r.name == f.name) = some r ∧ goesWith r f := by
  induction all with
  | nil => cases mem
  | @cons r g readers fields first all ih =>
    rw [List.map_cons, List.nodup_cons] at distinct
    rcases List.mem_cons.1 mem with rfl | later
    · exact ⟨r, List.find?_cons_of_pos (by simp [named first]), first⟩
    · obtain ⟨r', found, goes⟩ := ih distinct.2 later
      have other : r.name ≠ f.name := by
        intro equal
        rw [named first] at equal
        exact distinct.1 (equal ▸ List.mem_map_of_mem later)
      exact ⟨r', by rw [List.find?_cons_of_neg (by simpa using other), found], goes⟩

theorem readMembers_written (agree : Agree readers fields)
    (distinct : (fields.map (·.name)).Nodup) {first : Bool}
    (written : WrittenMembers first members bytes)
    (fits : ∀ m ∈ members, ∃ f ∈ fields, ∃ v, f.name = m.1 ∧ f.view m.2 = some v)
    (apart : (found.map (·.1) ++ members.map (·.1)).Nodup) {fuel : Nat}
    (enough : members.length < fuel) (rest : List UInt8) :
    ∃ all, readMembers readers fuel first found (bytes ++ rest) = .ok (all, 0x7D :: rest) ∧
      ∀ f ∈ fields, all.lookup f.name =
        (found.lookup f.name).or ((members.lookup f.name).bind f.view) := by
  induction members generalizing first bytes fuel found with
  | nil =>
    cases fuel with
    | zero => cases enough
    | succ fuel =>
      cases written with
      | nil only =>
        refine ⟨found, ?_, fun f mem => (Option.or_none).symm⟩
        simp only [readMembers, nextMember_nil only, bind, Except.bind]
        rfl
  | cons m members ih =>
    cases fuel with
    | zero => cases enough
    | succ fuel =>
      cases written with
      | @cons _ key w _ blanks blanks' bytes more only only' value later =>
        obtain ⟨f, mem, v, named, viewed⟩ := fits _ List.mem_cons_self
        obtain ⟨r, first, -, -, faithful⟩ := find?_of_forall₂ And.left agree distinct mem
        have unread : key ∉ found.map (·.1) := by
          intro mem
          exact (List.nodup_append.1 apart).2.2 key mem key List.mem_cons_self rfl
        have others : (((key, v) :: found).map (·.1) ++ members.map (·.1)).Nodup := by
          exact List.nodup_middle.1 apart
        obtain ⟨all, after, lookups⟩ := ih later (fun m mem => fits m (List.mem_cons_of_mem _ mem))
          others (Nat.lt_of_succ_lt_succ enough)
        have entry := faithful value viewed (later.ends rest) only'
        rw [named] at first
        refine ⟨all, ?_, ?_⟩
        · simp only [List.append_assoc, List.cons_append, readMembers, nextMember_cons only, bind,
            Except.bind, if_true, readQuoted_escapes, skipColon_colon, String.ofList_toList, first,
            lookup_eq_none_of_not_mem unread, Option.isSome_none, Bool.false_eq_true, if_false,
            entry, after]
        · intro g gMem
          rw [lookups g gMem, List.lookup_cons, List.lookup_cons]
          by_cases same : g.name = key
          · have field : g = f := List.inj_on_of_nodup_map distinct gMem mem (same.trans named.symm)
            have absent := lookup_eq_none_of_not_mem unread
            rw [same, absent, beq_self_eq_true, field]
            exact viewed.symm
          · rw [beq_false_of_ne same]

theorem view_of_take {f : FieldView} {m : String × Value} {w : Value}
    (taken : f.take members = some m) (written : members.lookup f.name = some w) :
    ∃ v, m = (f.name, v) ∧ f.view w = some v := by
  simp only [FieldView.take, written, Option.map_eq_some_iff] at taken
  obtain ⟨v, viewed, rfl⟩ := taken
  exact ⟨v, rfl, viewed⟩

theorem complete_written (agree : Agree readers fields) {vs : List (String × Value)}
    (lookups : ∀ f ∈ fields, found.lookup f.name = (members.lookup f.name).bind f.view)
    (taken : List.Forall₂ (fun f m => f.take members = some m) fields vs) :
    complete found rest readers = .ok vs := by
  induction agree generalizing vs with
  | nil =>
    cases taken
    rfl
  | @cons r f readers fields same agree ih =>
    cases taken with
    | @cons _ m _ vs first taken =>
      have later := ih (fun g mem => lookups g (List.mem_cons_of_mem f mem)) taken
      have lookup := lookups f List.mem_cons_self
      cases written : members.lookup f.name with
      | some w =>
        obtain ⟨v, rfl, viewed⟩ := view_of_take first written
        rw [written, Option.bind_some, viewed] at lookup
        simp only [complete, same.1, lookup, later]
        rfl
      | none =>
        rw [written, Option.bind_none] at lookup
        simp only [FieldView.take, written] at first
        simp only [complete, same.1, same.2.1, lookup]
        cases presence : f.presence with
        | required =>
          rw [presence] at first
          cases first
        | default v =>
          rw [presence] at first
          cases first
          simp only [later]
          rfl

theorem fits_of_taken (known : Known (fields.map (·.name)) members) {vs : List (String × Value)}
    (taken : fields.mapM (FieldView.take members) = some vs) :
    ∀ m ∈ members, ∃ f ∈ fields, ∃ v, f.name = m.1 ∧ f.view m.2 = some v := by
  intro m mem
  obtain ⟨-, distinct, names⟩ := known
  obtain ⟨f, fMem, named⟩ := List.mem_map.1 (names m mem)
  have written := lookup_eq_some_of_mem distinct mem
  rw [← named] at written
  obtain ⟨n, -, first⟩ := exists_of_mapM_eq_some taken fMem
  obtain ⟨v, -, viewed⟩ := view_of_take first written
  exact ⟨f, fMem, v, named, viewed⟩

theorem readRecord_faithful (name : String) (agree : Agree readers fields) :
    Faithful (readRecord name readers) (viewRecord fields) := by
  intro w v bytes rest blanks written viewed ends only
  unfold viewRecord at viewed
  split at viewed
  · rename_i members
    split at viewed
    · rename_i known
      obtain ⟨vs, taken, rfl⟩ := Option.map_eq_some_iff.1 viewed
      cases written with
      | @object _ bytes written =>
        have start : skipBlanks (0x7B :: bytes ++ rest) = 0x7B :: (bytes ++ rest) := rfl
        have enough : members.length < (blanks ++ (0x7B :: bytes ++ rest)).length := by
          have shorter := written.length_lt
          simp only [List.length_append, List.length_cons]
          omega
        have apart : (([] : List (String × Value)).map (·.1) ++ members.map (·.1)).Nodup :=
          known.2.1
        obtain ⟨all, found, lookups⟩ := readMembers_written agree known.1 written
          (fits_of_taken known taken) apart enough rest
        have completed : complete all rest readers = .ok vs :=
          complete_written agree lookups (mapM_eq_some_iff.1 taken)
        unfold readRecord
        rw [skipBlanks_append only, start]
        simp only
        rw [if_neg (by decide), if_pos trivial]
        simp only [found, bind, Except.bind, List.drop_one, List.tail_cons, completed]
        rfl
    · cases viewed
  · cases viewed

mutual

theorem Shape.read_faithful : (s : Shape) → Faithful s.read s.view
  | .text => readText_faithful
  | .flag => readFlag_faithful
  | .integer range => readInteger_faithful range
  | .choice names => readChoice_faithful names
  | .optional inner => readOptional_faithful inner.read_faithful
  | .many inner => readList_faithful inner.read_faithful
  | .dictionary inner => readDictionary_faithful inner.read_faithful
  | .record name fields => readRecord_faithful name fields.agree

theorem Fields.agree : (fields : Fields) → Agree fields.readers fields.views
  | .nil => .nil
  | .cons _ shape _ rest => .cons ⟨rfl, rfl, shape.read_faithful⟩ rest.agree

end

/-- A document that writes a value is read as the view of the value. -/
theorem Shape.readDocument_written (s : Shape) {w v : Value} (written : Written w bytes)
    (viewed : s.view w = some v) : s.readDocument bytes = .ok v := by
  have read : s.read ([] ++ (bytes ++ [])) = .ok (v, []) :=
    s.read_faithful written viewed trivial blanks_nil
  rw [List.nil_append, List.append_nil] at read
  unfold readDocument
  simp only [read, bind, Except.bind, skipBlanks]
  rfl

end SwarmDeploy.Json
