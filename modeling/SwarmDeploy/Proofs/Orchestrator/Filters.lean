import SwarmDeploy.Orchestrator.Filters
import SwarmDeploy.Proofs.Json.Record
import SwarmDeploy.Proofs.LabelSet

/-! Filters as sets of values.
The text of a filter is read as its key with every value once, in the order of the bytes. So it
depends on the set of the values alone, and sets that differ have different texts. -/

namespace SwarmDeploy.Orchestrator
open Json Text

variable {key key' value : String} {values values' : List String}

def filterMembers (values : List String) : List String :=
  (LabelSet.ofList (values.map fun v => (v, ""))).toList.map (·.1)

theorem sorted_filterMembers (values : List String) : (filterMembers values).Pairwise (· < ·) :=
  LabelSet.sorted _

theorem nodup_filterMembers (values : List String) : (filterMembers values).Nodup :=
  LabelSet.nodup_names _

theorem mem_filterMembers_iff : value ∈ filterMembers values ↔ value ∈ values := by
  rw [filterMembers, LabelSet.mem_names_ofList, List.map_map]
  exact iff_of_eq (congrArg (value ∈ ·) (List.map_id values))

theorem filterMembers_eq_iff :
    filterMembers values = filterMembers values' ↔ ∀ v, v ∈ values ↔ v ∈ values' := by
  constructor
  · intro same v
    rw [← mem_filterMembers_iff, same, mem_filterMembers_iff]
  · intro same
    have perm : (filterMembers values).Perm (filterMembers values') := by
      rw [List.perm_ext_iff_of_nodup (nodup_filterMembers values) (nodup_filterMembers values')]
      intro v
      rw [mem_filterMembers_iff, same, mem_filterMembers_iff]
    refine perm.eq_of_pairwise (fun a b _ _ less greater => ?_) (sorted_filterMembers values)
      (sorted_filterMembers values')
    exact absurd greater (String.lt_asymm less)

def filterObject (key : String) (members : List String) : Value :=
  .object [(key, .object (members.map fun v => (v, .bool true)))]

def filtersShape : Shape :=
  .dictionary (.dictionary .flag)

theorem filtersJson_eq (key : String) (values : List String) :
    filtersJson key values = filterObject key (filterMembers values) := by
  rw [filtersJson, setJson, filterObject, filterMembers, List.map_map]
  rfl

theorem view_flags {members : List String} (distinct : members.Nodup) :
    (Shape.dictionary .flag).view (.object (members.map fun v => (v, .bool true))) =
      some (.object (members.map fun v => (v, .bool true))) := by
  have names : ((members.map fun v => (v, Value.bool true)).map (·.1)).Nodup := by
    rw [List.map_map]
    exact distinct.map fun _ _ same => same
  have flags : (members.map fun v => (v, Value.bool true)).mapM (viewEntry viewFlag) =
      some (members.map fun v => (v, Value.bool true)) := by
    rw [mapM_eq_some_iff, List.forall₂_map_left_iff, List.forall₂_map_right_iff]
    exact List.forall₂_same.2 fun v _ => rfl
  simp only [Shape.view, viewDictionary, names, if_true, flags, Option.map_some]

theorem view_filterObject {members : List String} (distinct : members.Nodup) (key : String) :
    filtersShape.view (filterObject key members) = some (filterObject key members) := by
  have flags := view_flags distinct
  simp only [filtersShape, filterObject, Shape.view, viewDictionary, List.map_cons, List.map_nil,
    List.nodup_singleton, if_true, List.mapM_cons, List.mapM_nil, viewEntry] at flags ⊢
  rw [flags]
  rfl

theorem readDocument_filtersText (key : String) (values : List String) :
    filtersShape.readDocument (Utf8.ofString (filtersText key values)) =
      .ok (filterObject key (filterMembers values)) := by
  rw [filtersText, filtersJson_eq]
  exact filtersShape.readDocument_written (written_toText _)
    (view_filterObject (nodup_filterMembers values) key)

theorem filterObject_injective {members members' : List String}
    (same : filterObject key members = filterObject key' members') :
    key = key' ∧ members = members' := by
  simp only [filterObject, Value.object.injEq, List.cons.injEq, Prod.mk.injEq, and_true] at same
  refine ⟨same.1, List.map_injective_iff.2 ?_ same.2⟩
  exact fun _ _ pairs => (Prod.mk.inj pairs).1

theorem filtersText_eq_iff : filtersText key values = filtersText key' values' ↔
    key = key' ∧ ∀ v, v ∈ values ↔ v ∈ values' := by
  rw [← filterMembers_eq_iff]
  constructor
  · intro same
    have read := readDocument_filtersText key values
    rw [same, readDocument_filtersText, Except.ok.injEq] at read
    have parts := filterObject_injective read
    exact ⟨parts.1.symm, parts.2.symm⟩
  · rintro ⟨rfl, members⟩
    rw [filtersText, filtersText, filtersJson_eq, filtersJson_eq, members]

/-- A filter is written as an object with one member, whose members are the values without repeats,
in the order of their bytes and all set, and it is read as that object. Texts of filters are the
same just if the keys are, and the values as sets. -/
theorem filters_encode_sets :
    (∀ key values, ∃ members : List String,
      (members.map Utf8.ofString).Pairwise (· < ·) ∧ (∀ v, v ∈ members ↔ v ∈ values) ∧
      filtersText key values = (filterObject key members).toText ∧
      filtersShape.readDocument (Utf8.ofString (filtersText key values)) =
        .ok (filterObject key members)) ∧
    ∀ key key' values values', filtersText key values = filtersText key' values' ↔
      key = key' ∧ ∀ v, v ∈ values ↔ v ∈ values' := by
  refine ⟨fun key values => ⟨filterMembers values, ?_, fun v => mem_filterMembers_iff, ?_,
    readDocument_filtersText key values⟩, fun _ _ _ _ => filtersText_eq_iff⟩
  · exact (sorted_filterMembers values).map Utf8.ofString fun _ _ => Utf8.ofString_lt_of_lt
  · rw [filtersText, filtersJson_eq]

end SwarmDeploy.Orchestrator
