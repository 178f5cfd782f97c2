import SwarmDeploy.LabelSet
import SwarmDeploy.Proofs.Basic

/-! Label sets by their lookups.
An insertion changes one lookup, and sets with the same lookups are the same: the order in which
labels were inserted is not to be seen, as long as no name comes twice. -/

namespace SwarmDeploy.LabelSet

variable {s t : LabelSet} {name : String}

theorem ext_get? (same : ∀ name, s.get? name = t.get? name) : s = t := by
  have perm : s.toList.Perm t.toList := perm_of_lookup_eq s.nodup_names t.nodup_names same
  have lists : s.toList = t.toList := by
    refine perm.eq_of_pairwise (fun a b _ _ less greater => ?_) (List.pairwise_map.1 s.sorted)
      (List.pairwise_map.1 t.sorted)
    exact absurd greater (String.lt_asymm less)
  cases s
  cases t
  cases lists
  rfl

theorem lookup_put (key value : String) (labels : List (String × String)) :
    (put key value labels).lookup name = if name = key then some value else labels.lookup name := by
  induction labels with
  | nil => rw [put, lookup_cons_eq]
  | cons label rest ih =>
    obtain ⟨k, v⟩ := label
    simp only [put]
    split
    · rw [lookup_cons_eq]
    · split
      · rename_i eq
        rw [lookup_cons_eq, lookup_cons_eq, eq]
        by_cases same : name = k
        · rw [if_pos same, if_pos same]
        · rw [if_neg same, if_neg same, if_neg same]
      · rename_i ne
        rw [lookup_cons_eq, lookup_cons_eq, ih]
        by_cases first : name = k
        · rw [if_pos first, if_pos first, first, if_neg (Ne.symm ne)]
        · rw [if_neg first, if_neg first]

theorem get?_insert (s : LabelSet) (key value : String) :
    (s.insert key value).get? name = if name = key then some value else s.get? name :=
  lookup_put key value s.toList

theorem contains_insert (s : LabelSet) (key value : String) :
    (s.insert key value).contains name = (decide (name = key) || s.contains name) := by
  rw [contains, get?_insert]
  by_cases same : name = key <;> simp [same, contains]

theorem get?_foldl_insert {labels : List (String × String)}
    (distinct : (labels.map (·.1)).Nodup) (s : LabelSet) :
    (labels.foldl (fun s label => s.insert label.1 label.2) s).get? name =
      (labels.lookup name).or (s.get? name) := by
  induction labels generalizing s with
  | nil => rfl
  | cons label rest ih =>
    rw [List.map_cons, List.nodup_cons] at distinct
    rw [List.foldl_cons, ih distinct.2, get?_insert, lookup_cons_eq]
    by_cases same : name = label.1
    · rw [same, lookup_eq_none_of_not_mem distinct.1, if_pos rfl, if_pos rfl]
      rfl
    · rw [if_neg same, if_neg same]

theorem mem_names_foldl_insert {labels : List (String × String)} :
    name ∈ (labels.foldl (fun s label => s.insert label.1 label.2) s).toList.map (·.1) ↔
      name ∈ labels.map (·.1) ∨ name ∈ s.toList.map (·.1) := by
  induction labels generalizing s with
  | nil => simp
  | cons label rest ih =>
    have added : name ∈ (s.insert label.1 label.2).toList.map (·.1) ↔
        name = label.1 ∨ name ∈ s.toList.map (·.1) := mem_map_fst_put
    rw [List.foldl_cons, ih, added, List.map_cons, List.mem_cons]
    exact or_left_comm.trans or_assoc.symm

theorem mem_names_ofList {labels : List (String × String)} :
    name ∈ (ofList labels).toList.map (·.1) ↔ name ∈ labels.map (·.1) := by
  have nothing : name ∉ empty.toList.map (·.1) := List.not_mem_nil
  rw [ofList, mem_names_foldl_insert, or_iff_left nothing]

end SwarmDeploy.LabelSet
