/-! Label sets: labels by name, in the order of their names.
A name occurs once, and names are ordered by their code points, which is also the order of their
bytes in UTF-8. -/

namespace SwarmDeploy

/-- Labels in ascending order of their names. -/
structure LabelSet where
  toList : List (String × String)
  sorted : (toList.map (·.1)).Pairwise (· < ·)
  deriving DecidableEq

namespace LabelSet

theorem nodup_names (s : LabelSet) : (s.toList.map (·.1)).Nodup :=
  s.sorted.imp String.ne_of_lt

def put (name value : String) : List (String × String) → List (String × String)
  | [] => [(name, value)]
  | (k, v) :: rest =>
    if name < k then (name, value) :: (k, v) :: rest
    else if name = k then (name, value) :: rest
    else (k, v) :: put name value rest

theorem mem_map_fst_put {k name value : String} {labels : List (String × String)} :
    k ∈ (put name value labels).map (·.1) ↔ k = name ∨ k ∈ labels.map (·.1) := by
  induction labels with
  | nil => simp [put]
  | cons label rest ih =>
    obtain ⟨a, b⟩ := label
    simp only [put]
    split
    · simp
    · split
      · rename_i eq
        simp [eq]
      · simp only [List.map_cons, List.mem_cons, ih]
        constructor <;> (intro h; rcases h with h | h | h <;> simp [h])

theorem sorted_put (name value : String) {labels : List (String × String)}
    (h : (labels.map (·.1)).Pairwise (· < ·)) :
    ((put name value labels).map (·.1)).Pairwise (· < ·) := by
  induction labels with
  | nil => simp [put]
  | cons label rest ih =>
    obtain ⟨a, b⟩ := label
    simp only [List.map_cons, List.pairwise_cons] at h
    simp only [put]
    split
    · rename_i less
      simp only [List.map_cons, List.pairwise_cons, List.mem_cons, forall_eq_or_imp]
      exact ⟨⟨less, fun x mem => String.lt_trans less (h.1 x mem)⟩, h.1, h.2⟩
    · rename_i notLess
      split
      · rename_i eq
        subst eq
        simpa using h
      · rename_i ne
        simp only [List.map_cons, List.pairwise_cons]
        refine ⟨fun x mem => ?_, ih h.2⟩
        rcases mem_map_fst_put.1 mem with eq | old
        · subst eq
          have le : a ≤ x := String.not_lt.1 notLess
          exact Std.lt_of_le_of_ne le (Ne.symm ne)
        · exact h.1 x old

theorem put_of_forall_lt {name : String} {labels : List (String × String)}
    (last : ∀ k ∈ labels.map (·.1), k < name) (value : String) :
    put name value labels = labels ++ [(name, value)] := by
  induction labels with
  | nil => rfl
  | cons label rest ih =>
    rw [List.map_cons, List.forall_mem_cons] at last
    have notLess : ¬name < label.1 := String.lt_asymm last.1
    have ne : name ≠ label.1 := Ne.symm (String.ne_of_lt last.1)
    rw [put, if_neg notLess, if_neg ne, ih last.2, List.cons_append]

def empty : LabelSet := ⟨[], by simp⟩

def insert (s : LabelSet) (name value : String) : LabelSet :=
  ⟨put name value s.toList, sorted_put name value s.sorted⟩

def ofList (labels : List (String × String)) : LabelSet :=
  labels.foldl (fun s label => s.insert label.1 label.2) empty

theorem toList_foldl_insert {s : LabelSet} {labels : List (String × String)}
    (sorted : ((s.toList ++ labels).map (·.1)).Pairwise (· < ·)) :
    (labels.foldl (fun s label => s.insert label.1 label.2) s).toList = s.toList ++ labels := by
  induction labels generalizing s with
  | nil => exact (List.append_nil _).symm
  | cons label rest ih =>
    have last : ∀ k ∈ s.toList.map (·.1), k < label.1 := by
      rw [List.map_append, List.pairwise_append] at sorted
      exact fun k mem => sorted.2.2 k mem _ (by simp)
    have added : (s.insert label.1 label.2).toList = s.toList ++ [label] :=
      put_of_forall_lt last label.2
    rw [List.foldl_cons, ih (by rwa [added, List.append_assoc]), added, List.append_assoc]
    rfl

theorem ofList_toList (s : LabelSet) : ofList s.toList = s := by
  have same : (ofList s.toList).toList = s.toList := toList_foldl_insert s.sorted
  generalize ofList s.toList = t at same
  cases s
  cases t
  cases same
  rfl

def get? (s : LabelSet) (name : String) : Option String :=
  s.toList.lookup name

def contains (s : LabelSet) (name : String) : Bool :=
  (s.get? name).isSome

end LabelSet
end SwarmDeploy
