/-! Bindings: names with values, in the order in which the names first came.
Binding a name again changes its value and leaves its place. -/

namespace SwarmDeploy

/-- Names with values, in document order. -/
structure Bindings where
  toList : List (String × String)
  nodup : (toList.map (·.1)).Nodup
  deriving DecidableEq

namespace Bindings

def bind {α : Type} (name : String) (value : α) : List (String × α) → List (String × α)
  | [] => [(name, value)]
  | (k, v) :: rest => if k = name then (k, value) :: rest else (k, v) :: bind name value rest

theorem map_fst_bind {α : Type} (name : String) (value : α) (pairs : List (String × α)) :
    (bind name value pairs).map (·.1) =
      if name ∈ pairs.map (·.1) then pairs.map (·.1) else pairs.map (·.1) ++ [name] := by
  induction pairs with
  | nil => simp [bind]
  | cons pair rest ih =>
    obtain ⟨k, v⟩ := pair
    by_cases h : k = name
    · simp [bind, h]
    · simp only [bind, h, if_false, List.map_cons, ih, List.mem_cons, Ne.symm h, false_or]
      split <;> simp

theorem nodup_bind {α : Type} (name : String) (value : α) {pairs : List (String × α)}
    (h : (pairs.map (·.1)).Nodup) : ((bind name value pairs).map (·.1)).Nodup := by
  rw [map_fst_bind]
  split
  · exact h
  · rename_i absent
    rw [List.nodup_append]
    refine ⟨h, by simp, ?_⟩
    intro a mem b single
    simp only [List.mem_singleton] at single
    subst single
    exact fun eq => absent (eq ▸ mem)

theorem bind_of_not_mem {α : Type} {name : String} {pairs : List (String × α)}
    (new : name ∉ pairs.map (·.1)) (value : α) :
    bind name value pairs = pairs ++ [(name, value)] := by
  induction pairs with
  | nil => rfl
  | cons pair rest ih =>
    rw [List.map_cons, List.mem_cons, not_or] at new
    rw [bind, if_neg (Ne.symm new.1), ih new.2, List.cons_append]

def empty : Bindings := ⟨[], by simp⟩

def insert (b : Bindings) (name value : String) : Bindings :=
  ⟨bind name value b.toList, nodup_bind name value b.nodup⟩

def ofList (pairs : List (String × String)) : Bindings :=
  pairs.foldl (fun b pair => b.insert pair.1 pair.2) empty

theorem toList_foldl_insert {b : Bindings} {pairs : List (String × String)}
    (distinct : ((b.toList ++ pairs).map (·.1)).Nodup) :
    (pairs.foldl (fun b pair => b.insert pair.1 pair.2) b).toList = b.toList ++ pairs := by
  induction pairs generalizing b with
  | nil => exact (List.append_nil _).symm
  | cons pair rest ih =>
    have new : pair.1 ∉ b.toList.map (·.1) := by
      rw [List.map_append, List.nodup_append] at distinct
      exact fun mem => distinct.2.2 _ mem _ (by simp) rfl
    have added : (b.insert pair.1 pair.2).toList = b.toList ++ [pair] := bind_of_not_mem new pair.2
    rw [List.foldl_cons, ih (by rwa [added, List.append_assoc]), added, List.append_assoc]
    rfl

theorem ofList_toList (b : Bindings) : ofList b.toList = b := by
  have same : (ofList b.toList).toList = b.toList := toList_foldl_insert b.nodup
  generalize ofList b.toList = c at same
  cases b
  cases c
  cases same
  rfl

def get? (b : Bindings) (name : String) : Option String :=
  b.toList.lookup name

end Bindings
end SwarmDeploy
