import Mathlib.Data.List.Nodup

/-! Results that are no errors, and lookups in lists of pairs.
Where names are distinct a lookup is membership, so the order of the pairs makes no difference. -/

namespace SwarmDeploy

section
variable {ε ε' α β : Type}

theorem map_eq_ok_iff {x : Except ε α} {f : α → β} {b : β} :
    x.map f = .ok b ↔ ∃ a, x = .ok a ∧ f a = b := by
  cases x <;> simp [Except.map]

theorem map_eq_error_iff {x : Except ε α} {f : α → β} {e : ε} :
    x.map f = .error e ↔ x = .error e := by
  cases x <;> simp [Except.map]

theorem bind_eq_ok_iff {x : Except ε α} {f : α → Except ε β} {b : β} :
    x >>= f = .ok b ↔ ∃ a, x = .ok a ∧ f a = .ok b := by
  cases x <;> simp [bind, Except.bind]

theorem mapError_eq_ok_iff {x : Except ε α} {f : ε → ε'} {a : α} :
    x.mapError f = .ok a ↔ x = .ok a := by
  cases x <;> simp [Except.mapError]

theorem mapError_eq_error_iff {x : Except ε α} {f : ε → ε'} {e : ε'} :
    x.mapError f = .error e ↔ ∃ fault, x = .error fault ∧ f fault = e := by
  cases x <;> simp [Except.mapError]

end

variable {α : Type} {name : String} {value : α} {pairs : List (String × α)}

theorem lookup_cons_eq (key : String) (first : α) (pairs : List (String × α)) :
    ((key, first) :: pairs).lookup name = if name = key then some first else pairs.lookup name := by
  rw [List.lookup_cons]
  by_cases same : name = key
  · rw [same, beq_self_eq_true, if_pos rfl]
  · rw [beq_false_of_ne same, if_neg same]

theorem lookup_eq_none_iff : pairs.lookup name = none ↔ name ∉ pairs.map (·.1) := by
  rw [List.lookup_eq_none_iff, List.mem_map, not_exists]
  refine forall_congr' fun pair => ?_
  rw [not_and, bne_iff_ne, eq_comm (a := pair.1)]

theorem lookup_eq_none_of_not_mem (absent : name ∉ pairs.map (·.1)) : pairs.lookup name = none :=
  lookup_eq_none_iff.2 absent

theorem mem_of_lookup_eq_some (found : pairs.lookup name = some value) : (name, value) ∈ pairs := by
  obtain ⟨before, after, eq, -⟩ := List.lookup_eq_some_iff.1 found
  rw [eq]
  exact List.mem_append_right _ List.mem_cons_self

theorem lookup_eq_some_of_mem (distinct : (pairs.map (·.1)).Nodup) {pair : String × α}
    (mem : pair ∈ pairs) : pairs.lookup pair.1 = some pair.2 := by
  induction pairs with
  | nil => cases mem
  | cons first rest ih =>
    rw [List.map_cons, List.nodup_cons] at distinct
    rcases List.mem_cons.1 mem with rfl | later
    · rw [lookup_cons_eq, if_pos rfl]
    · have other : pair.1 ≠ first.1 := by
        intro equal
        exact distinct.1 (equal ▸ List.mem_map_of_mem later)
      rw [lookup_cons_eq, if_neg other, ih distinct.2 later]

theorem lookup_eq_some_iff (distinct : (pairs.map (·.1)).Nodup) :
    pairs.lookup name = some value ↔ (name, value) ∈ pairs :=
  ⟨mem_of_lookup_eq_some, lookup_eq_some_of_mem distinct⟩

theorem perm_of_lookup_eq {pairs' : List (String × α)} (distinct : (pairs.map (·.1)).Nodup)
    (distinct' : (pairs'.map (·.1)).Nodup)
    (same : ∀ name, pairs.lookup name = pairs'.lookup name) : pairs.Perm pairs' := by
  rw [List.perm_ext_iff_of_nodup distinct.of_map distinct'.of_map]
  rintro ⟨name, value⟩
  rw [← lookup_eq_some_iff distinct, same, lookup_eq_some_iff distinct']

end SwarmDeploy
