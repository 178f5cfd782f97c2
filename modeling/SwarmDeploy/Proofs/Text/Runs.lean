import Mathlib.Data.List.Basic
import Mathlib.Data.List.TakeWhile
import Mathlib.Tactic.Common

/-! Maximal runs of a class of characters.
A run goes on until a character of another kind or an end of the text stops it. A text is cut where
a run ends, and behind the cut stand the runs that are left. -/

namespace SwarmDeploy.Text

variable {p : Char → Bool} {cs first rest before run after : List Char}

/-- Between `before` and `after` a run of the class is as long as it can be. -/
structure IsRun (p : Char → Bool) (before run after : List Char) : Prop where
  notEmpty : run ≠ []
  within : ∀ c ∈ run, p c = true
  opens : ∀ c ∈ before.getLast?, p c = false
  closes : ∀ c ∈ after.head?, p c = false

def HasRun (p : Char → Bool) (cs run : List Char) : Prop :=
  ∃ before after, cs = before ++ run ++ after ∧ IsRun p before run after

theorem IsRun.exists_head (isRun : IsRun p before run after) : ∃ c ∈ run.head?, p c = true :=
  ⟨run.head isRun.notEmpty, List.head?_eq_some_head isRun.notEmpty,
    isRun.within _ (List.head_mem isRun.notEmpty)⟩

/-- Text in front of a run leaves it maximal, unless it ends on the class right before the run. -/
theorem IsRun.append_left (first : List Char) (isRun : IsRun p before run after)
    (opens : before = [] → ∀ c ∈ first.getLast?, p c = false) :
    IsRun p (first ++ before) run after := by
  refine { isRun with opens := fun c last => ?_ }
  by_cases empty : before = []
  · rw [empty, List.append_nil] at last
    exact opens empty c last
  · rw [List.getLast?_append_of_ne_nil _ empty] at last
    exact isRun.opens c last

theorem IsRun.of_append_left (first : List Char) (isRun : IsRun p (first ++ before) run after) :
    IsRun p before run after :=
  { isRun with opens := fun c last =>
      isRun.opens c (List.mem_getLast?_append_of_mem_getLast? last) }

theorem exists_front (p : Char → Bool) (cs : List Char) :
    ∃ front rest, cs = front ++ rest ∧ (∀ c ∈ front, p c = true) ∧
      ∀ c ∈ rest.head?, p c = false := by
  refine ⟨cs.takeWhile p, cs.dropWhile p, List.takeWhile_append_dropWhile.symm,
    fun c => List.mem_takeWhile_imp, fun c head => ?_⟩
  have stops := List.head?_dropWhile_not p cs
  rw [Option.mem_def.1 head] at stops
  exact stops

theorem takeWhile_append (within : ∀ c ∈ first, p c = true)
    (closes : ∀ c ∈ rest.head?, p c = false) : (first ++ rest).takeWhile p = first := by
  rw [List.takeWhile_append_of_pos within]
  cases rest with
  | nil => simp
  | cons c rest => rw [List.takeWhile_cons_of_neg (by simp [closes c rfl]), List.append_nil]

theorem not_hasRun_nil : ¬HasRun p [] run := by
  rintro ⟨before, after, eq, isRun⟩
  simp [isRun.notEmpty] at eq

theorem hasRun_cons_of_other {c : Char} (other : p c = false) :
    HasRun p (c :: cs) run ↔ HasRun p cs run := by
  constructor
  · rintro ⟨before, after, eq, isRun⟩
    cases before with
    | nil =>
      obtain ⟨d, head, class_⟩ := isRun.exists_head
      have same : some c = some d := by
        rw [← Option.mem_def.1 head, ← List.head?_cons, eq, List.nil_append,
          List.head?_append_of_ne_nil _ isRun.notEmpty]
      rw [← Option.some.inj same, other] at class_
      cases class_
    | cons d before =>
      obtain ⟨rfl, rfl⟩ := List.cons.inj eq
      exact ⟨before, after, rfl, IsRun.of_append_left [c] isRun⟩
  · rintro ⟨before, after, rfl, isRun⟩
    refine ⟨c :: before, after, rfl, isRun.append_left [c] fun _ d last => ?_⟩
    rwa [← Option.some.inj last]

theorem hasRun_append_of_others (others : ∀ c ∈ first, p c = false) :
    HasRun p (first ++ rest) run ↔ HasRun p rest run := by
  induction first with
  | nil => rfl
  | cons c first ih =>
    obtain ⟨other, later⟩ := List.forall_mem_cons.1 others
    rw [List.cons_append, hasRun_cons_of_other other, ih later]

theorem hasRun_append_of_run (notEmpty : first ≠ []) (within : ∀ c ∈ first, p c = true)
    (closes : ∀ c ∈ rest.head?, p c = false) :
    HasRun p (first ++ rest) run ↔ run = first ∨ HasRun p rest run := by
  constructor
  · rintro ⟨before, after, eq, isRun⟩
    rw [List.append_assoc] at eq
    rcases List.append_eq_append_iff.1 eq with ⟨more, rfl, rfl⟩ | ⟨more, rfl, behind⟩
    · exact .inr ⟨more, after, (List.append_assoc _ _ _).symm, isRun.of_append_left first⟩
    · -- Were there anything in front of the run, it would end on a character of the class.
      have empty : before = [] := by
        by_contra present
        have class_ := within _ (List.mem_append_left more (List.getLast_mem present))
        rw [isRun.opens _ (List.getLast?_eq_some_getLast present)] at class_
        cases class_
      subst empty
      rw [List.nil_append] at within ⊢
      rw [← takeWhile_append isRun.within isRun.closes, behind, takeWhile_append within closes]
      exact .inl rfl
  · rintro (rfl | ⟨before, after, rfl, isRun⟩)
    · exact ⟨[], rest, rfl, notEmpty, within, by simp, closes⟩
    · refine ⟨first ++ before, after, by simp, isRun.append_left first fun empty => ?_⟩
      obtain ⟨c, head, class_⟩ := isRun.exists_head
      rw [empty, List.nil_append, List.head?_append_of_ne_nil _ isRun.notEmpty] at closes
      rw [closes c head] at class_
      cases class_

end SwarmDeploy.Text
