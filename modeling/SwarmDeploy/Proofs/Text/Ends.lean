import Mathlib.Data.List.Infix
import SwarmDeploy.Text.Blank
import SwarmDeploy.Text.Split

/-! The ends of texts.
What is left of a trimmed text is told by two facts: the text goes on with dropped characters, and
it does not end in one. Beginnings and occurrences are those of the library. -/

namespace SwarmDeploy.Text

variable {drop : Char → Bool} {cs start part kept dropped : List Char}

theorem isSome_dropStart_iff : (dropStart start cs).isSome = true ↔ start <+: cs := by
  rw [Option.isSome_iff_exists]
  refine exists_congr fun rest => ?_
  rw [dropStart_eq_some_iff, eq_comm]

theorem dropStart_eq_none_iff : dropStart start cs = none ↔ ¬start <+: cs := by
  rw [← isSome_dropStart_iff, Bool.not_eq_true, Option.isSome_eq_false_iff,
    Option.isNone_iff_eq_none]

theorem occurs_iff : occurs part cs = true ↔ part <:+: cs := by
  induction cs with
  | nil => rw [occurs, List.isEmpty_iff, List.infix_nil]
  | cons c cs ih => rw [occurs, Bool.or_eq_true, isSome_dropStart_iff, ih, List.infix_cons_iff]

def EndsOutside (drop : Char → Bool) (cs : List Char) : Prop :=
  ∀ c ∈ cs.getLast?, drop c = false

theorem endsOutside_concat {c : Char} : EndsOutside drop (cs ++ [c]) ↔ drop c = false := by
  simp [EndsOutside]

theorem EndsOutside.append (ends : EndsOutside drop cs) (notEmpty : cs ≠ []) (before : List Char) :
    EndsOutside drop (before ++ cs) := by
  rwa [EndsOutside, List.getLast?_append_of_ne_nil before notEmpty]

theorem EndsOutside.of_append {before : List Char} (ends : EndsOutside drop (before ++ cs))
    (notEmpty : cs ≠ []) : EndsOutside drop cs := by
  rwa [EndsOutside, List.getLast?_append_of_ne_nil before notEmpty] at ends

theorem endsOutside_dropEndWhile (drop : Char → Bool) (cs : List Char) :
    EndsOutside drop (dropEndWhile drop cs) := by
  induction cs with
  | nil => intro c last; cases last
  | cons c cs ih =>
    rw [dropEndWhile]
    cases rest : dropEndWhile drop cs with
    | nil =>
      cases class_ : drop c with
      | true => intro d last; cases last
      | false =>
        intro d last
        cases last
        exact class_
    | cons d ds =>
      rw [rest] at ih
      exact ih.append (List.cons_ne_nil d ds) [c]

theorem exists_dropped (drop : Char → Bool) (cs : List Char) :
    ∃ dropped, cs = dropEndWhile drop cs ++ dropped ∧ ∀ c ∈ dropped, drop c = true := by
  induction cs with
  | nil => exact ⟨[], rfl, by simp⟩
  | cons c cs ih =>
    obtain ⟨dropped, eq, all⟩ := ih
    rw [dropEndWhile]
    cases rest : dropEndWhile drop cs with
    | nil =>
      rw [rest, List.nil_append] at eq
      cases class_ : drop c with
      | true => exact ⟨c :: cs, rfl, List.forall_mem_cons.2 ⟨class_, eq ▸ all⟩⟩
      | false => exact ⟨cs, rfl, eq ▸ all⟩
    | cons d ds =>
      rw [rest] at eq
      exact ⟨dropped, congrArg (c :: ·) eq, all⟩

theorem dropEndWhile_begins (drop : Char → Bool) (cs : List Char) :
    dropEndWhile drop cs <+: cs := by
  obtain ⟨dropped, eq, -⟩ := exists_dropped drop cs
  exact ⟨dropped, eq.symm⟩

theorem dropEndWhile_append (all : ∀ c ∈ dropped, drop c = true) :
    dropEndWhile drop (kept ++ dropped) = dropEndWhile drop kept := by
  induction kept with
  | nil => exact (dropEndWhile_eq_nil_iff drop dropped).2 all
  | cons c kept ih => rw [List.cons_append, dropEndWhile, dropEndWhile, ih]

theorem dropEndWhile_eq_self (ends : EndsOutside drop cs) : dropEndWhile drop cs = cs := by
  rcases List.eq_nil_or_concat cs with rfl | ⟨before, c, rfl⟩
  · rfl
  · rw [List.concat_eq_append] at ends ⊢
    exact dropEndWhile_append_singleton drop before c (endsOutside_concat.1 ends)

theorem dropEndWhile_eq_iff : dropEndWhile drop cs = kept ↔
    EndsOutside drop kept ∧ ∃ dropped, cs = kept ++ dropped ∧ ∀ c ∈ dropped, drop c = true := by
  constructor
  · intro eq
    exact eq ▸ ⟨endsOutside_dropEndWhile drop cs, exists_dropped drop cs⟩
  · rintro ⟨ends, dropped, rfl, all⟩
    rw [dropEndWhile_append all, dropEndWhile_eq_self ends]

abbrev withoutSlashes (cs : List Char) : List Char :=
  dropEndWhile (· == '/') cs

theorem exists_slashes (cs : List Char) :
    ∃ slashes, cs = withoutSlashes cs ++ slashes ∧ ∀ c ∈ slashes, c = '/' := by
  obtain ⟨slashes, eq, all⟩ := exists_dropped (· == '/') cs
  exact ⟨slashes, eq, fun c mem => beq_iff_eq.1 (all c mem)⟩

theorem withoutSlashes_append (ends : EndsOutside (· == '/') kept)
    (all : ∀ c ∈ dropped, c = '/') : withoutSlashes (kept ++ dropped) = kept :=
  dropEndWhile_eq_iff.2 ⟨ends, dropped, rfl, fun c mem => beq_iff_eq.2 (all c mem)⟩

theorem exists_ne_slash_iff : (∃ c ∈ cs, c ≠ '/') ↔ withoutSlashes cs ≠ [] := by
  rw [Ne, dropEndWhile_eq_nil_iff]
  simp

theorem endsOutside_trim (cs : List Char) : EndsOutside isBlank (trim cs) :=
  endsOutside_dropEndWhile isBlank _

theorem trim_eq_dropEndWhile {c : Char} (first : isBlank c = false) (cs : List Char) :
    trim (c :: cs) = dropEndWhile isBlank (c :: cs) := by
  rw [trim, dropAround, List.dropWhile_cons_of_neg (by rw [first]; exact Bool.false_ne_true)]

end SwarmDeploy.Text
