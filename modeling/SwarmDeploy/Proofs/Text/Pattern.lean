import Mathlib.Computability.Language
import Mathlib.Tactic.Common
import SwarmDeploy.Text.Split

/-! Patterns as languages.
A pattern is put together from classes of characters by sequence, choice and repetition. Its words
keep to an alphabet, and a list with separators is a word for each piece between them. -/

namespace SwarmDeploy.Text
open scoped Computability

variable {p q : Char → Bool} {l m : Language Char} {cs word rest : List Char}

def oneOf (p : Char → Bool) : Language Char :=
  {cs | ∃ c, p c = true ∧ cs = [c]}

def many (l : Language Char) : Language Char :=
  l * l∗

def maybe (l : Language Char) : Language Char :=
  1 + l

def separated (separator : Char) (l : Language Char) : Language Char :=
  l * (oneOf (· == separator) * l)∗

theorem mem_oneOf : cs ∈ oneOf p ↔ ∃ c, p c = true ∧ cs = [c] :=
  Iff.rfl

theorem mem_oneOf_mul : cs ∈ oneOf p * l ↔ ∃ c tail, p c = true ∧ tail ∈ l ∧ cs = c :: tail := by
  rw [Language.mem_mul]
  constructor
  · rintro ⟨_, ⟨c, class_, rfl⟩, tail, mem, rfl⟩
    exact ⟨c, tail, class_, mem, rfl⟩
  · rintro ⟨c, tail, class_, mem, rfl⟩
    exact ⟨[c], ⟨c, class_, rfl⟩, tail, mem, rfl⟩

theorem cons_mem_oneOf_mul {c : Char} (class_ : p c = true) (mem : rest ∈ l) :
    c :: rest ∈ oneOf p * l :=
  mem_oneOf_mul.2 ⟨c, rest, class_, mem, rfl⟩

theorem mem_mul_of_nil (nil : [] ∈ l) (mem : cs ∈ m) : cs ∈ l * m :=
  Language.mem_mul.2 ⟨[], nil, cs, mem, rfl⟩

theorem mem_maybe : cs ∈ maybe l ↔ cs = [] ∨ cs ∈ l :=
  Iff.rfl

theorem nil_mem_maybe : [] ∈ maybe l :=
  mem_maybe.2 (.inl rfl)

theorem append_mem_kstar (first : word ∈ l) (later : rest ∈ l∗) : word ++ rest ∈ l∗ := by
  rw [← Language.one_add_self_mul_kstar_eq_kstar]
  exact .inr (Language.append_mem_mul first later)

/-- What holds of nothing, and of a word in front of what it holds of, holds of every repetition. -/
@[elab_as_elim]
theorem kstar_induction {motive : List Char → Prop} (mem : cs ∈ l∗) (nil : motive [])
    (append : ∀ word ∈ l, ∀ rest ∈ l∗, motive rest → motive (word ++ rest)) : motive cs := by
  obtain ⟨words, rfl, all⟩ := Language.mem_kstar.1 mem
  clear mem
  induction words with
  | nil => exact nil
  | cons word words ih =>
    obtain ⟨first, later⟩ := List.forall_mem_cons.1 all
    exact append word first _ (Language.join_mem_kstar later) (ih later)

theorem mem_kstar_oneOf : cs ∈ (oneOf p)∗ ↔ ∀ c ∈ cs, p c = true := by
  constructor
  · intro mem
    refine kstar_induction mem (by simp) ?_
    rintro _ ⟨c, class_, rfl⟩ rest - ih
    exact List.forall_mem_cons.2 ⟨class_, ih⟩
  · intro all
    induction cs with
    | nil => exact Language.nil_mem_kstar _
    | cons c cs ih =>
      obtain ⟨class_, later⟩ := List.forall_mem_cons.1 all
      have single : [c] ∈ oneOf p := ⟨c, class_, rfl⟩
      exact append_mem_kstar single (ih later)

theorem mem_many_oneOf : cs ∈ many (oneOf p) ↔ cs ≠ [] ∧ ∀ c ∈ cs, p c = true := by
  rw [many, mem_oneOf_mul]
  simp only [mem_kstar_oneOf]
  constructor
  · rintro ⟨c, tail, class_, all, rfl⟩
    exact ⟨by simp, List.forall_mem_cons.2 ⟨class_, all⟩⟩
  · rintro ⟨notEmpty, all⟩
    cases cs with
    | nil => exact absurd rfl notEmpty
    | cons c cs =>
      obtain ⟨class_, later⟩ := List.forall_mem_cons.1 all
      exact ⟨c, cs, class_, later, rfl⟩

theorem mem_oneOf_pow {n : Nat} :
    cs ∈ oneOf p ^ n ↔ cs.length = n ∧ ∀ c ∈ cs, p c = true := by
  induction n generalizing cs with
  | zero =>
    rw [pow_zero, Language.mem_one]
    constructor
    · rintro rfl
      simp
    · exact fun short => List.length_eq_zero_iff.1 short.1
  | succ n ih =>
    rw [pow_succ', mem_oneOf_mul]
    simp only [ih]
    constructor
    · rintro ⟨c, tail, class_, ⟨rfl, all⟩, rfl⟩
      exact ⟨rfl, List.forall_mem_cons.2 ⟨class_, all⟩⟩
    · rintro ⟨length, all⟩
      cases cs with
      | nil => simp at length
      | cons c cs =>
        obtain ⟨class_, later⟩ := List.forall_mem_cons.1 all
        exact ⟨c, cs, class_, ⟨by simpa using length, later⟩, rfl⟩

theorem mem_maybe_oneOf_pow {n : Nat} :
    cs ∈ maybe (oneOf p) ^ n ↔ cs.length ≤ n ∧ ∀ c ∈ cs, p c = true := by
  induction n generalizing cs with
  | zero =>
    rw [pow_zero, Language.mem_one]
    constructor
    · rintro rfl
      simp
    · exact fun short => List.length_eq_zero_iff.1 (Nat.le_zero.1 short.1)
  | succ n ih =>
    have step : cs ∈ maybe (oneOf p) ^ (n + 1) ↔
        cs ∈ maybe (oneOf p) ^ n ∨ cs ∈ oneOf p * maybe (oneOf p) ^ n := by
      rw [pow_succ', maybe, add_mul, one_mul, Language.mem_add]
    rw [step, mem_oneOf_mul]
    simp only [ih]
    constructor
    · rintro (⟨short, all⟩ | ⟨c, tail, class_, ⟨short, all⟩, rfl⟩)
      · exact ⟨by omega, all⟩
      · exact ⟨by simpa using short, List.forall_mem_cons.2 ⟨class_, all⟩⟩
    · rintro ⟨short, all⟩
      cases cs with
      | nil => exact .inl ⟨Nat.zero_le n, all⟩
      | cons c cs =>
        obtain ⟨class_, later⟩ := List.forall_mem_cons.1 all
        exact .inr ⟨c, cs, class_, ⟨by simpa using short, later⟩, rfl⟩

theorem mem_atLeast_oneOf {n : Nat} :
    cs ∈ oneOf p ^ n * (oneOf p)∗ ↔ n ≤ cs.length ∧ ∀ c ∈ cs, p c = true := by
  rw [Language.mem_mul]
  simp only [mem_oneOf_pow, mem_kstar_oneOf]
  constructor
  · rintro ⟨first, ⟨rfl, all⟩, rest, all', rfl⟩
    exact ⟨by simp, List.forall_mem_append.2 ⟨all, all'⟩⟩
  · rintro ⟨long, all⟩
    refine ⟨cs.take n, ⟨by simpa using long, ?_⟩, cs.drop n, ?_, List.take_append_drop n cs⟩
    · exact fun c mem => all c (List.mem_of_mem_take mem)
    · exact fun c mem => all c (List.mem_of_mem_drop mem)

def Over (p : Char → Bool) (l : Language Char) : Prop :=
  ∀ cs ∈ l, ∀ c ∈ cs, p c = true

theorem Over.not_mem (within : Over p l) (mem : cs ∈ l) {c : Char} (other : p c = false) :
    c ∉ cs := by
  intro occurs
  have class_ := within cs mem c occurs
  rw [other] at class_
  cases class_

theorem Over.mono (within : Over p l) (wider : ∀ c, p c = true → q c = true) : Over q l :=
  fun cs mem c occurs => wider c (within cs mem c occurs)

theorem Over.oneOf (classes : ∀ c, p c = true → q c = true) : Over q (oneOf p) := by
  rintro _ ⟨c, class_, rfl⟩ d mem
  rw [List.mem_singleton.1 mem]
  exact classes c class_

theorem Over.add (first : Over p l) (second : Over p m) : Over p (l + m) := by
  rintro cs (mem | mem)
  · exact first cs mem
  · exact second cs mem

theorem Over.mul (first : Over p l) (second : Over p m) : Over p (l * m) := by
  intro cs mem c occurs
  obtain ⟨a, inFirst, b, inSecond, rfl⟩ := Language.mem_mul.1 mem
  rcases List.mem_append.1 occurs with occurs | occurs
  · exact first a inFirst c occurs
  · exact second b inSecond c occurs

theorem Over.kstar (within : Over p l) : Over p l∗ := by
  intro cs mem
  refine kstar_induction mem (by simp) ?_
  intro word first rest _ ih c occurs
  rcases List.mem_append.1 occurs with occurs | occurs
  · exact within word first c occurs
  · exact ih c occurs

theorem Over.one : Over p 1 := by
  rintro _ rfl c occurs
  cases occurs

theorem Over.pow (within : Over p l) (n : Nat) : Over p (l ^ n) := by
  induction n with
  | zero => exact Over.one
  | succ n ih => exact pow_succ l n ▸ ih.mul within

theorem Over.many (within : Over p l) : Over p (many l) :=
  within.mul within.kstar

theorem Over.maybe (within : Over p l) : Over p (maybe l) :=
  Over.one.add within

theorem Over.separated {separator : Char} (within : Over p l) (class_ : p separator = true) :
    Over p (separated separator l) := by
  have single : Over p (Text.oneOf (· == separator)) :=
    Over.oneOf fun c same => by rwa [beq_iff_eq.1 same]
  exact within.mul (single.mul within).kstar

theorem pieces_append {c : Char} {before : List Char} (absent : c ∉ before) (after : List Char) :
    pieces c (before ++ c :: after) = before :: pieces c after := by
  induction before with
  | nil => simp [pieces]
  | cons b before ih =>
    obtain ⟨other, absent⟩ := not_or.1 (mt List.mem_cons.2 absent)
    simp [pieces, Ne.symm other, ih absent]

theorem pieces_of_not_mem {c : Char} (absent : c ∉ cs) : pieces c cs = [cs] := by
  induction cs with
  | nil => rfl
  | cons d cs ih =>
    obtain ⟨other, absent⟩ := not_or.1 (mt List.mem_cons.2 absent)
    simp [pieces, Ne.symm other, ih absent]

theorem mem_separated_of_mem {c : Char} (mem : cs ∈ l) : cs ∈ separated c l := by
  rw [← List.append_nil cs]
  exact Language.append_mem_mul mem (Language.nil_mem_kstar _)

theorem append_mem_separated {c : Char} (first : word ∈ l) (later : rest ∈ separated c l) :
    word ++ c :: rest ∈ separated c l := by
  obtain ⟨second, mem, others, inOthers, rfl⟩ := Language.mem_mul.1 later
  refine Language.append_mem_mul first ?_
  have group : c :: second ∈ oneOf (· == c) * l := cons_mem_oneOf_mul (beq_self_eq_true c) mem
  exact append_mem_kstar group inOthers

/-- A property of lists with separators, by the words from the first one on. -/
@[elab_as_elim]
theorem separated_induction {c : Char} {motive : List Char → Prop} (mem : cs ∈ separated c l)
    (single : ∀ word ∈ l, motive word)
    (append : ∀ word ∈ l, ∀ rest ∈ separated c l, motive rest → motive (word ++ c :: rest)) :
    motive cs := by
  obtain ⟨first, inFirst, others, inOthers, rfl⟩ := Language.mem_mul.1 mem
  -- The words before the one at hand are in front of what the induction is on.
  suffices all : ∀ word ∈ l, motive (word ++ others) from all first inFirst
  refine kstar_induction inOthers ?_ ?_
  · intro word inWord
    rw [List.append_nil]
    exact single word inWord
  · intro group inGroup rest inRest ih word inWord
    obtain ⟨d, second, same, inSecond, rfl⟩ := mem_oneOf_mul.1 inGroup
    rw [beq_iff_eq.1 same]
    exact append word inWord _ (Language.append_mem_mul inSecond inRest) (ih second inSecond)

theorem mem_separated_iff {c : Char} (apart : ∀ word ∈ l, c ∉ word) :
    cs ∈ separated c l ↔ ∀ piece ∈ pieces c cs, piece ∈ l := by
  constructor
  · intro mem
    refine separated_induction mem ?_ ?_
    · intro word inWord
      simpa [pieces_of_not_mem (apart word inWord)] using inWord
    · intro word inWord rest _ ih
      rw [pieces_append (apart word inWord)]
      exact List.forall_mem_cons.2 ⟨inWord, ih⟩
  · intro all
    -- The pieces are taken off one after another from the front.
    induction size : cs.length using Nat.strong_induction_on generalizing cs with
    | _ size ih =>
      cases cut : cutFirst c cs with
      | none =>
        rw [pieces_of_not_mem (cutFirst_eq_none_iff.1 cut)] at all
        exact mem_separated_of_mem (all cs (List.mem_singleton_self _))
      | some parts =>
        obtain ⟨before, after⟩ := parts
        obtain ⟨absent, rfl⟩ := cutFirst_eq_some_iff.1 cut
        rw [pieces_append absent] at all
        obtain ⟨first, later⟩ := List.forall_mem_cons.1 all
        refine append_mem_separated first (ih after.length ?_ later rfl)
        rw [← size, List.length_append, List.length_cons]
        omega

theorem exists_last_of_mem_separated {c : Char} (mem : cs ∈ separated c l) :
    ∃ before last, cs = before ++ last ∧ last ∈ l ∧
      (before = [] ∨ ∃ front, before = front ++ [c]) := by
  refine separated_induction mem ?_ ?_
  · exact fun word inWord => ⟨[], word, rfl, inWord, .inl rfl⟩
  · rintro word - rest - ⟨before, last, rfl, inLast, ends⟩
    refine ⟨word ++ c :: before, last, by simp, inLast, .inr ?_⟩
    rcases ends with rfl | ⟨front, rfl⟩
    · exact ⟨word, rfl⟩
    · exact ⟨word ++ c :: front, by simp⟩

end SwarmDeploy.Text
