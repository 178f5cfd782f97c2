/-! Cutting a text at a separator: at its first place, at its last place, or everywhere. -/

namespace SwarmDeploy.Text

def cutFirst (c : Char) : List Char → Option (List Char × List Char)
  | [] => none
  | d :: ds =>
    if d = c then some ([], ds)
    else (cutFirst c ds).map fun parts => (d :: parts.1, parts.2)

def cutLast (c : Char) : List Char → Option (List Char × List Char)
  | [] => none
  | d :: ds =>
    match cutLast c ds with
    | some parts => some (d :: parts.1, parts.2)
    | none => if d = c then some ([], ds) else none

def beforeFirst (c : Char) (cs : List Char) : List Char :=
  match cutFirst c cs with
  | some parts => parts.1
  | none => cs

/-- The pieces of a text between the places of `c`; there is always at least one. -/
def pieces (c : Char) : List Char → List (List Char)
  | [] => [[]]
  | d :: ds =>
    if d = c then [] :: pieces c ds
    else
      match pieces c ds with
      | [] => [[d]]
      | p :: ps => (d :: p) :: ps

def dropStart : List Char → List Char → Option (List Char)
  | [], cs => some cs
  | _ :: _, [] => none
  | a :: start, c :: cs => if a = c then dropStart start cs else none

def occurs (part : List Char) : List Char → Bool
  | [] => part.isEmpty
  | c :: cs => (dropStart part (c :: cs)).isSome || occurs part cs

theorem cutFirst_eq_some_iff {c : Char} {cs before after : List Char} :
    cutFirst c cs = some (before, after) ↔ c ∉ before ∧ cs = before ++ c :: after := by
  induction cs generalizing before with
  | nil => simp [cutFirst]
  | cons d ds ih =>
    by_cases h : d = c
    · subst h
      simp only [cutFirst, if_true, Option.some.injEq, Prod.mk.injEq]
      constructor
      · rintro ⟨rfl, rfl⟩
        simp
      · rintro ⟨absent, eq⟩
        cases before with
        | nil => simpa using eq
        | cons b bs =>
          simp only [List.cons_append, List.cons.injEq] at eq
          exact absurd (eq.1 ▸ List.mem_cons_self) absent
    · simp only [cutFirst, h, if_false, Option.map_eq_some_iff, Prod.mk.injEq]
      constructor
      · rintro ⟨⟨b, a⟩, found, rfl, rfl⟩
        obtain ⟨absent, eq⟩ := ih.1 found
        exact ⟨by simp [absent, Ne.symm h], by simp [eq]⟩
      · rintro ⟨absent, eq⟩
        cases before with
        | nil => simp at eq; exact absurd eq.1 h
        | cons b bs =>
          simp only [List.cons_append, List.cons.injEq] at eq
          simp only [List.mem_cons, not_or] at absent
          exact ⟨(bs, after), ih.2 ⟨absent.2, eq.2⟩, by simp [eq.1], rfl⟩

theorem cutFirst_eq_none_iff {c : Char} {cs : List Char} : cutFirst c cs = none ↔ c ∉ cs := by
  induction cs with
  | nil => simp [cutFirst]
  | cons d ds ih =>
    by_cases h : d = c
    · simp [cutFirst, h]
    · simp [cutFirst, h, ih, Ne.symm h]

theorem beforeFirst_of_absent {c : Char} {cs : List Char} (absent : c ∉ cs) :
    beforeFirst c cs = cs := by
  simp only [beforeFirst, cutFirst_eq_none_iff.2 absent]

theorem beforeFirst_append {c : Char} {cs : List Char} (absent : c ∉ cs) (rest : List Char) :
    beforeFirst c (cs ++ c :: rest) = cs := by
  have cut : cutFirst c (cs ++ c :: rest) = some (cs, rest) := cutFirst_eq_some_iff.2 ⟨absent, rfl⟩
  simp only [beforeFirst, cut]

theorem cutLast_eq_none {c : Char} {cs : List Char} (absent : c ∉ cs) : cutLast c cs = none := by
  induction cs with
  | nil => rfl
  | cons d ds ih =>
    simp only [List.mem_cons, not_or] at absent
    simp [cutLast, ih absent.2, Ne.symm absent.1]

theorem cutLast_append_cons {c : Char} (before : List Char) {after : List Char}
    (absent : c ∉ after) : cutLast c (before ++ c :: after) = some (before, after) := by
  induction before with
  | nil => simp [cutLast, cutLast_eq_none absent]
  | cons b bs ih => simp [cutLast, ih]

theorem cutLast_eq_some_iff {c : Char} {cs before after : List Char} :
    cutLast c cs = some (before, after) ↔ c ∉ after ∧ cs = before ++ c :: after := by
  constructor
  · intro found
    have mem : c ∈ cs := by
      apply Decidable.byContradiction
      intro absent
      simp [cutLast_eq_none absent] at found
    obtain ⟨b, a, eq, absent⟩ := List.eq_append_cons_of_mem (List.mem_reverse.2 mem)
    have eq' : cs = a.reverse ++ c :: b.reverse := by
      simpa using congrArg List.reverse eq
    have absent' : c ∉ b.reverse := by simpa using absent
    rw [eq', cutLast_append_cons _ absent'] at found
    cases found
    exact ⟨absent', eq'⟩
  · rintro ⟨absent, rfl⟩
    exact cutLast_append_cons before absent

theorem pieces_ne_nil (c : Char) (cs : List Char) : pieces c cs ≠ [] := by
  cases cs with
  | nil => simp [pieces]
  | cons d ds =>
    simp only [pieces]
    split
    · simp
    · split <;> simp

theorem length_pieces (c : Char) (cs : List Char) : (pieces c cs).length = cs.count c + 1 := by
  induction cs with
  | nil => simp [pieces]
  | cons d ds ih =>
    by_cases h : d = c
    · simp [pieces, h, ih]
    · simp only [pieces, h, if_false, List.count_cons, beq_iff_eq, Nat.add_zero]
      split
      · rename_i none
        exact absurd none (pieces_ne_nil c ds)
      · rename_i split
        rw [split] at ih
        simpa using ih

theorem dropStart_eq_some_iff {start cs rest : List Char} :
    dropStart start cs = some rest ↔ cs = start ++ rest := by
  induction start generalizing cs with
  | nil => simp [dropStart]
  | cons a start ih =>
    cases cs with
    | nil => simp [dropStart]
    | cons c cs =>
      by_cases h : a = c
      · simp [dropStart, h, ih]
      · simp [dropStart, h, Ne.symm h]

end SwarmDeploy.Text
