import SwarmDeploy.Proofs.Yaml.Quoted

/-! Which texts are read again as JSON has written them.
The sign for the next line never survives. A separator of lines or of paragraphs does, as long as
no space stands next to it and nothing behind it looks like the mark of a document. -/

namespace SwarmDeploy.Yaml

def nextLine : Char := Char.ofNat 0x85

/-- What may stand behind a character so that a reader of folded lines keeps both. -/
def Follows (c : Char) (rest : List Char) : Prop :=
  (isSeparator c = true → rest.head? ≠ some ' ' ∧ spellsMark rest = false) ∧
    (c = ' ' → rest.head?.any isSeparator = false)

instance (c : Char) (rest : List Char) : Decidable (Follows c rest) :=
  inferInstanceAs (Decidable (_ ∧ _))

/-- A text of which JSON leaves no character as it is that YAML forbids. -/
def Allowed (s : String) : Prop :=
  ∀ c ∈ s.toList, c.toNat < 0x20 ∨ isAllowed c = true

instance (s : String) : Decidable (Allowed s) :=
  List.decidableBAll (fun c : Char => c.toNat < 0x20 ∨ isAllowed c = true) s.toList

/-- A text that YAML reads in quotes as JSON has written it. -/
structure Durable (s : String) : Prop where
  allowed : Allowed s
  sameLine : nextLine ∉ s.toList
  follows : ∀ c rest, c :: rest <:+ s.toList → Follows c rest

def Follow : Option Char → List Char → Prop
  | _, [] => True
  | prev, c :: cs => (∀ p ∈ prev, Follows p (c :: cs)) ∧ Follow (some c) cs

instance decidableFollow : (prev : Option Char) → (cs : List Char) → Decidable (Follow prev cs)
  | _, [] => inferInstanceAs (Decidable True)
  | none, c :: cs =>
    have := decidableFollow (some c) cs
    decidable_of_iff (Follow (some c) cs) (by simp [Follow])
  | some p, c :: cs =>
    have := decidableFollow (some c) cs
    decidable_of_iff (Follows p (c :: cs) ∧ Follow (some c) cs) (by simp [Follow])

variable {c p : Char} {cs r out : List Char} {g : Gap} {gap : Option Gap} {prev : Option Char}
  {atStart : Bool}

theorem follow_some_iff :
    Follow (some p) cs ↔ ∀ c rest, c :: rest <:+ p :: cs → Follows c rest := by
  induction cs generalizing p with
  | nil => simp [Follow, List.suffix_cons_iff, Follows, spellsMark, spells, Text.dropStart]
  | cons d cs ih =>
    rw [Follow, ih]
    constructor
    · rintro ⟨first, later⟩ c rest suffix
      obtain same | inner := List.suffix_cons_iff.1 suffix
      · cases same
        exact first p rfl
      · exact later c rest inner
    · intro all
      refine ⟨?_, fun c rest inner => all c rest (List.suffix_cons_iff.2 (.inr inner))⟩
      rintro q same
      cases same
      exact all p (d :: cs) (List.suffix_refl _)

theorem follow_none_iff : Follow none cs ↔ ∀ c rest, c :: rest <:+ cs → Follows c rest := by
  cases cs with
  | nil => simp [Follow]
  | cons c cs => simp [Follow, follow_some_iff]

def Gap.Proper (g : Gap) : Prop :=
  g.broken = false → g.more = []

theorem Gap.Proper.addSpace (proper : g.Proper) (c : Char) : (g.addSpace c).Proper := by
  unfold Gap.addSpace
  split <;> exact proper

theorem Gap.proper_addBreak (g : Gap) (c : Char) : (g.addBreak c).Proper := by
  unfold Gap.addBreak
  split <;> simp [Gap.Proper, *]

theorem Gap.length_addSpace (g : Gap) (c : Char) :
    (g.addSpace c).text.length ≤ g.text.length + 1 := by
  unfold Gap.addSpace
  split
  · omega
  · simp_all [Gap.text]

theorem Gap.Proper.length_addBreak (proper : g.Proper) (c : Char) :
    (g.addBreak c).text.length ≤ g.text.length + 1 := by
  unfold Gap.addBreak
  split
  · rename_i broken
    simp only [Gap.text, broken, if_true]
    repeat' split
    all_goals simp_all
  · rename_i whole
    have none : g.more = [] := proper (by simpa using whole)
    simp only [Gap.text, none, if_true]
    repeat' split
    all_goals simp_all

/-- What one character does: it widens the gap, or it ends the gap and is read. -/
theorem refold_cons_eq_some (read : refold atStart gap (c :: cs) = some out) :
    (refold false (some ((gap.getD {}).addSpace c)) cs = some out ∧ c = ' ') ∨
      (refold true (some ((gap.getD {}).addBreak c)) cs = some out ∧ breaksRaw c = true) ∨
      breaksRaw c = false ∧ ∃ later, refold false none cs = some later ∧
        out = (gap.getD {}).text ++ [c] ++ later := by
  rw [refold] at read
  split at read
  · rename_i space
    exact .inl ⟨read, space⟩
  · split at read
    · rename_i raw
      exact .inr (.inl ⟨read, raw⟩)
    · rename_i noBreak
      split at read
      · cases read
      · obtain ⟨later, again, same⟩ := Option.map_eq_some_iff.1 read
        exact .inr (.inr ⟨by simpa using noBreak, later, again, same.symm⟩)

theorem length_refold (read : refold atStart gap cs = some out) (proper : (gap.getD {}).Proper) :
    out.length ≤ (gap.getD {}).text.length + cs.length := by
  induction cs generalizing gap atStart out with
  | nil =>
    cases read
    exact Nat.le_refl _
  | cons c cs ih =>
    obtain ⟨wider, -⟩ | ⟨wider, -⟩ | ⟨-, later, again, rfl⟩ := refold_cons_eq_some read
    · have short := ih wider (proper.addSpace c)
      have more := (gap.getD {}).length_addSpace c
      simp only [Option.getD_some, List.length_cons] at short ⊢
      omega
    · have short := ih wider (Gap.proper_addBreak _ c)
      have more := proper.length_addBreak c
      simp only [Option.getD_some, List.length_cons] at short ⊢
      omega
    · have short := ih again fun _ => rfl
      have empty : ((none : Option Gap).getD {}).text.length = 0 := rfl
      simp only [List.length_append, List.length_cons, List.length_nil]
      omega

def Gap.SameLine (g : Gap) : Prop :=
  nextLine ∉ g.spaces ∧ g.first ≠ some nextLine ∧ nextLine ∉ g.more

theorem Gap.SameLine.not_mem_text (same : g.SameLine) : nextLine ∉ g.text := by
  obtain ⟨spaces, first, more⟩ := same
  unfold Gap.text
  repeat' split
  · exact more
  · decide
  · exact more
  · rename_i c found _
    rw [found] at first
    simp only [List.mem_cons, not_or]
    exact ⟨fun eq => first (congrArg some eq.symm), more⟩
  · exact spaces

theorem Gap.SameLine.addSpace (same : g.SameLine) : (g.addSpace ' ').SameLine := by
  obtain ⟨spaces, first, more⟩ := same
  unfold Gap.addSpace
  split
  · exact ⟨spaces, first, more⟩
  · refine ⟨?_, first, more⟩
    simpa using ⟨spaces, by decide⟩

theorem Gap.SameLine.addBreak (same : g.SameLine) (raw : breaksRaw c = true) :
    (g.addBreak c).SameLine := by
  have other : readBreak c ≠ nextLine := by
    unfold readBreak
    split
    · rintro rfl
      rename_i sep
      exact absurd sep (by decide)
    · decide
  obtain ⟨spaces, first, more⟩ := same
  unfold Gap.addBreak
  split
  · exact ⟨spaces, first, by simpa using ⟨more, other.symm⟩⟩
  · exact ⟨spaces, by simpa using other, more⟩

theorem sameLine_empty : ({} : Gap).SameLine :=
  ⟨List.not_mem_nil, nofun, List.not_mem_nil⟩

theorem not_mem_refold (read : refold atStart gap cs = some out) (same : (gap.getD {}).SameLine) :
    nextLine ∉ out := by
  induction cs generalizing gap atStart out with
  | nil =>
    cases read
    exact same.not_mem_text
  | cons c cs ih =>
    obtain ⟨wider, rfl⟩ | ⟨wider, raw⟩ | ⟨noBreak, later, again, rfl⟩ := refold_cons_eq_some read
    · exact ih wider same.addSpace
    · exact ih wider (same.addBreak raw)
    · have rest := ih again sameLine_empty
      have other : nextLine ≠ c := by
        rintro rfl
        exact absurd noBreak (by decide)
      simp [same.not_mem_text, rest, other]

inductive Run : Option Char → List Char → Bool → Option Gap → Prop
  | word {prev : Option Char} (atStart : Bool)
    (ordinary : ∀ p ∈ prev, p ≠ ' ' ∧ isSeparator p = false) : Run prev [] atStart none
  | spaces (n : Nat) : Run (some ' ') (List.replicate (n + 1) ' ') false
    (some { spaces := List.replicate (n + 1) ' ' })
  | separators {last first : Char} {more : List Char} (sep : isSeparator last = true)
    (notFeed : first ≠ '\n') :
    Run (some last) (first :: more) true (some { first := some first, more, broken := true })

theorem Run.text (run : Run prev r atStart gap) : (gap.getD {}).text = r := by
  cases run with
  | word => rfl
  | spaces n => rfl
  | separators sep notFeed => simp [Gap.text, notFeed]

theorem separator_ordinary (sep : isSeparator c = true) : c ≠ ' ' ∧ c ≠ '\n' ∧ c ≠ nextLine := by
  refine ⟨?_, ?_, ?_⟩ <;> rintro rfl <;> exact absurd sep (by decide)

theorem breaksRaw_iff : breaksRaw c = true ↔ c = nextLine ∨ isSeparator c = true := by
  have named : c.toNat = 0x85 ↔ c = nextLine := by
    rw [← Char.toNat_inj]
    rfl
  simp [breaksRaw, named]

def Gap.Loses (g : Gap) (r : List Char) : Prop :=
  g.Proper ∧ g.text.length < r.length

theorem Gap.Loses.refold_ne (loses : g.Loses r) : refold atStart (some g) cs ≠ some (r ++ cs) := by
  intro read
  have short := length_refold read loses.1
  have less := loses.2
  simp only [Option.getD_some, List.length_append] at short
  omega

theorem follows_of_ordinary (ordinary : p ≠ ' ' ∧ isSeparator p = false) (cs : List Char) :
    Follows p cs :=
  ⟨fun sep => absurd sep (by simp [ordinary.2]), fun space => absurd space ordinary.1⟩

theorem Run.space (run : Run prev r atStart gap) (cs : List Char) :
    ((∀ p ∈ prev, Follows p (' ' :: cs)) ∧
        Run (some ' ') (r ++ [' ']) false (some ((gap.getD {}).addSpace ' '))) ∨
      (¬∀ p ∈ prev, Follows p (' ' :: cs)) ∧ ((gap.getD {}).addSpace ' ').Loses (r ++ [' ']) := by
  cases run with
  | word _ ordinary => exact .inl ⟨fun p mem => follows_of_ordinary (ordinary p mem) _, .spaces 0⟩
  | spaces n =>
    have wider : Run (some ' ') (List.replicate (n + 2) ' ') false
      (some { spaces := List.replicate (n + 2) ' ' }) := .spaces (n + 1)
    rw [List.replicate_succ'] at wider
    refine .inl ⟨?_, wider⟩
    rintro p same
    cases same
    exact ⟨nofun, fun _ => rfl⟩
  | separators sep notFeed =>
    refine .inr ⟨fun all => ((all _ rfl).1 sep).1 rfl, nofun, ?_⟩
    simp [Gap.addSpace, Gap.text, notFeed]

theorem Run.separator (run : Run prev r atStart gap) (sep : isSeparator c = true)
    (cs : List Char) :
    ((∀ p ∈ prev, Follows p (c :: cs)) ∧
        Run (some c) (r ++ [c]) true (some ((gap.getD {}).addBreak c))) ∨
      (¬∀ p ∈ prev, Follows p (c :: cs)) ∧ ((gap.getD {}).addBreak c).Loses (r ++ [c]) := by
  obtain ⟨notSpace, notFeed, -⟩ := separator_ordinary sep
  have kept : readBreak c = c := by simp [readBreak, sep]
  cases run with
  | word _ ordinary =>
    have first : Run (some c) [c] true (some { first := some c, more := [], broken := true }) :=
      .separators sep notFeed
    exact .inl ⟨fun p mem => follows_of_ordinary (ordinary p mem) _,
      by simpa [Gap.addBreak, kept] using first⟩
  | spaces n =>
    refine .inr ⟨fun all => ?_, nofun, ?_⟩
    · have absent := (all _ rfl).2 rfl
      simp [sep] at absent
    · simp [Gap.addBreak, Gap.text, kept, notFeed]
  | @separators last first more sepLast notFeedFirst =>
    have wider : Run (some c) (first :: (more ++ [c])) true
      (some { first := some first, more := more ++ [c], broken := true }) :=
      .separators sep notFeedFirst
    have noMark : spellsMark (c :: cs) = false := by
      apply spellsMark_of_ne <;> rintro rfl <;> exact absurd sep (by decide)
    refine .inl ⟨?_, by simpa [Gap.addBreak, kept] using wider⟩
    rintro p same
    cases same
    exact ⟨fun _ => ⟨by simpa using notSpace, noMark⟩,
      fun space => absurd space (separator_ordinary sepLast).1⟩

theorem Run.follows_iff (run : Run prev r atStart gap) (notSpace : c ≠ ' ')
    (notSep : isSeparator c = false) (cs : List Char) :
    (∀ p ∈ prev, Follows p (c :: cs)) ↔
      (gap.isSome && atStart && spellsMark (c :: cs)) = false := by
  cases run with
  | word _ ordinary => simpa using fun p mem => follows_of_ordinary (ordinary p mem) _
  | spaces n =>
    have noSep : isSeparator ' ' = false := rfl
    simp [Follows, notSep, noSep]
  | separators sep notFeed =>
    simp [Follows, sep, notSpace, (separator_ordinary sep).1]

theorem refold_eq_iff (run : Run prev r atStart gap) (sameLine : nextLine ∉ cs) :
    refold atStart gap cs = some (r ++ cs) ↔ Follow prev cs := by
  induction cs generalizing prev r atStart gap with
  | nil => simp [refold, run.text, Follow]
  | cons c cs ih =>
    have later : nextLine ∉ cs := fun mem => sameLine (List.mem_cons_of_mem c mem)
    have notNext : c ≠ nextLine := fun same => sameLine (same ▸ List.mem_cons_self)
    have split : r ++ c :: cs = r ++ [c] ++ cs := by simp
    rw [Follow, refold]
    by_cases space : c = ' '
    · subst space
      rw [if_pos rfl, split]
      obtain ⟨follows, wider⟩ | ⟨stops, loses⟩ := run.space cs
      · rw [ih wider later]
        exact ⟨fun rest => ⟨follows, rest⟩, fun both => both.2⟩
      · exact ⟨fun read => absurd read loses.refold_ne, fun both => absurd both.1 stops⟩
    · by_cases sep : isSeparator c = true
      · rw [if_neg space, if_pos (by simp [breaksRaw, sep]), split]
        obtain ⟨follows, wider⟩ | ⟨stops, loses⟩ := run.separator sep cs
        · rw [ih wider later]
          exact ⟨fun rest => ⟨follows, rest⟩, fun both => both.2⟩
        · exact ⟨fun read => absurd read loses.refold_ne, fun both => absurd both.1 stops⟩
      · have noSep : isSeparator c = false := by simpa using sep
        have noBreak : ¬breaksRaw c = true := by simp [breaksRaw_iff, notNext, noSep]
        have own : Run (some c) [] false none := .word false fun p same => by
          cases same
          exact ⟨space, noSep⟩
        rw [if_neg space, if_neg noBreak, run.follows_iff space noSep, ← ih own later, run.text,
          List.nil_append]
        cases marked : gap.isSome && atStart && spellsMark (c :: cs) with
        | true => simp
        | false => simp [Option.map_eq_some_iff]

/-- A text is read in quotes as it is if and only if no line break of it is folded. -/
theorem refold_eq_self_iff : refold false none cs = some cs ↔
    nextLine ∉ cs ∧ ∀ c rest, c :: rest <:+ cs → Follows c rest := by
  have start : Run none [] false none := .word false nofun
  rw [← follow_none_iff]
  constructor
  · intro read
    have sameLine : nextLine ∉ cs := not_mem_refold read sameLine_empty
    exact ⟨sameLine, (refold_eq_iff start sameLine).1 read⟩
  · rintro ⟨sameLine, follow⟩
    exact (refold_eq_iff start sameLine).2 follow

def reread (s : String) : Option String :=
  (refold false none s.toList).map String.ofList

theorem reread_eq_self_iff {s : String} : reread s = some s ↔
    nextLine ∉ s.toList ∧ ∀ c rest, c :: rest <:+ s.toList → Follows c rest := by
  rw [← refold_eq_self_iff, reread]
  constructor
  · intro read
    obtain ⟨cs, folded, same⟩ := Option.map_eq_some_iff.1 read
    rw [folded, ← same, String.toList_ofList]
  · intro read
    rw [read, Option.map_some, String.ofList_toList]

theorem durable_iff {s : String} : Durable s ↔ Allowed s ∧ reread s = some s := by
  rw [reread_eq_self_iff]
  exact ⟨fun d => ⟨d.allowed, d.sameLine, d.follows⟩, fun h => ⟨h.1, h.2.1, h.2.2⟩⟩

instance (s : String) : Decidable (Durable s) :=
  decidable_of_iff (Allowed s ∧ nextLine ∉ s.toList ∧ Follow none s.toList) <| by
    rw [follow_none_iff]
    exact ⟨fun h => ⟨h.1, h.2.1, h.2.2⟩, fun d => ⟨d.allowed, d.sameLine, d.follows⟩⟩

end SwarmDeploy.Yaml
