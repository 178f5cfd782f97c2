import SwarmDeploy.Proofs.Image.Stages

/-! The domains of references, and which of them are hosts.
The first component of a qualified text is a domain or a path component. A path component is a
host as well, unless there is an underscore in it. -/

namespace SwarmDeploy.Image
open SwarmDeploy.Text
open scoped Computability

variable {cs : List Char}

theorem isLetterOrDigit_of_isLowerOrDigit {c : Char} (class_ : isLowerOrDigit c = true) :
    isLetterOrDigit c = true := by
  simp only [isLowerOrDigit, isLetterOrDigit, isLetter, Bool.or_eq_true] at class_ ⊢
  tauto

theorem mem_domainComponent_iff : cs ∈ Pattern.domainComponent ↔
    (∀ c ∈ cs, isDomainCharacter c = true) ∧ (∃ c ∈ cs.head?, isLetterOrDigit c = true) ∧
      ∃ c ∈ cs.getLast?, isLetterOrDigit c = true :=
  isDomainComponent_iff.symm.trans isDomainComponent_eq_true

theorem mem_domainComponent_of_mem_many (mem : cs ∈ many (oneOf isLowerOrDigit)) :
    cs ∈ Pattern.domainComponent := by
  obtain ⟨notEmpty, lower⟩ := mem_many_oneOf.1 mem
  have all : ∀ c ∈ cs, isLetterOrDigit c = true := fun c mem =>
    isLetterOrDigit_of_isLowerOrDigit (lower c mem)
  refine mem_domainComponent_iff.2 ⟨fun c mem => ?_, ⟨cs.head notEmpty, ?_, ?_⟩,
    ⟨cs.getLast notEmpty, ?_, ?_⟩⟩
  · simp [isDomainCharacter, all c mem]
  · exact List.head?_eq_some_head notEmpty
  · exact all _ (List.head_mem notEmpty)
  · exact List.getLast?_eq_some_getLast notEmpty
  · exact all _ (List.getLast_mem notEmpty)

theorem append_mem_domainComponent {component hyphens word : List Char}
    (mem : component ∈ Pattern.domainComponent) (run : hyphens ∈ (oneOf (· == '-'))∗)
    (inWord : word ∈ many (oneOf isLowerOrDigit)) :
    component ++ (hyphens ++ word) ∈ Pattern.domainComponent := by
  obtain ⟨all, ⟨first, head, class_⟩, -⟩ := mem_domainComponent_iff.1 mem
  obtain ⟨all', -, ⟨last, getLast, class'⟩⟩ :=
    mem_domainComponent_iff.1 (mem_domainComponent_of_mem_many inWord)
  have middle : ∀ c ∈ hyphens, isDomainCharacter c = true := fun c mem => by
    simp [isDomainCharacter, beq_iff_eq.1 (mem_kstar_oneOf.1 run c mem)]
  rw [Option.mem_def] at head getLast
  refine mem_domainComponent_iff.2 ⟨?_, ⟨first, ?_, class_⟩, ⟨last, ?_, class'⟩⟩
  · simp only [List.forall_mem_append]
    exact ⟨all, middle, all'⟩
  · simp [head]
  · simp [getLast]

/-- A group without underscores makes the component longer, or begins another one behind a dot. -/
theorem append_mem_host {groups : List Char} (inGroups : groups ∈ Pattern.groups) :
    '_' ∉ groups → ∀ component ∈ Pattern.domainComponent, component ++ groups ∈ Pattern.host := by
  refine kstar_induction inGroups ?_ ?_
  · intro _ component mem
    rw [List.append_nil]
    exact mem_separated_of_mem mem
  · intro group inGroup rest _ ih noUnderscore component mem
    obtain ⟨separator, inSeparator, word, inWord, rfl⟩ := Language.mem_mul.1 inGroup
    simp only [List.mem_append, not_or] at noUnderscore
    obtain ⟨⟨noUnderscore, -⟩, later⟩ := noUnderscore
    rcases inSeparator with (⟨c, class_, rfl⟩ | double) | run
    · rcases Bool.or_eq_true_iff.1 class_ with same | same
      · rw [beq_iff_eq.1 same, List.append_assoc, List.singleton_append]
        exact append_mem_separated mem (ih later word (mem_domainComponent_of_mem_many inWord))
      · rw [beq_iff_eq.1 same] at noUnderscore
        exact absurd (List.mem_singleton_self _) noUnderscore
    · obtain ⟨c, tail, same, -, rfl⟩ := mem_oneOf_mul.1 double
      rw [beq_iff_eq.1 same] at noUnderscore
      exact absurd List.mem_cons_self noUnderscore
    · rw [← List.append_assoc]
      exact ih later _ (append_mem_domainComponent mem run inWord)

theorem mem_host_of_mem_pathComponent (mem : cs ∈ Pattern.pathComponent)
    (noUnderscore : '_' ∉ cs) : cs ∈ Pattern.host := by
  obtain ⟨word, inWord, groups, inGroups, rfl⟩ := Language.mem_mul.1 mem
  rw [List.mem_append, not_or] at noUnderscore
  exact append_mem_host inGroups noUnderscore.2 word (mem_domainComponent_of_mem_many inWord)

theorem underscore_not_mem_domain (mem : cs ∈ Pattern.domain) : '_' ∉ cs :=
  over_domain.not_mem mem (by decide)

theorem mem_domain_of_mem_host (mem : cs ∈ Pattern.host) : cs ∈ Pattern.domain := by
  rw [← List.append_nil cs]
  exact Language.append_mem_mul mem nil_mem_maybe

theorem first_of_name {first rest : List Char} (noSlash : '/' ∉ first)
    (mem : first ++ '/' :: rest ∈ Pattern.name) :
    first ∈ Pattern.pathComponent ∨ first ∈ Pattern.domain := by
  have accepted := ((isName_append noSlash rest).1 (isName_iff.2 mem)).2
  rwa [isPathComponent_iff, isDomain_iff] at accepted

/-- The domain of a reference is a host, with a port or without one, unless there is an underscore
in it; it is a path component then. -/
theorem domain_is_host_iff {text : String} {r : Reference}
    (parsed : Reference.parseNormalized text = .ok r) :
    (r.domain.toList ∈ Pattern.domain ↔ '_' ∉ r.domain.toList) ∧
      (r.domain.toList ∈ Pattern.domain ∨ r.domain.toList ∈ Pattern.pathComponent) := by
  have decides := decides_parseNormalized text
  rw [parsed] at decides
  cases decides with
  | @reference p path notHex lower made short name =>
    have noSlash := (splitDomain_isQualified text.toList).noSlash
    have first := first_of_name noSlash (name ▸ made.1.name)
    simp only [String.toList_ofList]
    refine ⟨⟨underscore_not_mem_domain, fun noUnderscore => ?_⟩, first.symm⟩
    rcases first with component | domain
    · exact mem_domain_of_mem_host (mem_host_of_mem_pathComponent component noUnderscore)
    · exact domain

theorem portedImage_domain_is_host :
    Reference.parseNormalized "registry.local:5000/team/fn" =
        .ok ⟨"registry.local:5000", "team/fn", none, none⟩ ∧
      ("registry.local:5000".toList ∈ Pattern.domain ↔ '_' ∉ "registry.local:5000".toList) := by
  have parsed : Reference.parseNormalized "registry.local:5000/team/fn" =
      .ok ⟨"registry.local:5000", "team/fn", none, none⟩ := by rfl
  exact ⟨parsed, (domain_is_host_iff parsed).1⟩

/-- An underscore and a dot: the component counts as a host but follows the path grammar only. -/
theorem underscore_domain_is_no_host :
    Reference.parseNormalized "a_b.c/x" = .ok ⟨"a_b.c", "x", none, none⟩ ∧
      "a_b.c".toList ∉ Pattern.domain := by
  refine ⟨by rfl, fun mem => underscore_not_mem_domain mem ?_⟩
  decide

end SwarmDeploy.Image
