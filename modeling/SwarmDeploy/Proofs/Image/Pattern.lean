import SwarmDeploy.Image.Grammar
import SwarmDeploy.Proofs.Text.Pattern

/-! The pattern of image references, as languages.
The tests for domains and path components accept the words of their languages. A domain is cut at
its separators; a path component is read by states, each of which leaves open what may follow. -/

namespace SwarmDeploy.Image
open SwarmDeploy.Text
open scoped Computability

def isDomainCharacter (c : Char) : Bool :=
  isLetterOrDigit c || c == '-'

def isPathCharacter (c : Char) : Bool :=
  isLowerOrDigit c || c == '.' || c == '_' || c == '-'

def isNameCharacter (c : Char) : Bool :=
  isDomainCharacter c || c == '.' || c == ':' || c == '_' || c == '/'

def isAlgorithmSeparator (c : Char) : Bool :=
  c == '-' || c == '_' || c == '+' || c == '.'

namespace Pattern

def domainComponent : Language Char :=
  oneOf isLetterOrDigit + oneOf isLetterOrDigit * (oneOf isDomainCharacter)∗ * oneOf isLetterOrDigit

def host : Language Char :=
  separated '.' domainComponent

def domain : Language Char :=
  host * maybe (oneOf (· == ':') * many (oneOf isAsciiDigit))

/-- A dot, an underscore or two of them, or hyphens, of which there may be none. -/
def separator : Language Char :=
  oneOf (fun c => c == '.' || c == '_') + oneOf (· == '_') * oneOf (· == '_') + (oneOf (· == '-'))∗

def pathComponent : Language Char :=
  many (oneOf isLowerOrDigit) * (separator * many (oneOf isLowerOrDigit))∗

def name : Language Char :=
  maybe (domain * oneOf (· == '/')) * separated '/' pathComponent

def tag : Language Char :=
  oneOf isTagStart * maybe (oneOf isTagCharacter) ^ 127

def algorithmWord : Language Char :=
  oneOf isLetter * (oneOf isLetterOrDigit)∗

def algorithm : Language Char :=
  algorithmWord * (oneOf isAlgorithmSeparator * algorithmWord)∗

def digest : Language Char :=
  algorithm * (oneOf (· == ':') * (oneOf isHexDigit ^ 32 * (oneOf isHexDigit)∗))

def hexId : Language Char :=
  oneOf (fun c => isAsciiDigit c || ('a' ≤ c && c ≤ 'f')) ^ 64

end Pattern

variable {cs : List Char}

theorem isDomainComponent_eq_true : isDomainComponent cs = true ↔
    (∀ c ∈ cs, isDomainCharacter c = true) ∧ (∃ c ∈ cs.head?, isLetterOrDigit c = true) ∧
      ∃ c ∈ cs.getLast?, isLetterOrDigit c = true := by
  simp [isDomainComponent, isDomainCharacter, Option.any_eq_true]

theorem isDomainComponent_iff : isDomainComponent cs = true ↔ cs ∈ Pattern.domainComponent := by
  have inner : ∀ c, isLetterOrDigit c = true → isDomainCharacter c = true := by
    intro c class_
    simp [isDomainCharacter, class_]
  rw [isDomainComponent_eq_true, Pattern.domainComponent, Language.mem_add, mul_assoc,
    mem_oneOf_mul]
  simp only [Language.mem_mul, mem_kstar_oneOf, mem_oneOf]
  constructor
  · rintro ⟨all, first, last⟩
    cases cs with
    | nil => simp at first
    | cons c cs =>
      rcases List.eq_nil_or_concat cs with rfl | ⟨middle, e, rfl⟩
      · exact .inl ⟨c, by simpa using first, rfl⟩
      · refine .inr ⟨c, middle.concat e, by simpa using first, ⟨middle, ?_, [e], ?_, ?_⟩, rfl⟩
        · exact fun d mem => all d (by simp [mem])
        · exact ⟨e, by simpa [List.getLast?_cons] using last, rfl⟩
        · simp
  · rintro (⟨c, class_, rfl⟩ | ⟨c, _, class_, ⟨middle, all, _, ⟨e, class', rfl⟩, rfl⟩, rfl⟩)
    · simp [class_, inner]
    · refine ⟨?_, by simpa using class_, by simpa [List.getLast?_cons] using class'⟩
      rw [List.forall_mem_cons, List.forall_mem_append, List.forall_mem_singleton]
      exact ⟨inner c class_, all, inner e class'⟩

theorem over_domainComponent : Over isDomainCharacter Pattern.domainComponent := by
  have ends : Over isDomainCharacter (oneOf isLetterOrDigit) := Over.oneOf fun c class_ => by
    simp [isDomainCharacter, class_]
  have middle : Over isDomainCharacter (oneOf isDomainCharacter) :=
    Over.oneOf fun c class_ => class_
  exact ends.add ((ends.mul middle.kstar).mul ends)

theorem isHost_iff : isHost cs = true ↔ cs ∈ Pattern.host := by
  have apart : ∀ word ∈ Pattern.domainComponent, '.' ∉ word :=
    fun word mem => over_domainComponent.not_mem mem (by decide)
  rw [isHost, List.all_eq_true, Pattern.host, mem_separated_iff apart]
  simp only [isDomainComponent_iff]

theorem over_host : Over (fun c => isDomainCharacter c || c == '.') Pattern.host :=
  Over.separated (fun word mem c occurs => by simp [over_domainComponent word mem c occurs]) rfl

theorem isDomain_iff : isDomain cs = true ↔ cs ∈ Pattern.domain := by
  have port : ∀ {ds : List Char}, isPort ds = true ↔ ds ∈ many (oneOf isAsciiDigit) := by
    intro ds
    simp [isPort, mem_many_oneOf]
  rw [Pattern.domain, Language.mem_mul]
  simp only [mem_maybe, mem_oneOf_mul, isDomain]
  constructor
  · intro accepted
    split at accepted
    · exact ⟨cs, isHost_iff.1 accepted, [], .inl rfl, List.append_nil cs⟩
    · rename_i host digits cut
      obtain ⟨-, rfl⟩ := cutFirst_eq_some_iff.1 cut
      obtain ⟨hosted, ported⟩ := Bool.and_eq_true_iff.1 accepted
      exact ⟨host, isHost_iff.1 hosted, ':' :: digits,
        .inr ⟨':', digits, rfl, port.1 ported, rfl⟩, rfl⟩
  · rintro ⟨host, hosted, behind, rest, rfl⟩
    have absent : ':' ∉ host := over_host.not_mem hosted (by decide)
    rcases rest with rfl | ⟨c, digits, same, ported, rfl⟩
    · rw [List.append_nil, cutFirst_eq_none_iff.2 absent]
      exact isHost_iff.2 hosted
    · rw [beq_iff_eq.1 same, cutFirst_eq_some_iff.2 ⟨absent, rfl⟩]
      exact Bool.and_eq_true_iff.2 ⟨isHost_iff.2 hosted, port.2 ported⟩

theorem over_domain :
    Over (fun c => isDomainCharacter c || c == '.' || c == ':') Pattern.domain := by
  refine Over.mul ?_ (Over.maybe (Over.mul ?_ (Over.many ?_)))
  · exact fun word mem c occurs => Bool.or_eq_true_iff.2 (.inl (over_host word mem c occurs))
  · exact Over.oneOf fun c same => by simp [beq_iff_eq.1 same]
  · exact Over.oneOf fun c digit => by simp [isDomainCharacter, isLetterOrDigit, digit]

def Pattern.groups : Language Char :=
  (Pattern.separator * many (oneOf isLowerOrDigit))∗

def ComponentState.follows : ComponentState → Language Char
  | .word => (oneOf isLowerOrDigit)∗ * Pattern.groups
  | .underscore => maybe (oneOf (· == '_')) * Pattern.pathComponent
  | .hyphens => (oneOf (· == '-'))∗ * Pattern.pathComponent
  | _ => Pattern.pathComponent

theorem append_mem_groups {separator word rest : List Char} (mem : separator ∈ Pattern.separator)
    (inWord : word ∈ many (oneOf isLowerOrDigit)) (inRest : rest ∈ Pattern.groups) :
    separator ++ (word ++ rest) ∈ Pattern.groups := by
  rw [← List.append_assoc]
  exact append_mem_kstar (Language.append_mem_mul mem inWord) inRest

theorem append_mem_follows_word {separator component : List Char}
    (mem : separator ∈ Pattern.separator) (inComponent : component ∈ Pattern.pathComponent) :
    separator ++ component ∈ ComponentState.follows .word := by
  obtain ⟨word, inWord, rest, inRest, rfl⟩ := Language.mem_mul.1 inComponent
  exact mem_mul_of_nil (Language.nil_mem_kstar _) (append_mem_groups mem inWord inRest)

theorem cons_mem_pathComponent {c : Char} (class_ : isLowerOrDigit c = true)
    (mem : cs ∈ ComponentState.follows .word) : c :: cs ∈ Pattern.pathComponent := by
  obtain ⟨word, inWord, rest, inRest, rfl⟩ := Language.mem_mul.1 mem
  exact Language.append_mem_mul (cons_mem_oneOf_mul class_ inWord) inRest

theorem cons_mem_follows {c : Char} (class_ : isLowerOrDigit c = true)
    (mem : cs ∈ ComponentState.follows .word) (s : ComponentState) : c :: cs ∈ s.follows := by
  have component := cons_mem_pathComponent class_ mem
  cases s with
  | word =>
    obtain ⟨word, inWord, rest, inRest, rfl⟩ := Language.mem_mul.1 mem
    have single : [c] ∈ oneOf isLowerOrDigit := ⟨c, class_, rfl⟩
    exact Language.append_mem_mul (append_mem_kstar single inWord) inRest
  | underscore => exact mem_mul_of_nil nil_mem_maybe component
  | hyphens => exact mem_mul_of_nil (Language.nil_mem_kstar _) component
  | start => exact component
  | dot => exact component
  | underscores => exact component

theorem next_separator {c : Char} {s t : ComponentState} (other : isLowerOrDigit c = false)
    (next : s.next c = some t) :
    (s = .word ∧ (c = '.' ∧ t = .dot ∨ c = '_' ∧ t = .underscore ∨ c = '-' ∧ t = .hyphens)) ∨
      (s = .underscore ∧ c = '_' ∧ t = .underscores) ∨ (s = .hyphens ∧ c = '-' ∧ t = .hyphens) := by
  simp only [ComponentState.next, other, Bool.false_eq_true, if_false] at next
  cases s with
  | word =>
    simp only at next
    split_ifs at next with dot underscore hyphen
    · cases next
      exact .inl ⟨rfl, .inl ⟨dot, rfl⟩⟩
    · cases next
      exact .inl ⟨rfl, .inr (.inl ⟨underscore, rfl⟩)⟩
    · cases next
      exact .inl ⟨rfl, .inr (.inr ⟨hyphen, rfl⟩)⟩
  | underscore =>
    simp only at next
    split_ifs at next with underscore
    cases next
    exact .inr (.inl ⟨rfl, underscore, rfl⟩)
  | hyphens =>
    simp only at next
    split_ifs at next with hyphen
    cases next
    exact .inr (.inr ⟨rfl, hyphen, rfl⟩)
  | start => cases next
  | dot => cases next
  | underscores => cases next

theorem cons_mem_follows_of_separator {c : Char} {s t : ComponentState}
    (other : isLowerOrDigit c = false) (next : s.next c = some t) (mem : cs ∈ t.follows) :
    c :: cs ∈ s.follows := by
  have hyphen : ['-'] ∈ oneOf (· == '-') := ⟨'-', rfl, rfl⟩
  have underscore : ['_'] ∈ oneOf (· == '_') := ⟨'_', rfl, rfl⟩
  rcases next_separator other next with
    ⟨rfl, ⟨rfl, rfl⟩ | ⟨rfl, rfl⟩ | ⟨rfl, rfl⟩⟩ | ⟨rfl, rfl, rfl⟩ | ⟨rfl, rfl, rfl⟩
  · have single : ['.'] ∈ Pattern.separator := .inl (.inl ⟨'.', rfl, rfl⟩)
    exact append_mem_follows_word single mem
  · obtain ⟨second, inSecond, component, inComponent, rfl⟩ := Language.mem_mul.1 mem
    rcases mem_maybe.1 inSecond with rfl | inSecond
    · have single : ['_'] ∈ Pattern.separator := .inl (.inl ⟨'_', rfl, rfl⟩)
      exact append_mem_follows_word single inComponent
    · have double : '_' :: second ∈ Pattern.separator :=
        .inl (.inr (Language.append_mem_mul underscore inSecond))
      exact append_mem_follows_word double inComponent
  · obtain ⟨hyphens, inHyphens, component, inComponent, rfl⟩ := Language.mem_mul.1 mem
    have run : '-' :: hyphens ∈ Pattern.separator := .inr (append_mem_kstar hyphen inHyphens)
    exact append_mem_follows_word run inComponent
  · exact Language.append_mem_mul (mem_maybe.2 (.inr underscore)) mem
  · obtain ⟨hyphens, inHyphens, component, inComponent, rfl⟩ := Language.mem_mul.1 mem
    exact Language.append_mem_mul (append_mem_kstar hyphen inHyphens) inComponent

theorem exists_next_of_accepts {c : Char} {s : ComponentState}
    (accepted : s.accepts (c :: cs) = true) : ∃ t, s.next c = some t ∧ t.accepts cs = true := by
  simp only [ComponentState.accepts] at accepted
  split at accepted
  · rename_i t next
    exact ⟨t, next, accepted⟩
  · cases accepted

theorem mem_follows_of_accepts {s : ComponentState} (accepted : s.accepts cs = true) :
    cs ∈ s.follows := by
  induction cs generalizing s with
  | nil =>
    have only : s = .word := by simpa [ComponentState.accepts] using accepted
    rw [only]
    exact Language.append_mem_mul (Language.nil_mem_kstar _) (Language.nil_mem_kstar _)
  | cons c cs ih =>
    by_cases class_ : isLowerOrDigit c = true
    · have next : s.next c = some .word := by simp [ComponentState.next, class_]
      simp only [ComponentState.accepts, next] at accepted
      exact cons_mem_follows class_ (ih accepted) s
    · obtain ⟨t, next, later⟩ := exists_next_of_accepts accepted
      exact cons_mem_follows_of_separator (by simpa using class_) next (ih later)

theorem accepts_lower {word : List Char} (mem : word ∈ many (oneOf isLowerOrDigit))
    (s : ComponentState) (rest : List Char) :
    s.accepts (word ++ rest) = ComponentState.word.accepts rest := by
  obtain ⟨notEmpty, all⟩ := mem_many_oneOf.1 mem
  clear mem
  induction word generalizing s with
  | nil => exact absurd rfl notEmpty
  | cons c word ih =>
    obtain ⟨class_, later⟩ := List.forall_mem_cons.1 all
    have next : s.next c = some .word := by simp [ComponentState.next, class_]
    simp only [List.cons_append, ComponentState.accepts, next]
    cases word with
    | nil => rfl
    | cons d word => exact ih .word (by simp) later

theorem accepts_hyphens {hyphens : List Char} (all : ∀ c ∈ hyphens, c = '-') (rest : List Char) :
    ComponentState.hyphens.accepts (hyphens ++ rest) = ComponentState.hyphens.accepts rest := by
  induction hyphens with
  | nil => rfl
  | cons c hyphens ih =>
    obtain ⟨rfl, later⟩ := List.forall_mem_cons.1 all
    have next : ComponentState.hyphens.next '-' = some .hyphens := by decide
    simp only [List.cons_append, ComponentState.accepts, next, ih later]

theorem accepts_group {group : List Char}
    (mem : group ∈ Pattern.separator * many (oneOf isLowerOrDigit)) (rest : List Char) :
    ComponentState.word.accepts (group ++ rest) = ComponentState.word.accepts rest := by
  obtain ⟨separator, inSeparator, word, inWord, rfl⟩ := Language.mem_mul.1 mem
  have lower := fun s => accepts_lower inWord s rest
  rw [List.append_assoc]
  rcases inSeparator with (⟨c, class_, rfl⟩ | double) | run
  · rcases Bool.or_eq_true_iff.1 class_ with same | same
    · rw [beq_iff_eq.1 same]
      exact lower .dot
    · rw [beq_iff_eq.1 same]
      exact lower .underscore
  · obtain ⟨c, tail, first, ⟨d, second, rfl⟩, rfl⟩ := mem_oneOf_mul.1 double
    rw [beq_iff_eq.1 first, beq_iff_eq.1 second]
    exact lower .underscores
  · have all : ∀ c ∈ separator, c = '-' := by simpa using mem_kstar_oneOf.1 run
    cases separator with
    | nil => exact lower .word
    | cons c separator =>
      obtain ⟨rfl, later⟩ := List.forall_mem_cons.1 all
      have next : ComponentState.word.next '-' = some .hyphens := by decide
      simp only [List.cons_append, ComponentState.accepts, next, accepts_hyphens later, lower]

theorem isPathComponent_iff : isPathComponent cs = true ↔ cs ∈ Pattern.pathComponent := by
  constructor
  · exact mem_follows_of_accepts
  · intro mem
    obtain ⟨word, inWord, groups, inGroups, rfl⟩ := Language.mem_mul.1 mem
    rw [isPathComponent, accepts_lower inWord]
    refine kstar_induction inGroups rfl ?_
    intro group inGroup rest _ ih
    rw [accepts_group inGroup, ih]

theorem over_pathComponent : Over isPathCharacter Pattern.pathComponent := by
  have word : Over isPathCharacter (many (oneOf isLowerOrDigit)) :=
    Over.many (Over.oneOf fun c class_ => by simp [isPathCharacter, class_])
  refine word.mul (Over.kstar (Over.mul ((Over.add ?_ (Over.mul ?_ ?_)).add (Over.kstar ?_)) word))
  all_goals
    refine Over.oneOf fun c class_ => ?_
    simp only [isPathCharacter, Bool.or_eq_true, beq_iff_eq] at class_ ⊢
    tauto

end SwarmDeploy.Image
