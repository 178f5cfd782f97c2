import SwarmDeploy.Proofs.Image.Stages
import SwarmDeploy.Proofs.Text.Runs

/-! How the parts of a reference are spelled.
The pattern derives a path component in many ways, for a separator may be empty. What can be seen of
a text decides whether there is one: its characters, its ends and its maximal runs of separators.
Tags and digests are told by their characters and lengths. -/

namespace SwarmDeploy.Image
open SwarmDeploy.Text
open scoped Computability

def isSeparator (c : Char) : Bool :=
  c == '.' || c == '_' || c == '-'

def SpellsSeparator (cs : List Char) : Prop :=
  cs = ['.'] ∨ cs = ['_'] ∨ cs = ['_', '_'] ∨ ∀ c ∈ cs, c = '-'

/-- What a path component looks like: between its ends, which are no separators, every run of
separators is one separator. -/
structure SpellsComponent (cs : List Char) : Prop where
  notEmpty : cs ≠ []
  characters : ∀ c ∈ cs, isPathCharacter c = true
  first : ∀ c ∈ cs.head?, isLowerOrDigit c = true
  last : ∀ c ∈ cs.getLast?, isLowerOrDigit c = true
  separators : ∀ run, HasRun isSeparator cs run → SpellsSeparator run

structure SpellsTag (cs : List Char) : Prop where
  characters : ∀ c ∈ cs, isTagCharacter c = true
  length : 1 ≤ cs.length ∧ cs.length ≤ 128
  first : ∀ c ∈ cs.head?, c ≠ '.' ∧ c ≠ '-'

def SpellsAlgorithmWord (cs : List Char) : Prop :=
  (∃ c ∈ cs.head?, isLetter c = true) ∧ ∀ c ∈ cs, isLetterOrDigit c = true

def SpellsAlgorithm (cs : List Char) : Prop :=
  ∀ word ∈ cs.splitOnP isAlgorithmSeparator, SpellsAlgorithmWord word

/-- The name of an algorithm, the only colon, and hex digits, 32 or more. -/
def SpellsDigest (cs : List Char) : Prop :=
  cs.count ':' = 1 ∧ ∃ algorithm hex, cs = algorithm ++ ':' :: hex ∧ SpellsAlgorithm algorithm ∧
    32 ≤ hex.length ∧ ∀ c ∈ hex, isHexDigit c = true

variable {cs word separator : List Char}

theorem isPathCharacter_eq (c : Char) :
    isPathCharacter c = (isLowerOrDigit c || isSeparator c) := by
  simp only [isPathCharacter, isSeparator, Bool.or_assoc]

theorem isSeparator_eq_false {c : Char} (class_ : isLowerOrDigit c = true) :
    isSeparator c = false := by
  by_contra other
  simp only [isSeparator, Bool.not_eq_false, Bool.or_eq_true, beq_iff_eq] at other
  rcases other with (rfl | rfl) | rfl <;> exact absurd class_ (by decide)

theorem isLowerOrDigit_iff_of_isPathCharacter {c : Char} (class_ : isPathCharacter c = true) :
    isLowerOrDigit c = true ↔ isSeparator c = false := by
  refine ⟨isSeparator_eq_false, fun other => ?_⟩
  rwa [isPathCharacter_eq, other, Bool.or_false] at class_

theorem mem_separator_iff : cs ∈ Pattern.separator ↔ SpellsSeparator cs := by
  have single : cs ∈ oneOf (fun c => c == '.' || c == '_') ↔ cs = ['.'] ∨ cs = ['_'] := by
    simp only [mem_oneOf, Bool.or_eq_true, beq_iff_eq, or_and_right, exists_or, exists_eq_left]
  have double : cs ∈ oneOf (· == '_') * oneOf (· == '_') ↔ cs = ['_', '_'] := by
    simp [mem_oneOf_mul, mem_oneOf]
  rw [Pattern.separator, Language.mem_add, Language.mem_add, single, double, mem_kstar_oneOf]
  simp only [SpellsSeparator, beq_iff_eq, or_assoc]

theorem over_separator : Over isSeparator Pattern.separator := by
  refine Over.add (Over.add ?_ (Over.mul ?_ ?_)) (Over.kstar ?_)
  all_goals
    refine Over.oneOf fun c class_ => ?_
    simp only [isSeparator, Bool.or_eq_true, beq_iff_eq] at class_ ⊢
    tauto

theorem hasRun_word_append {rest run : List Char} (inWord : word ∈ many (oneOf isLowerOrDigit))
    (notEmpty : separator ≠ []) (class_ : ∀ c ∈ separator, isSeparator c = true)
    (starts : ∀ c ∈ rest.head?, isLowerOrDigit c = true) :
    HasRun isSeparator (word ++ (separator ++ rest)) run ↔
      run = separator ∨ HasRun isSeparator rest run := by
  have lower := (mem_many_oneOf.1 inWord).2
  rw [hasRun_append_of_others fun c mem => isSeparator_eq_false (lower c mem),
    hasRun_append_of_run notEmpty class_ fun c head => isSeparator_eq_false (starts c head)]

theorem spellsComponent_word (inWord : word ∈ many (oneOf isLowerOrDigit)) :
    SpellsComponent word := by
  obtain ⟨notEmpty, lower⟩ := mem_many_oneOf.1 inWord
  refine ⟨notEmpty, fun c mem => ?_, fun c head => ?_, fun c last => ?_, fun run isRun => ?_⟩
  · rw [isPathCharacter_eq, lower c mem, Bool.true_or]
  · exact lower c (List.mem_of_mem_head? head)
  · exact lower c (List.mem_of_mem_getLast? last)
  · rw [← List.append_nil word,
      hasRun_append_of_others fun c mem => isSeparator_eq_false (lower c mem)] at isRun
    exact absurd isRun not_hasRun_nil

theorem SpellsComponent.append (spelled : SpellsComponent cs)
    (inWord : word ∈ many (oneOf isLowerOrDigit)) (notEmpty : separator ≠ [])
    (inSeparator : separator ∈ Pattern.separator) :
    SpellsComponent (word ++ (separator ++ cs)) := by
  have start := spellsComponent_word inWord
  have class_ := over_separator separator inSeparator
  refine ⟨by simp [notEmpty], ?_, ?_, ?_, ?_⟩
  · have between : ∀ c ∈ separator, isPathCharacter c = true := fun c mem => by
      rw [isPathCharacter_eq, class_ c mem, Bool.or_true]
    simp only [List.forall_mem_append]
    exact ⟨start.characters, between, spelled.characters⟩
  · rw [List.head?_append_of_ne_nil _ start.notEmpty]
    exact start.first
  · rw [← List.append_assoc, List.getLast?_append_of_ne_nil _ spelled.notEmpty]
    exact spelled.last
  · intro run isRun
    rcases (hasRun_word_append inWord notEmpty class_ spelled.first).1 isRun with rfl | later
    · exact mem_separator_iff.1 inSeparator
    · exact spelled.separators run later

theorem spellsComponent_of_mem (mem : cs ∈ Pattern.pathComponent) : SpellsComponent cs := by
  obtain ⟨word, inWord, groups, inGroups, rfl⟩ := Language.mem_mul.1 mem
  -- The word in front grows by what an empty separator joins to it.
  suffices all : ∀ word ∈ many (oneOf isLowerOrDigit), SpellsComponent (word ++ groups) from
    all word inWord
  refine kstar_induction inGroups ?_ ?_
  · intro word inWord
    rw [List.append_nil]
    exact spellsComponent_word inWord
  · intro group inGroup rest _ ih word inWord
    obtain ⟨separator, inSeparator, next, inNext, rfl⟩ := Language.mem_mul.1 inGroup
    rw [List.append_assoc]
    by_cases empty : separator = []
    · have joined : word ++ next ∈ many (oneOf isLowerOrDigit) := by
        rw [mem_many_oneOf] at inWord inNext ⊢
        exact ⟨by simp [inWord.1], List.forall_mem_append.2 ⟨inWord.2, inNext.2⟩⟩
      rw [empty, List.nil_append, ← List.append_assoc]
      exact ih _ joined
    · exact (ih next inNext).append inWord empty inSeparator

theorem SpellsComponent.of_append {rest : List Char}
    (spelled : SpellsComponent (word ++ (separator ++ rest)))
    (inWord : word ∈ many (oneOf isLowerOrDigit)) (between : separator ≠ [])
    (class_ : ∀ c ∈ separator, isSeparator c = true)
    (closes : ∀ c ∈ rest.head?, isSeparator c = false) :
    separator ∈ Pattern.separator ∧ SpellsComponent rest := by
  have inRest : ∀ c ∈ rest, isPathCharacter c = true := fun c mem =>
    spelled.characters c (by simp [mem])
  have starts : ∀ c ∈ rest.head?, isLowerOrDigit c = true := by
    intro c head
    have class_ := inRest c (List.mem_of_mem_head? head)
    exact (isLowerOrDigit_iff_of_isPathCharacter class_).2 (closes c head)
  have runs : ∀ run, HasRun isSeparator (word ++ (separator ++ rest)) run ↔
      run = separator ∨ HasRun isSeparator rest run :=
    fun _ => hasRun_word_append inWord between class_ starts
  have notEmpty : rest ≠ [] := by
    rintro rfl
    have last := List.getLast?_eq_some_getLast between
    have lower := spelled.last (separator.getLast between) (by simp [last])
    rw [isLowerOrDigit_iff_of_isPathCharacter, class_ _ (List.getLast_mem between)] at lower
    · cases lower
    · exact spelled.characters _ (by simp)
  refine ⟨mem_separator_iff.2 (spelled.separators _ ((runs _).2 (.inl rfl))), notEmpty, inRest,
    starts, fun c last => spelled.last c ?_, fun run isRun => ?_⟩
  · rwa [← List.append_assoc, List.getLast?_append_of_ne_nil _ notEmpty]
  · exact spelled.separators run ((runs run).2 (.inr isRun))

theorem append_mem_pathComponent {component : List Char}
    (inWord : word ∈ many (oneOf isLowerOrDigit)) (inSeparator : separator ∈ Pattern.separator)
    (inComponent : component ∈ Pattern.pathComponent) :
    word ++ (separator ++ component) ∈ Pattern.pathComponent := by
  obtain ⟨next, inNext, groups, inGroups, rfl⟩ := Language.mem_mul.1 inComponent
  exact Language.append_mem_mul inWord (append_mem_groups inSeparator inNext inGroups)

theorem SpellsComponent.mem (spelled : SpellsComponent cs) : cs ∈ Pattern.pathComponent := by
  -- A word and the separator behind it are taken off the front, until a word is all there is.
  induction total : cs.length using Nat.strong_induction_on generalizing cs with
  | _ size ih =>
    obtain ⟨word, behind, rfl, lower, stops⟩ := exists_front isLowerOrDigit cs
    obtain ⟨separator, rest, rfl, class_, closes⟩ := exists_front isSeparator behind
    have inWord : word ∈ many (oneOf isLowerOrDigit) := by
      refine mem_many_oneOf.2 ⟨?_, lower⟩
      rintro rfl
      have head := List.head?_eq_some_head spelled.notEmpty
      have start := spelled.first _ head
      rw [stops _ head] at start
      cases start
    by_cases empty : separator = []
    · have none : rest = [] := by
        cases rest with
        | nil => rfl
        | cons c rest =>
          have start := (isLowerOrDigit_iff_of_isPathCharacter
            (spelled.characters c (by simp))).2 (closes c rfl)
          rw [stops c (by rw [empty]; rfl)] at start
          cases start
      rw [empty, none]
      exact Language.append_mem_mul inWord (Language.nil_mem_kstar _)
    · obtain ⟨inSeparator, later⟩ := spelled.of_append inWord empty class_ closes
      have shorter : rest.length < size := by
        have between := List.length_pos_iff.2 empty
        simp only [List.length_append] at total
        omega
      exact append_mem_pathComponent inWord inSeparator (ih _ shorter later rfl)

theorem mem_pathComponent_iff : cs ∈ Pattern.pathComponent ↔ SpellsComponent cs :=
  ⟨spellsComponent_of_mem, SpellsComponent.mem⟩

instance : DecidablePred SpellsComponent := fun _ =>
  decidable_of_iff _ (isPathComponent_iff.trans mem_pathComponent_iff)

example : ¬SpellsComponent "a._b".toList := by decide

theorem isTagStart_iff_of_isTagCharacter {c : Char} (class_ : isTagCharacter c = true) :
    isTagStart c = true ↔ c ≠ '.' ∧ c ≠ '-' := by
  constructor
  · intro start
    refine ⟨?_, ?_⟩ <;> rintro rfl <;> exact absurd start (by decide)
  · rintro ⟨dot, hyphen⟩
    simpa [isTagCharacter, dot, hyphen] using class_

theorem mem_tag_iff : cs ∈ Pattern.tag ↔ SpellsTag cs := by
  rw [Pattern.tag, mem_oneOf_mul]
  simp only [mem_maybe_oneOf_pow]
  constructor
  · rintro ⟨c, tail, start, ⟨short, all⟩, rfl⟩
    have class_ : isTagCharacter c = true := by simp [isTagCharacter, start]
    refine ⟨List.forall_mem_cons.2 ⟨class_, all⟩, ?_, fun d head => ?_⟩
    · rw [List.length_cons]
      omega
    · rw [← Option.some.inj head]
      exact (isTagStart_iff_of_isTagCharacter class_).1 start
  · intro spelled
    obtain ⟨long, short⟩ := spelled.length
    cases cs with
    | nil => cases long
    | cons c tail =>
      obtain ⟨class_, all⟩ := List.forall_mem_cons.1 spelled.characters
      have start := (isTagStart_iff_of_isTagCharacter class_).2 (spelled.first c rfl)
      rw [List.length_cons] at short
      exact ⟨c, tail, start, ⟨by omega, all⟩, rfl⟩

theorem isAlgorithmSeparator_eq_false {c : Char} (class_ : isLetterOrDigit c = true) :
    isAlgorithmSeparator c = false := by
  by_contra other
  simp only [isAlgorithmSeparator, Bool.not_eq_false, Bool.or_eq_true, beq_iff_eq] at other
  rcases other with ((rfl | rfl) | rfl) | rfl <;> exact absurd class_ (by decide)

theorem mem_algorithmWord_iff : cs ∈ Pattern.algorithmWord ↔ SpellsAlgorithmWord cs := by
  rw [Pattern.algorithmWord, mem_oneOf_mul]
  simp only [mem_kstar_oneOf]
  constructor
  · rintro ⟨c, tail, letter, all, rfl⟩
    have class_ : isLetterOrDigit c = true := by simp [isLetterOrDigit, letter]
    exact ⟨⟨c, rfl, letter⟩, List.forall_mem_cons.2 ⟨class_, all⟩⟩
  · rintro ⟨⟨c, head, letter⟩, all⟩
    obtain ⟨tail, rfl⟩ := List.head?_eq_some_iff.1 head
    exact ⟨c, tail, letter, fun d mem => all d (List.mem_cons_of_mem c mem), rfl⟩

theorem splitOnP_algorithmWord (mem : word ∈ Pattern.algorithmWord) :
    word.splitOnP isAlgorithmSeparator = [word] :=
  List.splitOnP_eq_singleton fun c occurs =>
    isAlgorithmSeparator_eq_false ((mem_algorithmWord_iff.1 mem).2 c occurs)

theorem append_mem_algorithm {c : Char} {rest : List Char} (inWord : word ∈ Pattern.algorithmWord)
    (class_ : isAlgorithmSeparator c = true) (inRest : rest ∈ Pattern.algorithm) :
    word ++ c :: rest ∈ Pattern.algorithm := by
  obtain ⟨next, inNext, groups, inGroups, rfl⟩ := Language.mem_mul.1 inRest
  refine Language.append_mem_mul inWord ?_
  exact append_mem_kstar (cons_mem_oneOf_mul class_ inNext) inGroups

theorem mem_algorithm_iff : cs ∈ Pattern.algorithm ↔ SpellsAlgorithm cs := by
  constructor
  · intro mem
    obtain ⟨word, inWord, groups, inGroups, rfl⟩ := Language.mem_mul.1 mem
    suffices all : ∀ word ∈ Pattern.algorithmWord, SpellsAlgorithm (word ++ groups) from
      all word inWord
    refine kstar_induction inGroups ?_ ?_
    · intro word inWord
      rw [List.append_nil, SpellsAlgorithm, splitOnP_algorithmWord inWord]
      exact List.forall_mem_singleton.2 (mem_algorithmWord_iff.1 inWord)
    · intro group inGroup rest _ ih word inWord
      obtain ⟨c, next, class_, inNext, rfl⟩ := mem_oneOf_mul.1 inGroup
      rw [List.cons_append, SpellsAlgorithm, List.splitOnP_append_cons _ _ class_,
        splitOnP_algorithmWord inWord]
      exact List.forall_mem_cons.2 ⟨mem_algorithmWord_iff.1 inWord, ih next inNext⟩
  · intro spelled
    induction total : cs.length using Nat.strong_induction_on generalizing cs with
    | _ size ih =>
      obtain ⟨word, behind, rfl, others, stops⟩ := exists_front (!isAlgorithmSeparator ·) cs
      simp only [Bool.not_eq_true'] at others stops
      cases behind with
      | nil =>
        rw [List.append_nil, SpellsAlgorithm, List.splitOnP_eq_singleton others] at spelled
        exact Language.append_mem_mul (mem_algorithmWord_iff.2 (spelled word (by simp)))
          (Language.nil_mem_kstar _)
      | cons c rest =>
        have class_ : isAlgorithmSeparator c = true := by simpa using stops c rfl
        rw [SpellsAlgorithm, List.splitOnP_append_cons _ _ class_,
          List.splitOnP_eq_singleton others] at spelled
        obtain ⟨first, later⟩ := List.forall_mem_cons.1 spelled
        have shorter : rest.length < size := by
          simp only [List.length_append, List.length_cons] at total
          omega
        exact append_mem_algorithm (mem_algorithmWord_iff.2 first) class_ (ih _ shorter later rfl)

theorem mem_digest_iff : cs ∈ Pattern.digest ↔ SpellsDigest cs := by
  rw [Pattern.digest, Language.mem_mul]
  simp only [mem_oneOf_mul, mem_atLeast_oneOf, mem_algorithm_iff]
  constructor
  · rintro ⟨algorithm, named, _, ⟨c, hex, same, ⟨long, all⟩, rfl⟩, rfl⟩
    have before : ':' ∉ algorithm := over_algorithm.not_mem (mem_algorithm_iff.2 named) (by decide)
    have after : ':' ∉ hex := fun colon => absurd (all ':' colon) (by decide)
    rw [beq_iff_eq.1 same]
    refine ⟨?_, algorithm, hex, rfl, named, long, all⟩
    rw [List.count_append, List.count_cons_self, List.count_eq_zero.2 before,
      List.count_eq_zero.2 after]
  · rintro ⟨-, algorithm, hex, rfl, named, long, all⟩
    exact ⟨algorithm, named, ':' :: hex, ⟨':', hex, rfl, ⟨long, all⟩, rfl⟩, rfl⟩

theorem follows_of_parseNormalized {text : String} {r : Reference}
    (parsed : Reference.parseNormalized text = .ok r) :
    (∀ component ∈ pieces '/' r.path.toList, component ∈ Pattern.pathComponent) ∧
      (∀ tag ∈ r.tag, tag.toList ∈ Pattern.tag) ∧
        ∀ digest ∈ r.digest, digest.toList ∈ Pattern.digest := by
  have decides := decides_parseNormalized text
  rw [parsed] at decides
  cases decides with
  | @reference p path _ _ made _ name =>
    have noSlash := (splitDomain_isQualified text.toList).noSlash
    have components := ((isName_append noSlash path).1 (isName_iff.2 (name ▸ made.1.name))).1
    simp only [List.all_eq_true, isPathComponent_iff] at components
    simp only [String.toList_ofList, Option.mem_def, Option.map_eq_some_iff]
    refine ⟨components, ?_, ?_⟩
    · rintro _ ⟨tag, found, rfl⟩
      rw [String.toList_ofList]
      exact made.1.tag tag found
    · rintro _ ⟨digest, found, rfl⟩
      rw [String.toList_ofList]
      exact made.1.digest digest found

/-- The pieces of the pattern decide how texts are spelled, and so do the tests for them; every
reference that is read has a path, a tag and a digest so spelled. -/
theorem pieces_decide_spelling :
    (∀ cs, (isPathComponent cs = true ↔ cs ∈ Pattern.pathComponent) ∧
      (cs ∈ Pattern.pathComponent ↔ SpellsComponent cs)) ∧
    (∀ cs, (isTag cs = true ↔ cs ∈ Pattern.tag) ∧ (cs ∈ Pattern.tag ↔ SpellsTag cs)) ∧
    (∀ cs, (isDigest cs = true ↔ cs ∈ Pattern.digest) ∧ (cs ∈ Pattern.digest ↔ SpellsDigest cs)) ∧
    ∀ text r, Reference.parseNormalized text = .ok r →
      (∀ component ∈ pieces '/' r.path.toList, SpellsComponent component) ∧
        (∀ tag ∈ r.tag, SpellsTag tag.toList) ∧
          ∀ digest ∈ r.digest, SpellsDigest digest.toList := by
  refine ⟨fun cs => ⟨isPathComponent_iff, mem_pathComponent_iff⟩,
    fun cs => ⟨isTag_iff, mem_tag_iff⟩, fun cs => ⟨isDigest_iff, mem_digest_iff⟩,
    fun text r parsed => ?_⟩
  simpa only [mem_pathComponent_iff, mem_tag_iff, mem_digest_iff] using
    follows_of_parseNormalized parsed

/-- Separators of every kind: hyphens, two underscores and a dot in the path, a plus sign in the
name of the algorithm. -/
theorem separatedImage_is_spelled :
    Reference.parseNormalized
        "r.io:5000/my--team/fn__x.y:1.0_@sha+b64:0123456789abcdef0123456789ABCDEF" =
      .ok ⟨"r.io:5000", "my--team/fn__x.y", some "1.0_",
        some "sha+b64:0123456789abcdef0123456789ABCDEF"⟩ ∧
    SpellsComponent "my--team".toList ∧ SpellsComponent "fn__x.y".toList ∧
      SpellsTag "1.0_".toList ∧
        SpellsDigest "sha+b64:0123456789abcdef0123456789ABCDEF".toList := by
  have parsed : Reference.parseNormalized
        "r.io:5000/my--team/fn__x.y:1.0_@sha+b64:0123456789abcdef0123456789ABCDEF" =
      .ok ⟨"r.io:5000", "my--team/fn__x.y", some "1.0_",
        some "sha+b64:0123456789abcdef0123456789ABCDEF"⟩ := by rfl
  obtain ⟨components, tags, digests⟩ := pieces_decide_spelling.2.2.2 _ _ parsed
  exact ⟨parsed, components _ (by decide), components _ (by decide), tags _ rfl, digests _ rfl⟩

end SwarmDeploy.Image
