import SwarmDeploy.Proofs.Image.Pattern
import SwarmDeploy.Proofs.Image.Qualified

/-! The parts of a reference: name, tag and digest.
Each part has its language. A text is made of parts in one way at most, for a slash ends before the
tag and an at sign before the digest; so a text is taken apart into the parts it is made of. -/

namespace SwarmDeploy.Image
open SwarmDeploy.Text
open scoped Computability

structure Parts.Follows (p : Parts) : Prop where
  name : p.name ∈ Pattern.name
  tag : ∀ t ∈ p.tag, t ∈ Pattern.tag
  digest : ∀ d ∈ p.digest, d ∈ Pattern.digest

variable {cs : List Char}

theorem slash_not_mem_pathComponent : ∀ word ∈ Pattern.pathComponent, '/' ∉ word :=
  fun _ mem => over_pathComponent.not_mem mem (by decide)

theorem slash_not_mem_domain : ∀ word ∈ Pattern.domain, '/' ∉ word :=
  fun _ mem => over_domain.not_mem mem (by decide)

theorem mem_components_iff :
    cs ∈ separated '/' Pattern.pathComponent ↔ (pieces '/' cs).all isPathComponent = true := by
  simp only [mem_separated_iff slash_not_mem_pathComponent, List.all_eq_true, isPathComponent_iff]

theorem isName_append {first : List Char} (absent : '/' ∉ first) (rest : List Char) :
    isName (first ++ '/' :: rest) = true ↔ (pieces '/' rest).all isPathComponent = true ∧
      (isPathComponent first = true ∨ isDomain first = true) := by
  have more : (pieces '/' rest).isEmpty = false :=
    List.isEmpty_eq_false_iff.2 (pieces_ne_nil '/' rest)
  simp only [isName, pieces_append absent, more, Bool.not_false, Bool.true_and, Bool.and_eq_true,
    Bool.or_eq_true]

theorem isName_of_not_mem (absent : '/' ∉ cs) : isName cs = isPathComponent cs := by
  simp [isName, pieces_of_not_mem absent]

theorem isName_iff : isName cs = true ↔ cs ∈ Pattern.name := by
  rw [Pattern.name, Language.mem_mul]
  simp only [mem_maybe]
  constructor
  · intro accepted
    cases cut : cutFirst '/' cs with
    | none =>
      rw [isName_of_not_mem (cutFirst_eq_none_iff.1 cut)] at accepted
      exact ⟨[], .inl rfl, cs, mem_separated_of_mem (isPathComponent_iff.1 accepted), rfl⟩
    | some parts =>
      obtain ⟨absent, rfl⟩ := cutFirst_eq_some_iff.1 cut
      obtain ⟨components, first | first⟩ := (isName_append absent _).1 accepted
      · exact ⟨[], .inl rfl, _, append_mem_separated (isPathComponent_iff.1 first)
          (mem_components_iff.2 components), rfl⟩
      · have slash : ['/'] ∈ oneOf (· == '/') := ⟨'/', rfl, rfl⟩
        exact ⟨_, .inr (Language.append_mem_mul (isDomain_iff.1 first) slash), _,
          mem_components_iff.2 components, by simp⟩
  · rintro ⟨before, rfl | hosted, rest, components, rfl⟩
    · rw [List.nil_append]
      refine separated_induction components ?_ ?_
      · intro word mem
        rw [isName_of_not_mem (slash_not_mem_pathComponent word mem), isPathComponent_iff]
        exact mem
      · intro word mem rest later _
        exact (isName_append (slash_not_mem_pathComponent word mem) rest).2
          ⟨mem_components_iff.1 later, .inl (isPathComponent_iff.2 mem)⟩
    · obtain ⟨domain, mem, _, ⟨c, same, rfl⟩, rfl⟩ := Language.mem_mul.1 hosted
      rw [beq_iff_eq.1 same, List.append_assoc, List.singleton_append]
      exact (isName_append (slash_not_mem_domain domain mem) rest).2
        ⟨mem_components_iff.1 components, .inr (isDomain_iff.2 mem)⟩

theorem over_name : Over isNameCharacter Pattern.name := by
  have domain : Over isNameCharacter Pattern.domain := over_domain.mono fun c class_ => by
    simp only [isNameCharacter, Bool.or_eq_true, beq_iff_eq] at class_ ⊢
    tauto
  have component : Over isNameCharacter Pattern.pathComponent :=
    over_pathComponent.mono fun c class_ => by
      simp only [isPathCharacter, isLowerOrDigit, isNameCharacter, isDomainCharacter,
        isLetterOrDigit, isLetter, Bool.or_eq_true, beq_iff_eq] at class_ ⊢
      tauto
  have slash : Over isNameCharacter (oneOf (· == '/')) := Over.oneOf fun c same => by
    simp [isNameCharacter, beq_iff_eq.1 same]
  exact (Over.maybe (domain.mul slash)).mul (component.separated rfl)

theorem exists_last_component (mem : cs ∈ Pattern.name) :
    ∃ before last, cs = before ++ last ∧ last ∈ Pattern.pathComponent ∧
      (before = [] ∨ ∃ front, before = front ++ ['/']) := by
  obtain ⟨hosted, inHosted, components, inComponents, rfl⟩ := Language.mem_mul.1 mem
  obtain ⟨before, last, rfl, inLast, ends⟩ := exists_last_of_mem_separated inComponents
  refine ⟨hosted ++ before, last, by simp, inLast, ?_⟩
  rcases ends with rfl | ⟨front, rfl⟩
  · rw [List.append_nil]
    rcases mem_maybe.1 inHosted with rfl | inHosted
    · exact .inl rfl
    · obtain ⟨domain, -, _, ⟨c, same, rfl⟩, rfl⟩ := Language.mem_mul.1 inHosted
      exact .inr ⟨domain, by rw [beq_iff_eq.1 same]⟩
  · exact .inr ⟨hosted ++ front, by simp⟩

theorem isTag_iff : isTag cs = true ↔ cs ∈ Pattern.tag := by
  rw [Pattern.tag, mem_oneOf_mul]
  simp only [mem_maybe_oneOf_pow]
  cases cs with
  | nil => simp [isTag]
  | cons c cs =>
    have start : isTagStart c = true → isTagCharacter c = true := fun class_ => by
      simp [isTagCharacter, class_]
    simp only [isTag, List.head?_cons, Option.any_some, List.all_cons, Bool.and_eq_true,
      List.all_eq_true, List.length_cons, decide_eq_true_eq]
    constructor
    · rintro ⟨⟨first, -, all⟩, short⟩
      exact ⟨c, cs, first, ⟨by omega, all⟩, rfl⟩
    · rintro ⟨d, tail, first, ⟨short, all⟩, same⟩
      cases same
      exact ⟨⟨first, start first, all⟩, by omega⟩

theorem over_tag : Over isTagCharacter Pattern.tag := by
  refine Over.mul (Over.oneOf fun c class_ => ?_) (Over.pow (Over.maybe ?_) _)
  · simp [isTagCharacter, class_]
  · exact Over.oneOf fun c class_ => class_

def Pattern.algorithmGroups : Language Char :=
  (oneOf isAlgorithmSeparator * Pattern.algorithmWord)∗

/-- What may follow in the name of an algorithm; `begun` says that a word has begun. -/
def Pattern.algorithmFrom (begun : Bool) : Language Char :=
  if begun then (oneOf isLetterOrDigit)∗ * Pattern.algorithmGroups else Pattern.algorithm

theorem cons_mem_algorithmFrom {c : Char} (class_ : isLetterOrDigit c = true)
    (mem : cs ∈ Pattern.algorithmFrom true) : c :: cs ∈ Pattern.algorithmFrom true := by
  obtain ⟨word, inWord, groups, inGroups, rfl⟩ := Language.mem_mul.1 mem
  have single : [c] ∈ oneOf isLetterOrDigit := ⟨c, class_, rfl⟩
  exact Language.append_mem_mul (append_mem_kstar single inWord) inGroups

theorem mem_algorithmFrom {begun : Bool} (accepted : isAlgorithm begun cs = true) :
    cs ∈ Pattern.algorithmFrom begun := by
  induction cs generalizing begun with
  | nil =>
    rw [show begun = true from accepted]
    exact mem_mul_of_nil (Language.nil_mem_kstar _) (Language.nil_mem_kstar _)
  | cons c cs ih =>
    unfold isAlgorithm at accepted
    split_ifs at accepted with letter started digit separator
    · cases begun with
      | true => exact cons_mem_algorithmFrom (by simp [isLetterOrDigit, letter]) (ih accepted)
      | false =>
        obtain ⟨word, inWord, groups, inGroups, rfl⟩ := Language.mem_mul.1 (ih accepted)
        exact Language.append_mem_mul (cons_mem_oneOf_mul letter inWord) inGroups
    · rw [started]
      exact cons_mem_algorithmFrom (by simp [isLetterOrDigit, digit]) (ih accepted)
    · obtain ⟨word, inWord, groups, inGroups, rfl⟩ := Language.mem_mul.1 (ih accepted)
      have class_ : isAlgorithmSeparator c = true := by
        simpa [isAlgorithmSeparator, or_assoc] using separator
      rw [started]
      exact mem_mul_of_nil (Language.nil_mem_kstar _)
        (append_mem_kstar (cons_mem_oneOf_mul class_ inWord) inGroups)

theorem isAlgorithm_append {word : List Char} (all : ∀ c ∈ word, isLetterOrDigit c = true)
    (rest : List Char) : isAlgorithm true (word ++ rest) = isAlgorithm true rest := by
  induction word with
  | nil => rfl
  | cons c word ih =>
    obtain ⟨class_, later⟩ := List.forall_mem_cons.1 all
    rw [List.cons_append, isAlgorithm, ih later]
    by_cases letter : isLetter c = true
    · rw [if_pos letter]
    · have digit : isAsciiDigit c = true := by simpa [isLetterOrDigit, letter] using class_
      rw [if_neg letter, if_pos rfl, if_pos digit]

theorem isAlgorithm_word {word : List Char} (mem : word ∈ Pattern.algorithmWord) (begun : Bool)
    (rest : List Char) : isAlgorithm begun (word ++ rest) = isAlgorithm true rest := by
  obtain ⟨c, tail, letter, inTail, rfl⟩ := mem_oneOf_mul.1 mem
  rw [List.cons_append, isAlgorithm, if_pos letter, isAlgorithm_append (mem_kstar_oneOf.1 inTail)]

theorem isAlgorithm_iff : isAlgorithm false cs = true ↔ cs ∈ Pattern.algorithm := by
  constructor
  · exact mem_algorithmFrom
  · intro mem
    obtain ⟨word, inWord, groups, inGroups, rfl⟩ := Language.mem_mul.1 mem
    rw [isAlgorithm_word inWord]
    refine kstar_induction inGroups rfl ?_
    intro group inGroup rest _ ih
    obtain ⟨c, second, class_, inSecond, rfl⟩ := mem_oneOf_mul.1 inGroup
    have separator : c = '-' ∨ c = '_' ∨ c = '+' ∨ c = '.' := by
      simpa [isAlgorithmSeparator, or_assoc] using class_
    have other : isLetter c = false ∧ isAsciiDigit c = false := by
      rcases separator with rfl | rfl | rfl | rfl <;> decide
    simp only [List.cons_append, isAlgorithm, other, Bool.false_eq_true, if_false, if_true,
      separator, isAlgorithm_word inSecond, ih]

theorem over_algorithm :
    Over (fun c => isLetterOrDigit c || isAlgorithmSeparator c) Pattern.algorithm := by
  have word : Over (fun c => isLetterOrDigit c || isAlgorithmSeparator c) Pattern.algorithmWord :=
    Over.mul (Over.oneOf fun c class_ => by simp [isLetterOrDigit, class_])
      (Over.kstar (Over.oneOf fun c class_ => by simp [class_]))
  exact word.mul (Over.kstar (Over.mul (Over.oneOf fun c class_ => by simp [class_]) word))

theorem isDigest_iff : isDigest cs = true ↔ cs ∈ Pattern.digest := by
  rw [Pattern.digest, Language.mem_mul]
  simp only [mem_oneOf_mul, mem_atLeast_oneOf]
  constructor
  · intro accepted
    unfold isDigest at accepted
    split at accepted
    · cases accepted
    · rename_i algorithm hex cut
      obtain ⟨-, rfl⟩ := cutFirst_eq_some_iff.1 cut
      simp only [Bool.and_eq_true, isAlgorithm_iff, List.all_eq_true, decide_eq_true_eq] at accepted
      obtain ⟨⟨named, all⟩, long⟩ := accepted
      exact ⟨algorithm, named, ':' :: hex, ⟨':', hex, rfl, ⟨long, all⟩, rfl⟩, rfl⟩
  · rintro ⟨algorithm, named, _, ⟨c, hex, same, ⟨long, all⟩, rfl⟩, rfl⟩
    have absent : ':' ∉ algorithm := over_algorithm.not_mem named (by decide)
    simp only [isDigest, beq_iff_eq.1 same, cutFirst_eq_some_iff.2 ⟨absent, rfl⟩, Bool.and_eq_true,
      isAlgorithm_iff, List.all_eq_true, decide_eq_true_eq]
    exact ⟨⟨named, all⟩, long⟩

theorem slash_not_mem_digest : ∀ word ∈ Pattern.digest, '/' ∉ word := by
  intro word mem
  obtain ⟨algorithm, named, _, behind, rfl⟩ := Language.mem_mul.1 mem
  obtain ⟨c, hex, colon, inHex, rfl⟩ := mem_oneOf_mul.1 behind
  have all := (mem_atLeast_oneOf.1 inHex).2
  have before : '/' ∉ algorithm := over_algorithm.not_mem named (by decide)
  have after : '/' ∉ hex := fun slash => absurd (all '/' slash) (by decide)
  rw [beq_iff_eq.1 colon]
  simp [before, after]

theorem Parts.valid_iff {p : Parts} : p.valid = true ↔ p.Follows := by
  obtain ⟨name, tag, digest⟩ := p
  simp only [valid, Bool.and_eq_true, isName_iff, Option.all_eq_true, isTag_iff, isDigest_iff]
  exact ⟨fun h => ⟨h.1.1, h.1.2, h.2⟩, fun h => ⟨⟨h.name, h.tag⟩, h.digest⟩⟩

/-- The tag is looked for behind the last slash only. -/
theorem splitTag_append {before last : List Char}
    (ends : before = [] ∨ ∃ front, before = front ++ ['/']) (noSlash : '/' ∉ last) :
    splitTag (before ++ last) = match cutFirst ':' last with
      | none => (before ++ last, none)
      | some (base, tag) => (before ++ base, some tag) := by
  rcases ends with rfl | ⟨front, rfl⟩
  · rw [List.nil_append, splitTag, cutLast_eq_none noSlash]
    rfl
  · rw [List.append_assoc, List.singleton_append, splitTag, cutLast_append_cons front noSlash]
    cases cut : cutFirst ':' last <;> simp [cut]

theorem splitTag_of_mem_name {name : List Char} (inName : name ∈ Pattern.name) :
    splitTag name = (name, none) := by
  obtain ⟨before, last, rfl, inLast, ends⟩ := exists_last_component inName
  have noColon : ':' ∉ last := over_pathComponent.not_mem inLast (by decide)
  rw [splitTag_append ends (slash_not_mem_pathComponent last inLast),
    cutFirst_eq_none_iff.2 noColon]

theorem splitTag_of_mem_tag {name tag : List Char} (inName : name ∈ Pattern.name)
    (inTag : tag ∈ Pattern.tag) : splitTag (name ++ ':' :: tag) = (name, some tag) := by
  obtain ⟨before, last, rfl, inLast, ends⟩ := exists_last_component inName
  have noColon : ':' ∉ last := over_pathComponent.not_mem inLast (by decide)
  have noSlash : '/' ∉ last ++ ':' :: tag := by
    have inFront := slash_not_mem_pathComponent last inLast
    have behind : '/' ∉ tag := over_tag.not_mem inTag (by decide)
    simp [inFront, behind]
  rw [List.append_assoc, splitTag_append ends noSlash, cutFirst_eq_some_iff.2 ⟨noColon, rfl⟩]

def Parts.front (p : Parts) : List Char :=
  p.name ++ p.tag.elim [] fun t => ':' :: t

theorem Parts.Follows.splitTag_front {p : Parts} (follows : p.Follows) :
    splitTag p.front = (p.name, p.tag) := by
  obtain ⟨name, tag, digest⟩ := p
  obtain ⟨inName, inTag, -⟩ := follows
  cases tag with
  | none => simpa [front] using splitTag_of_mem_name inName
  | some t => exact splitTag_of_mem_tag inName (inTag t rfl)

theorem Parts.Follows.at_not_mem_front {p : Parts} (follows : p.Follows) : '@' ∉ p.front := by
  obtain ⟨name, tag, digest⟩ := p
  obtain ⟨inName, inTag, -⟩ := follows
  have inFront : '@' ∉ name := over_name.not_mem inName (by decide)
  cases tag with
  | none => simpa [front] using inFront
  | some t =>
    have behind : '@' ∉ t := over_tag.not_mem (inTag t rfl) (by decide)
    simp [front, inFront, behind]

theorem Parts.Follows.split_text {p : Parts} (follows : p.Follows) : Parts.split p.text = p := by
  have noAt := follows.at_not_mem_front
  have apart := follows.splitTag_front
  obtain ⟨name, tag, digest⟩ := p
  cases digest with
  | none =>
    have text : Parts.text ⟨name, tag, none⟩ = Parts.front ⟨name, tag, none⟩ := by
      simp [Parts.text, Parts.front]
    rw [text, Parts.split, cutFirst_eq_none_iff.2 noAt, apart]
  | some d =>
    have text : Parts.text ⟨name, tag, some d⟩ = Parts.front ⟨name, tag, some d⟩ ++ '@' :: d := rfl
    rw [text, Parts.split, cutFirst_eq_some_iff.2 ⟨noAt, rfl⟩]
    simp only [apart]

theorem takeApart_eq_some {p : Parts} :
    takeApart cs = some p ↔ p.Follows ∧ p.text = cs := by
  rw [takeApart_eq_some_iff, Parts.valid_iff]
  constructor
  · rintro ⟨rfl, follows⟩
    exact ⟨follows, Parts.text_split cs⟩
  · rintro ⟨follows, rfl⟩
    exact ⟨follows.split_text.symm, follows⟩

end SwarmDeploy.Image
