import SwarmDeploy.Proofs.Image.Parts
import SwarmDeploy.Proofs.Text.Utf8

/-! The stages of reading a reference, and what each of them decides.
A text is refused by the first stage that finds a fault. The stages ask for facts about the text
and about the parts that its qualified form is made of, which are the only ones. -/

namespace SwarmDeploy.Image
open SwarmDeploy.Text
open scoped Computability

def qualified (cs : List Char) : List Char :=
  (splitDomain cs).1 ++ '/' :: (splitDomain cs).2

def IsMadeOf (cs : List Char) (p : Parts) : Prop :=
  p.Follows ∧ p.text = qualified cs

/-- What is in front of the first colon of the remainder is its own lower-case form. -/
def HasLowercaseName (cs : List Char) : Prop :=
  lowercase (beforeFirst ':' (splitDomain cs).2) = beforeFirst ':' (splitDomain cs).2

def byteSize (cs : List Char) : Nat :=
  (Utf8.encode cs).length

/-- The results of reading a text, by the stage that decides. -/
inductive Decides (text : String) : Except ReferenceError Reference → Prop
  | hexName : text.toList ∈ Pattern.hexId → Decides text (.error (.hexName text))
  | nameNotLowercase : text.toList ∉ Pattern.hexId → ¬HasLowercaseName text.toList →
    Decides text (.error (.nameNotLowercase text))
  | invalidFormat : text.toList ∉ Pattern.hexId → HasLowercaseName text.toList →
    (∀ p, ¬IsMadeOf text.toList p) → Decides text (.error (.invalidFormat text))
  | nameTooLong {p : Parts} : text.toList ∉ Pattern.hexId → HasLowercaseName text.toList →
    IsMadeOf text.toList p → 255 < byteSize p.name → Decides text (.error .nameTooLong)
  | reference {p : Parts} {path : List Char} : text.toList ∉ Pattern.hexId →
    HasLowercaseName text.toList → IsMadeOf text.toList p → byteSize p.name ≤ 255 →
      p.name = (splitDomain text.toList).1 ++ '/' :: path →
        Decides text (.ok ⟨String.ofList (splitDomain text.toList).1, String.ofList path,
          p.tag.map String.ofList, p.digest.map String.ofList⟩)

variable {cs : List Char} {p q : Parts}

theorem IsMadeOf.unique (first : IsMadeOf cs p) (second : IsMadeOf cs q) : p = q := by
  rw [← first.1.split_text, ← second.1.split_text, first.2, second.2]

theorem takeApart_qualified : takeApart (qualified cs) = some p ↔ IsMadeOf cs p :=
  takeApart_eq_some

theorem isHexId_iff : isHexId cs = true ↔ cs ∈ Pattern.hexId := by
  rw [Pattern.hexId, mem_oneOf_pow]
  simp [isHexId]

theorem toNat_lt_of_isLetterOrDigit {c : Char} (class_ : isLetterOrDigit c = true) :
    c.toNat < 0x80 := by
  have below : ∀ {d : Char}, c ≤ d → c.toNat ≤ d.toNat := fun le => le
  simp only [isLetterOrDigit, isLetter, isLowerLetter, isAsciiDigit, Bool.or_eq_true,
    Bool.and_eq_true, decide_eq_true_eq] at class_
  rcases class_ with (⟨-, lower⟩ | ⟨-, upper⟩) | digit
  · exact Nat.lt_of_le_of_lt (below lower) (by decide)
  · exact Nat.lt_of_le_of_lt (below upper) (by decide)
  · obtain ⟨d, value⟩ := Option.isSome_iff_exists.1 digit
    unfold digitValue at value
    split at value
    · omega
    · cases value

theorem toNat_lt_of_isNameCharacter {c : Char} (class_ : isNameCharacter c = true) :
    c.toNat < 0x80 := by
  simp only [isNameCharacter, isDomainCharacter, Bool.or_eq_true, beq_iff_eq] at class_
  rcases class_ with ((((letter | rfl) | rfl) | rfl) | rfl) | rfl
  · exact toNat_lt_of_isLetterOrDigit letter
  all_goals decide

theorem byteSize_name (follows : p.Follows) : byteSize p.name = p.name.length := by
  have ascii : ∀ c ∈ p.name, c.toNat < 0x80 := fun c mem =>
    toNat_lt_of_isNameCharacter (over_name p.name follows.name c mem)
  rw [byteSize, Utf8.encode_of_ascii ascii, List.length_map]

theorem Parts.Follows.slash_not_mem_rest (follows : p.Follows) :
    '/' ∉ (p.tag.elim [] fun t => ':' :: t) ++ (p.digest.elim [] fun d => '@' :: d) := by
  obtain ⟨name, tag, digest⟩ := p
  obtain ⟨-, inTag, inDigest⟩ := follows
  have tags : '/' ∉ tag.elim [] fun t => ':' :: t := by
    cases tag with
    | none => simp
    | some t => simpa using over_tag.not_mem (inTag t rfl) (by decide)
  have digests : '/' ∉ digest.elim [] fun d => '@' :: d := by
    cases digest with
    | none => simp
    | some d => simpa using slash_not_mem_digest d (inDigest d rfl)
  simp only [List.mem_append, tags, digests, or_self, not_false_eq_true]

theorem IsMadeOf.exists_path (made : IsMadeOf cs p) :
    ∃ path, p.name = (splitDomain cs).1 ++ '/' :: path := by
  obtain ⟨follows, text⟩ := made
  have noSlash := follows.slash_not_mem_rest
  rw [Parts.text, List.append_assoc, qualified] at text
  rcases List.append_eq_append_iff.1 text with ⟨more, domain, rest⟩ | ⟨more, name, rest⟩
  · rw [rest] at noSlash
    simp at noSlash
  · cases more with
    | nil =>
      rw [List.nil_append] at rest
      rw [← rest] at noSlash
      simp at noSlash
    | cons c path =>
      obtain ⟨rfl, -⟩ := List.cons.inj rest
      exact ⟨path, name⟩

theorem decides_parseNormalized (text : String) :
    Decides text (Reference.parseNormalized text) := by
  unfold Reference.parseNormalized
  dsimp only
  split_ifs with hex upper
  · exact .hexName (isHexId_iff.1 hex)
  · exact .nameNotLowercase (mt isHexId_iff.2 hex) upper
  · have notHex := mt isHexId_iff.2 hex
    have lower : HasLowercaseName text.toList := not_not.1 upper
    split
    · rename_i apart
      refine .invalidFormat notHex lower fun p made => ?_
      rw [← qualified, takeApart_qualified.2 made] at apart
      cases apart
    · rename_i p apart
      have made : IsMadeOf text.toList p := takeApart_qualified.1 apart
      obtain ⟨path, name⟩ := made.exists_path
      have start : dropStart ((splitDomain text.toList).1 ++ ['/']) p.name = some path :=
        dropStart_eq_some_iff.2 (by simp [name])
      have size := byteSize_name made.1
      split_ifs with long
      · exact .nameTooLong notHex lower made (size ▸ long)
      · rw [start]
        exact .reference notHex lower made (size ▸ Nat.le_of_not_lt long) name

theorem Decides.parseNormalized_eq {text : String} {result : Except ReferenceError Reference}
    (decides : Decides text result) : Reference.parseNormalized text = result := by
  unfold Reference.parseNormalized
  dsimp only
  rw [← qualified]
  cases decides with
  | hexName hex => exact if_pos (isHexId_iff.2 hex)
  | nameNotLowercase notHex upper =>
    refine (if_neg (mt isHexId_iff.1 notHex)).trans ?_
    exact if_pos upper
  | invalidFormat notHex lower none =>
    have apart : takeApart (qualified text.toList) = .none :=
      Option.eq_none_iff_forall_not_mem.2 fun p apart => none p (takeApart_qualified.1 apart)
    refine (if_neg (mt isHexId_iff.1 notHex)).trans ((if_neg (not_not.2 lower)).trans ?_)
    rw [apart]
  | nameTooLong notHex lower made long =>
    refine (if_neg (mt isHexId_iff.1 notHex)).trans ((if_neg (not_not.2 lower)).trans ?_)
    rw [takeApart_qualified.2 made]
    exact if_pos (byteSize_name made.1 ▸ long)
  | @reference p path notHex lower made short name =>
    have start : dropStart ((splitDomain text.toList).1 ++ ['/']) p.name = some path :=
      dropStart_eq_some_iff.2 (by simp [name])
    refine (if_neg (mt isHexId_iff.1 notHex)).trans ((if_neg (not_not.2 lower)).trans ?_)
    rw [takeApart_qualified.2 made]
    simp only [start]
    exact if_neg (Nat.not_lt_of_le (byteSize_name made.1 ▸ short))

/-- A text is read by its stages: each result is given exactly where its stage decides. The parts
of the qualified form are unique, and its domain can always be dropped from the name. -/
theorem reading_passes_stages (text : String) :
    (∀ result, Reference.parseNormalized text = result ↔ Decides text result) ∧
    (∀ p q, IsMadeOf text.toList p → IsMadeOf text.toList q → p = q) ∧
    ∀ p, IsMadeOf text.toList p → ∃ path, p.name = (splitDomain text.toList).1 ++ '/' :: path ∧
      dropStart ((splitDomain text.toList).1 ++ ['/']) p.name = some path := by
  refine ⟨fun result =>
      ⟨fun same => same ▸ decides_parseNormalized text, Decides.parseNormalized_eq⟩,
    fun _ _ first second => first.unique second, fun p made => ?_⟩
  obtain ⟨path, name⟩ := made.exists_path
  exact ⟨path, name, dropStart_eq_some_iff.2 (by simp [name])⟩

/-- A host with a port and a tag: the first colon belongs to the name, the second one does not. -/
theorem privateImage_passes_stages :
    IsMadeOf "registry.example.com:5000/team/fn:1.0".toList
        ⟨"registry.example.com:5000/team/fn".toList, some "1.0".toList, none⟩ ∧
      ∃ path, "registry.example.com:5000/team/fn".toList =
        "registry.example.com:5000".toList ++ '/' :: path ∧
          dropStart "registry.example.com:5000/".toList
            "registry.example.com:5000/team/fn".toList = some path := by
  have made : IsMadeOf "registry.example.com:5000/team/fn:1.0".toList
      ⟨"registry.example.com:5000/team/fn".toList, some "1.0".toList, none⟩ :=
    ⟨Parts.valid_iff.1 rfl, rfl⟩
  exact ⟨made, (reading_passes_stages _).2.2 _ made⟩

end SwarmDeploy.Image
