import SwarmDeploy.Proofs.Image.Stages

/-! Which texts of the grammar are accepted.
The name is asked for lower case before the grammar is consulted, and what counts as the name then
goes up to the first colon of the remainder. Behind a tag that is the path. Without a tag the name
of a digest's algorithm counts as well, so a capital letter there keeps a reference out. -/

namespace SwarmDeploy.Image
open SwarmDeploy.Text
open scoped Computability

variable {cs : List Char} {p : Parts}

def HasUppercase (cs : List Char) : Prop :=
  ∃ c ∈ cs, lower c ≠ [c]

theorem hasUppercase_append {ds : List Char} :
    HasUppercase (cs ++ ds) ↔ HasUppercase cs ∨ HasUppercase ds := by
  simp only [HasUppercase, List.mem_append, or_and_right, exists_or]

theorem eq_of_lower_append {c : Char} {ds : List Char} (same : lower c ++ ds = c :: cs) :
    lower c = [c] ∧ ds = cs := by
  unfold lower at same ⊢
  split_ifs at same ⊢ with dotted
  · obtain ⟨rfl, -⟩ := List.cons.inj same
    exact absurd dotted (by decide)
  · split at same
    · obtain ⟨first, rfl⟩ := List.cons.inj same
      exact ⟨by rw [first], rfl⟩
    · exact ⟨rfl, (List.cons.inj same).2⟩

theorem lowercase_eq_self_iff : lowercase cs = cs ↔ ¬HasUppercase cs := by
  simp only [HasUppercase, not_exists, not_and, not_not]
  induction cs with
  | nil => simp [lowercase]
  | cons c cs ih =>
    have cons : lowercase (c :: cs) = lower c ++ lowercase cs := rfl
    rw [cons, List.forall_mem_cons, ← ih]
    constructor
    · exact eq_of_lower_append
    · rintro ⟨first, later⟩
      rw [first, later]
      rfl

theorem lower_of_isPathCharacter {c : Char} (class_ : isPathCharacter c = true) :
    lower c = [c] := by
  have all : ∀ n < 0x80, isPathCharacter (Char.ofNat n) = true →
      lower (Char.ofNat n) = [Char.ofNat n] := by decide +kernel
  have ascii : c.toNat < 0x80 := by
    refine toNat_lt_of_isNameCharacter ?_
    simp only [isPathCharacter, isLowerOrDigit, isNameCharacter, isDomainCharacter,
      isLetterOrDigit, isLetter, Bool.or_eq_true, beq_iff_eq] at class_ ⊢
    tauto
  have small := all c.toNat ascii
  rw [Char.ofNat_toNat] at small
  exact small class_

def Parts.behind (p : Parts) : List Char :=
  (p.tag.elim [] fun t => ':' :: t) ++ p.digest.elim [] fun d => '@' :: d

/-- There is no tag, and the name of the digest's algorithm has a capital letter. -/
def Parts.HasCapitalAlgorithm (p : Parts) : Prop :=
  p.tag = none ∧ ∃ d ∈ p.digest, HasUppercase (beforeFirst ':' d)

theorem IsMadeOf.exists_remainder (made : IsMadeOf cs p) :
    ∃ path, p.name = (splitDomain cs).1 ++ '/' :: path ∧
      path ∈ separated '/' Pattern.pathComponent ∧ (splitDomain cs).2 = path ++ p.behind := by
  obtain ⟨path, name⟩ := made.exists_path
  have noSlash := (splitDomain_isQualified cs).noSlash
  have inName := isName_iff.2 made.1.name
  rw [name] at inName
  refine ⟨path, name, mem_components_iff.2 ((isName_append noSlash path).1 inName).1, ?_⟩
  have text := made.2
  rw [Parts.text, name, qualified] at text
  simpa [Parts.behind] using text.symm

theorem over_components :
    Over (fun c => isPathCharacter c || c == '/') (separated '/' Pattern.pathComponent) :=
  Over.separated (over_pathComponent.mono fun c class_ => by simp [class_]) rfl

theorem not_hasUppercase_path {path : List Char}
    (mem : path ∈ separated '/' Pattern.pathComponent) : ¬HasUppercase path := by
  rintro ⟨c, occurs, upper⟩
  rcases Bool.or_eq_true_iff.1 (over_components path mem c occurs) with class_ | slash
  · exact upper (lower_of_isPathCharacter class_)
  · rw [beq_iff_eq.1 slash] at upper
    exact upper (by decide)

theorem beforeFirst_digest {digest : List Char} (mem : digest ∈ Pattern.digest) :
    ∃ hex, ':' ∉ beforeFirst ':' digest ∧ digest = beforeFirst ':' digest ++ ':' :: hex := by
  obtain ⟨algorithm, named, _, behind, rfl⟩ := Language.mem_mul.1 mem
  obtain ⟨c, hex, colon, -, rfl⟩ := mem_oneOf_mul.1 behind
  have absent : ':' ∉ algorithm := over_algorithm.not_mem named (by decide)
  rw [beq_iff_eq.1 colon, beforeFirst_append absent]
  exact ⟨hex, absent, rfl⟩

/-- What is in front of the first colon: the path, and an algorithm's name if no tag is between. -/
theorem beforeFirst_remainder (follows : p.Follows) {path : List Char} (noColon : ':' ∉ path) :
    beforeFirst ':' (path ++ p.behind) =
      path ++ if p.tag = none then
        p.digest.elim [] (fun d => '@' :: beforeFirst ':' d) else [] := by
  obtain ⟨name, tag, digest⟩ := p
  cases tag with
  | some t => simpa [Parts.behind] using beforeFirst_append noColon _
  | none =>
    cases digest with
    | none => simpa [Parts.behind] using beforeFirst_of_absent noColon
    | some d =>
      obtain ⟨hex, absent, eq⟩ := beforeFirst_digest (follows.digest d rfl)
      have front : ':' ∉ path ++ '@' :: beforeFirst ':' d := by
        simp [noColon, absent]
      have text : path ++ Parts.behind ⟨name, none, some d⟩ =
          (path ++ '@' :: beforeFirst ':' d) ++ ':' :: hex := by
        simp [Parts.behind, ← eq]
      rw [text, beforeFirst_append front]
      rfl

theorem hasLowercaseName_iff : HasLowercaseName cs ↔
    ¬HasUppercase (beforeFirst ':' (splitDomain cs).2) :=
  lowercase_eq_self_iff

theorem IsMadeOf.hasLowercaseName_iff (made : IsMadeOf cs p) :
    HasLowercaseName cs ↔ ¬p.HasCapitalAlgorithm := by
  obtain ⟨path, -, inPath, remainder⟩ := made.exists_remainder
  have noColon : ':' ∉ path := over_components.not_mem inPath (by decide)
  have atSign : lower '@' = ['@'] := by decide
  have algorithm : HasUppercase (if p.tag = none then
      p.digest.elim [] (fun d => '@' :: beforeFirst ':' d) else []) ↔ p.HasCapitalAlgorithm := by
    obtain ⟨name, tag, digest⟩ := p
    cases tag <;> cases digest <;> simp [HasUppercase, Parts.HasCapitalAlgorithm, atSign]
  rw [Image.hasLowercaseName_iff, remainder, beforeFirst_remainder made.1 noColon,
    hasUppercase_append, algorithm, or_iff_right (not_hasUppercase_path inPath)]

def Parts.reference (p : Parts) (domain path : List Char) : Reference :=
  ⟨String.ofList domain, String.ofList path, p.tag.map String.ofList, p.digest.map String.ofList⟩

variable {text : String}

theorem IsMadeOf.accepted (made : IsMadeOf text.toList p) (notHex : text.toList ∉ Pattern.hexId)
    (short : byteSize p.name ≤ 255) (small : ¬p.HasCapitalAlgorithm) {path : List Char}
    (name : p.name = (splitDomain text.toList).1 ++ '/' :: path) :
    Reference.parseNormalized text = .ok (p.reference (splitDomain text.toList).1 path) :=
  (Decides.reference notHex (made.hasLowercaseName_iff.2 small) made short name).parseNormalized_eq

theorem IsMadeOf.refused (made : IsMadeOf text.toList p) (notHex : text.toList ∉ Pattern.hexId)
    (capital : p.HasCapitalAlgorithm) :
    Reference.parseNormalized text = .error (.nameNotLowercase text) :=
  (Decides.nameNotLowercase notHex
    (mt made.hasLowercaseName_iff.1 (not_not.2 capital))).parseNormalized_eq

theorem parseNormalized_eq_nameNotLowercase_iff :
    Reference.parseNormalized text = .error (.nameNotLowercase text) ↔
      text.toList ∉ Pattern.hexId ∧
        HasUppercase (beforeFirst ':' (splitDomain text.toList).2) := by
  constructor
  · intro refused
    have decides := decides_parseNormalized text
    rw [refused] at decides
    cases decides with
    | nameNotLowercase notHex upper =>
      exact ⟨notHex, not_not.1 (mt Image.hasLowercaseName_iff.2 upper)⟩
  · rintro ⟨notHex, upper⟩
    have notLower : ¬HasLowercaseName text.toList :=
      mt Image.hasLowercaseName_iff.1 (not_not.2 upper)
    exact (Decides.nameNotLowercase notHex notLower).parseNormalized_eq

theorem cutFirst_append_of_not_mem {c : Char} {suffix : List Char} (absent : c ∉ suffix) :
    cutFirst c (cs ++ suffix) = (cutFirst c cs).map fun parts => (parts.1, parts.2 ++ suffix) := by
  induction cs with
  | nil => simp [cutFirst, cutFirst_eq_none_iff.2 absent]
  | cons d cs ih =>
    by_cases same : d = c
    · simp [cutFirst, same]
    · simp [cutFirst, same, ih, Function.comp_def]

theorem splitDomain_append {suffix : List Char} (noSlash : '/' ∉ suffix) :
    splitDomain (cs ++ suffix) = ((splitDomain cs).1, (splitDomain cs).2 ++ suffix) := by
  have found : hostAndRest (cs ++ suffix) = ((hostAndRest cs).1, (hostAndRest cs).2 ++ suffix) := by
    unfold hostAndRest
    rw [cutFirst_append_of_not_mem noSlash]
    cases cutFirst '/' cs with
    | none => rfl
    | some parts =>
      simp only [Option.map_some]
      split <;> rfl
  simp only [splitDomain, found, List.mem_append, noSlash, or_false]
  generalize (if (hostAndRest cs).1 = legacyDomain.toList then defaultDomain.toList
    else (hostAndRest cs).1) = domain
  by_cases official : domain = defaultDomain.toList ∧ '/' ∉ (hostAndRest cs).2
  · rw [if_pos official, if_pos official, List.append_assoc]
  · rw [if_neg official, if_neg official]

theorem qualified_append {suffix : List Char} (noSlash : '/' ∉ suffix) :
    qualified (cs ++ suffix) = qualified cs ++ suffix := by
  simp [qualified, splitDomain_append noSlash]

theorem IsMadeOf.untagged {name tag digest : List Char}
    (made : IsMadeOf (name ++ ':' :: tag ++ '@' :: digest) p) (tagged : p.tag = some tag)
    (digested : p.digest = some digest) :
    IsMadeOf (name ++ '@' :: digest) ⟨p.name, none, p.digest⟩ ∧
      splitDomain (name ++ '@' :: digest) =
        ((splitDomain (name ++ ':' :: tag ++ '@' :: digest)).1,
          (splitDomain name).2 ++ '@' :: digest) := by
  obtain ⟨follows, text⟩ := made
  have inTag : '/' ∉ tag := over_tag.not_mem (follows.tag tag tagged) (by decide)
  have inDigest : '/' ∉ '@' :: digest := by
    simpa using slash_not_mem_digest digest (follows.digest digest digested)
  have inBoth : '/' ∉ ':' :: tag ++ '@' :: digest := by
    rw [List.cons_append, List.mem_cons, List.mem_append]
    simp [inTag, inDigest]
  rw [List.append_assoc] at text ⊢
  rw [splitDomain_append inBoth, splitDomain_append inDigest]
  rw [qualified_append inBoth, Parts.text, tagged, digested, List.append_assoc] at text
  have same : p.name = qualified name := List.append_cancel_right text
  refine ⟨⟨⟨follows.name, by simp, follows.digest⟩, ?_⟩, rfl⟩
  rw [qualified_append inDigest, Parts.text, same, digested]
  simp

theorem over_hexId :
    Over (fun c => isAsciiDigit c || ('a' ≤ c && c ≤ 'f')) Pattern.hexId :=
  Over.pow (Over.oneOf fun _ class_ => class_) 64

theorem untagged_accepted_iff {name tag digest : String} {r : Reference}
    (parsed : Reference.parseNormalized (name ++ ":" ++ tag ++ "@" ++ digest) = .ok r)
    (tagged : r.tag = some tag) (digested : r.digest = some digest) :
    Reference.parseNormalized (name ++ "@" ++ digest) = .ok { r with tag := none } ↔
      ¬HasUppercase (beforeFirst ':' digest.toList) := by
  have decides := decides_parseNormalized (name ++ ":" ++ tag ++ "@" ++ digest)
  rw [parsed] at decides
  cases decides with
  | @reference p path _ _ made short eq =>
    have withTag : (name ++ ":" ++ tag ++ "@" ++ digest).toList =
        name.toList ++ ':' :: tag.toList ++ '@' :: digest.toList := by simp
    have noTag : (name ++ "@" ++ digest).toList = name.toList ++ '@' :: digest.toList := by simp
    simp only [Option.map_eq_some_iff] at tagged digested
    obtain ⟨t, isTag, rfl⟩ := tagged
    obtain ⟨d, isDigest, rfl⟩ := digested
    rw [String.toList_ofList, String.toList_ofList] at withTag
    rw [String.toList_ofList] at noTag
    rw [withTag] at made eq
    obtain ⟨untagged, split⟩ := made.untagged isTag isDigest
    rw [← noTag] at untagged
    have notHex : (name ++ "@" ++ String.ofList d).toList ∉ Pattern.hexId := fun hex =>
      over_hexId.not_mem hex (c := '@') (by decide) (by simp)
    have capital : Parts.HasCapitalAlgorithm ⟨p.name, none, p.digest⟩ ↔
        HasUppercase (beforeFirst ':' d) := by
      simp [Parts.HasCapitalAlgorithm, isDigest]
    rw [String.toList_ofList, ← capital]
    constructor
    · intro accepted isCapital
      rw [untagged.refused notHex isCapital] at accepted
      cases accepted
    · intro small
      have domain : (splitDomain (name ++ "@" ++ String.ofList d).toList).1 =
          (splitDomain (name.toList ++ ':' :: t ++ '@' :: d)).1 := by rw [noTag, split]
      rw [untagged.accepted notHex short small (domain ▸ eq), Parts.reference, domain, withTag]
      rfl

/-- What stands in front of the first colon of the remainder, up to an at sign. -/
def repositoryName (cs : List Char) : List Char :=
  beforeFirst '@' (beforeFirst ':' (splitDomain cs).2)

theorem hasUppercase_iff_of_beforeFirst {c : Char} (stays : lower c = [c]) : HasUppercase cs ↔
    HasUppercase (beforeFirst c cs) ∨
      ∃ behind, cs = beforeFirst c cs ++ c :: behind ∧ HasUppercase behind := by
  cases cut : cutFirst c cs with
  | none =>
    have absent := cutFirst_eq_none_iff.1 cut
    rw [beforeFirst_of_absent absent, or_iff_left]
    rintro ⟨behind, eq, -⟩
    simpa using congrArg List.length eq
  | some parts =>
    obtain ⟨absent, rfl⟩ := cutFirst_eq_some_iff.1 cut
    have cons : HasUppercase (c :: parts.2) ↔ HasUppercase parts.2 := by
      simp [HasUppercase, stays]
    rw [beforeFirst_append absent, hasUppercase_append, cons]
    simp

/-- What the grammar says and the capital letters of an algorithm decide. A text of the grammar is
accepted unless its digest stands right behind the name and has a capital letter in front of its
colon. Such letters are taken for those of the name; else a name that is not in lower case has a
capital letter of its own. A tag in front of the digest can be left out under the same condition. -/
theorem grammar_is_accepted_iff (text : String) :
    (∀ p, text.toList ∉ Pattern.hexId → IsMadeOf text.toList p → byteSize p.name ≤ 255 →
      ((∃ r, Reference.parseNormalized text = .ok r) ↔ ¬p.HasCapitalAlgorithm)) ∧
    (Reference.parseNormalized text = .error (.nameNotLowercase text) ↔
      text.toList ∉ Pattern.hexId ∧
        (HasUppercase (repositoryName text.toList) ∨ ∃ algorithm,
          beforeFirst ':' (splitDomain text.toList).2 =
            repositoryName text.toList ++ '@' :: algorithm ∧ HasUppercase algorithm)) ∧
    ∀ name tag digest r, text = name ++ ":" ++ tag ++ "@" ++ digest →
      Reference.parseNormalized text = .ok r → r.tag = some tag → r.digest = some digest →
        (Reference.parseNormalized (name ++ "@" ++ digest) = .ok { r with tag := none } ↔
          ¬HasUppercase (beforeFirst ':' digest.toList)) := by
  refine ⟨fun p notHex made short => ?_, ?_, ?_⟩
  · obtain ⟨path, name⟩ := made.exists_path
    constructor
    · rintro ⟨r, parsed⟩ capital
      rw [made.refused notHex capital] at parsed
      cases parsed
    · exact fun small => ⟨_, made.accepted notHex short small name⟩
  · rw [parseNormalized_eq_nameNotLowercase_iff,
      hasUppercase_iff_of_beforeFirst (c := '@') (by decide)]
    rfl
  · rintro name tag digest r rfl parsed tagged digested
    exact untagged_accepted_iff parsed tagged digested

/-- A capital algorithm behind a tag: accepted, and not without the tag. -/
theorem taggedCapital_is_accepted :
    Reference.parseNormalized "fn:1@SHA256:0123456789abcdef0123456789abcdef" =
        .ok ⟨"docker.io", "library/fn", some "1", some "SHA256:0123456789abcdef0123456789abcdef"⟩ ∧
      (Reference.parseNormalized "fn@SHA256:0123456789abcdef0123456789abcdef" =
          .ok ⟨"docker.io", "library/fn", none, some "SHA256:0123456789abcdef0123456789abcdef"⟩ ↔
        ¬HasUppercase "SHA256".toList) := by
  have parsed : Reference.parseNormalized "fn:1@SHA256:0123456789abcdef0123456789abcdef" =
      .ok ⟨"docker.io", "library/fn", some "1",
        some "SHA256:0123456789abcdef0123456789abcdef"⟩ := by rfl
  exact ⟨parsed, (grammar_is_accepted_iff _).2.2 "fn" "1" "SHA256:0123456789abcdef0123456789abcdef"
    _ rfl parsed rfl rfl⟩

/-- A capital algorithm right behind a name in lower case: the grammar has the text, with a short
name, but the name is said not to be in lower case. -/
theorem capitalAlgorithm_is_refused :
    "fn@SHA256:0123456789abcdef0123456789abcdef".toList ∉ Pattern.hexId ∧
      IsMadeOf "fn@SHA256:0123456789abcdef0123456789abcdef".toList
        ⟨"docker.io/library/fn".toList, none,
          some "SHA256:0123456789abcdef0123456789abcdef".toList⟩ ∧
      byteSize "docker.io/library/fn".toList ≤ 255 ∧
      ¬HasUppercase (repositoryName "fn@SHA256:0123456789abcdef0123456789abcdef".toList) ∧
      Reference.parseNormalized "fn@SHA256:0123456789abcdef0123456789abcdef" =
        .error (.nameNotLowercase "fn@SHA256:0123456789abcdef0123456789abcdef") := by
  have name : repositoryName "fn@SHA256:0123456789abcdef0123456789abcdef".toList =
      "library/fn".toList := by rfl
  refine ⟨fun hex => ?_, ⟨Parts.valid_iff.1 rfl, rfl⟩, by decide, ?_, by rfl⟩
  · exact over_hexId.not_mem hex (c := '@') (by decide) (by decide)
  · rw [name, ← lowercase_eq_self_iff]
    rfl

end SwarmDeploy.Image
