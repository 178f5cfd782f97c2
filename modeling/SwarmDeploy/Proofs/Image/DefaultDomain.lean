import SwarmDeploy.Proofs.Image.Completeness
import SwarmDeploy.Proofs.Image.NormalForm

/-! Images on the default domain, and the errors of images.
An image without a host has the same qualified form as with the default domain in front. All errors
but that of a name which is too long name the text that was read, so two texts are refused alike
only for their lengths. -/

namespace SwarmDeploy.Image
open SwarmDeploy.Text

variable {text : String} {cs : List Char}

def ReferenceError.text? : ReferenceError → Option String
  | .invalidFormat text => some text
  | .nameNotLowercase text => some text
  | .nameTooLong => none
  | .nameNotCanonical text => some text
  | .hexName text => some text

namespace Reference

theorem parseCanonical_of_parsed {r : Reference} (parsed : parseNormalized text = .ok r) :
    parseCanonical text =
      if r.display = text then .ok r else .error (.nameNotCanonical text) := by
  unfold parseCanonical
  rw [parsed]
  rfl

theorem parseCanonical_of_error {error : ReferenceError}
    (failed : parseNormalized text = .error error) : parseCanonical text = .error error := by
  unfold parseCanonical
  rw [failed]
  rfl

theorem parseCanonical_eq_error {error : ReferenceError}
    (failed : parseCanonical text = .error error) :
    parseNormalized text = .error error ∨ error = .nameNotCanonical text := by
  cases parsed : parseNormalized text with
  | error fault =>
    rw [parseCanonical_of_error parsed] at failed
    exact .inl failed
  | ok r =>
    rw [parseCanonical_of_parsed parsed] at failed
    split at failed
    · cases failed
    · cases failed
      exact .inr rfl

theorem text?_of_parseCanonical {error : ReferenceError}
    (failed : parseCanonical text = .error error) :
    error = .nameTooLong ∨ error.text? = some text := by
  rcases parseCanonical_eq_error failed with failed | rfl
  · have decides := decides_parseNormalized text
    rw [failed] at decides
    cases decides with
    | nameTooLong => exact .inl rfl
    | _ => exact .inr rfl
  · exact .inr rfl

/-- Two texts are refused alike only for the lengths of their names. -/
theorem eq_nameTooLong_of_errors {other : String} {error : ReferenceError} (differ : text ≠ other)
    (failed : parseCanonical text = .error error) (failed' : parseCanonical other = .error error) :
    error = .nameTooLong := by
  rcases text?_of_parseCanonical failed with long | named
  · exact long
  · rcases text?_of_parseCanonical failed' with long | named'
    · exact long
    · rw [named, Option.some.injEq] at named'
      exact absurd named' differ

theorem parseCanonical_eq_nameTooLong_iff :
    parseCanonical text = .error .nameTooLong ↔ parseNormalized text = .error .nameTooLong := by
  constructor
  · intro failed
    rcases parseCanonical_eq_error failed with failed | other
    · exact failed
    · cases other
  · exact parseCanonical_of_error

/-- A text is canonical only if its qualified form is the text itself. -/
theorem exists_error_of_qualified_ne (differ : qualified text.toList ≠ text.toList) :
    ∃ error, parseCanonical text = .error error := by
  cases canonical : parseCanonical text with
  | error error => exact ⟨error, rfl⟩
  | ok r =>
    obtain ⟨parsed, display⟩ := parseCanonical_eq_ok_iff.1 canonical
    have text := (parseNormalized_eq_ok_iff.1 parsed).2.display_toList
    rw [display] at text
    exact absurd text.symm differ

end Reference

def NamesNoHost (cs : List Char) : Prop :=
  ∀ first rest, '/' ∉ first → cs = first ++ '/' :: rest →
    '.' ∉ first ∧ ':' ∉ first ∧ ¬HasUppercase first ∧ first ≠ "localhost".toList

theorem looksLikeHost_eq_false_iff : looksLikeHost cs = false ↔
    '.' ∉ cs ∧ ':' ∉ cs ∧ ¬HasUppercase cs ∧ cs ≠ "localhost".toList := by
  rw [← lowercase_eq_self_iff]
  simp [looksLikeHost, and_assoc, and_comm, and_left_comm]

theorem namesNoHost_of_cut {first rest : List Char} (cut : cutFirst '/' cs = some (first, rest))
    (plain : looksLikeHost first = false) : NamesNoHost cs := by
  intro first' rest' noSlash eq
  rw [cutFirst_eq_some_iff.2 ⟨noSlash, eq⟩, Option.some.injEq, Prod.mk.injEq] at cut
  rw [cut.1]
  exact looksLikeHost_eq_false_iff.1 plain

theorem NamesNoHost.hostAndRest (noHost : NamesNoHost cs) :
    Image.hostAndRest cs = (defaultDomain.toList, cs) := by
  unfold Image.hostAndRest
  split
  · rename_i first rest cut
    obtain ⟨noSlash, eq⟩ := cutFirst_eq_some_iff.1 cut
    have plain : looksLikeHost first = false :=
      looksLikeHost_eq_false_iff.2 (noHost first rest noSlash eq)
    rw [plain, if_neg Bool.false_ne_true]
  · rfl

theorem hostAndRest_default (cs : List Char) :
    hostAndRest (defaultDomain.toList ++ '/' :: cs) = (defaultDomain.toList, cs) := by
  have cut : cutFirst '/' (defaultDomain.toList ++ '/' :: cs) = some (defaultDomain.toList, cs) :=
    cutFirst_eq_some_iff.2 ⟨by decide, rfl⟩
  have looks : looksLikeHost defaultDomain.toList = true := by decide
  simp only [hostAndRest, cut, looks, if_true]

theorem splitDomain_of_slash {rest : List Char}
    (found : hostAndRest cs = (defaultDomain.toList, rest)) (slash : '/' ∈ rest) :
    splitDomain cs = (defaultDomain.toList, rest) := by
  have notLegacy : defaultDomain.toList ≠ legacyDomain.toList := by decide
  simp only [splitDomain, found, if_neg notLegacy, slash, not_true_eq_false, and_false, if_false]

theorem splitDomain_of_noSlash {rest : List Char}
    (found : hostAndRest cs = (defaultDomain.toList, rest)) (noSlash : '/' ∉ rest) :
    splitDomain cs = (defaultDomain.toList, officialNamespace.toList ++ rest) := by
  have notLegacy : defaultDomain.toList ≠ legacyDomain.toList := by decide
  simp only [splitDomain, found, if_neg notLegacy, noSlash, not_false_eq_true, and_self, if_true]

theorem nameTooLong_congr {text text' : String}
    (same : splitDomain text.toList = splitDomain text'.toList) (slash : '/' ∈ text'.toList)
    (long : Reference.parseNormalized text = .error .nameTooLong) :
    Reference.parseNormalized text' = .error .nameTooLong := by
  have decides := decides_parseNormalized text
  rw [long] at decides
  cases decides with
  | nameTooLong _ lower made large =>
    have notHex : text'.toList ∉ Pattern.hexId := by
      rw [← isHexId_iff, not_isHexId_of_slash slash]
      exact Bool.false_ne_true
    simp only [HasLowercaseName, IsMadeOf, qualified, same] at lower made
    exact (Decides.nameTooLong notHex lower made large).parseNormalized_eq

theorem exists_component {p : Parts} (noSlash : '/' ∉ cs)
    (made : IsMadeOf (defaultDomain.toList ++ '/' :: cs) p) :
    ∃ component, p.name = defaultDomain.toList ++ '/' :: (officialNamespace.toList ++ component) ∧
      cs = component ++ p.behind := by
  obtain ⟨path, name, -, remainder⟩ := made.exists_remainder
  rw [splitDomain_of_noSlash (hostAndRest_default cs) noSlash] at name remainder
  have slashFree : '/' ∉ p.behind := made.1.slash_not_mem_rest
  rcases List.append_eq_append_iff.1 remainder with ⟨component, rfl, eq⟩ | ⟨more, official, eq⟩
  · exact ⟨component, name, eq⟩
  · -- The namespace ends with a slash, so nothing of it belongs to the tag or the digest.
    cases more.eq_nil_or_concat with
    | inl none =>
      rw [none, List.append_nil] at official
      rw [none, List.nil_append] at eq
      exact ⟨[], by rw [name, official, List.append_nil], eq.symm⟩
    | inr some =>
      obtain ⟨front, last, rfl⟩ := some
      have slash : last = '/' := by
        have ends := congrArg List.getLast? official
        simpa [officialNamespace] using ends.symm
      rw [eq, slash] at slashFree
      simp at slashFree

theorem IsMadeOf.doubled {p : Parts} (noSlash : '/' ∉ cs)
    (made : IsMadeOf (defaultDomain.toList ++ '/' :: cs) p) :
    ∃ name, IsMadeOf (defaultDomain.toList ++ '/' :: (defaultDomain.toList ++ '/' :: cs))
      ⟨name, p.tag, p.digest⟩ ∧ byteSize name = byteSize p.name + 2 := by
  obtain ⟨component, name, eq⟩ := exists_component noSlash made
  have official : officialNamespace.toList ++ component = "library".toList ++ '/' :: component :=
    rfl
  have accepted := isName_iff.2 made.1.name
  rw [name, official, isName_append (by decide), pieces_append (by decide), List.all_cons,
    Bool.and_eq_true] at accepted
  have inName : isName (defaultDomain.toList ++ '/' :: (defaultDomain.toList ++ '/' :: component)) =
      true := by
    rw [isName_append (by decide), pieces_append (by decide), List.all_cons, Bool.and_eq_true]
    exact ⟨⟨by decide, accepted.1.2⟩, accepted.2⟩
  have follows : Parts.Follows
      ⟨defaultDomain.toList ++ '/' :: (defaultDomain.toList ++ '/' :: component),
        p.tag, p.digest⟩ :=
    ⟨isName_iff.1 inName, made.1.tag, made.1.digest⟩
  refine ⟨_, ⟨follows, ?_⟩, ?_⟩
  · rw [qualified, splitDomain_of_slash (hostAndRest_default _) (by simp)]
    simp [Parts.text, Parts.behind, eq]
  · rw [byteSize_name follows, byteSize_name made.1, name]
    simp [defaultDomain, officialNamespace]

theorem nameTooLong_doubled {text text' : String} (noSlash : '/' ∉ cs)
    (single : text.toList = defaultDomain.toList ++ '/' :: cs)
    (double : text'.toList = defaultDomain.toList ++ '/' :: text.toList)
    (long : Reference.parseNormalized text = .error .nameTooLong) :
    Reference.parseNormalized text' = .error .nameTooLong := by
  have decides := decides_parseNormalized text
  rw [long] at decides
  cases decides with
  | @nameTooLong p _ lower made large =>
    have notHex : text'.toList ∉ Pattern.hexId := by
      rw [← isHexId_iff, not_isHexId_of_slash (by simp [double])]
      exact Bool.false_ne_true
    rw [single] at lower made double
    obtain ⟨name, made', size⟩ := made.doubled noSlash
    -- Whether the name is in lower case is a matter of tag and digest, which are the same.
    have small : ¬p.HasCapitalAlgorithm := made.hasLowercaseName_iff.1 lower
    rw [← double] at made'
    have lower' : HasLowercaseName text'.toList := made'.hasLowercaseName_iff.2 small
    have large' : 255 < byteSize name := by omega
    exact (Decides.nameTooLong notHex lower' made' large').parseNormalized_eq

end SwarmDeploy.Image
