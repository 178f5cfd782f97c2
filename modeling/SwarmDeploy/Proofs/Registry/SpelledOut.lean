import SwarmDeploy.Proofs.Image.DefaultDomain
import SwarmDeploy.Proofs.Registry.Address

/-! The default registry, spelled out or left out.
Whether an image is qualified is a matter of the number of its components, not of a host in front.
Two components are qualified once, be the default registry spelled out or not. A single one is
qualified again when it is spelled out, and three or more are not qualified when it is left out. -/

namespace SwarmDeploy.Registry
open SwarmDeploy.Image SwarmDeploy.Text

variable {image other : String}

def spelledOut (image : String) : String :=
  defaultDomain ++ "/" ++ image

theorem toList_spelledOut (image : String) :
    (spelledOut image).toList = defaultDomain.toList ++ '/' :: image.toList := by
  simp [spelledOut]

theorem count_spelledOut (image : String) :
    (spelledOut image).toList.count '/' = image.toList.count '/' + 1 := by
  have noSlash : defaultDomain.toList.count '/' = 0 := by decide
  rw [toList_spelledOut, List.count_append, List.count_cons_self, noSlash, Nat.zero_add]

theorem spelledOut_ne (image : String) : spelledOut image ≠ image := by
  intro same
  have counts := count_spelledOut image
  rw [same] at counts
  omega

theorem qualify_of_few (few : image.toList.count '/' < 2) :
    qualify image defaultDomain = spelledOut image := by
  rw [qualify_eq, if_pos few, spelledOut]

theorem qualify_of_many (many : 2 ≤ image.toList.count '/') (defaultNamespace : String) :
    qualify image defaultNamespace = image := by
  rw [qualify_eq, if_neg (Nat.not_lt.2 many)]

theorem encodedLogin_congr {defaultNamespace : String}
    (same : qualify image defaultNamespace = qualify other defaultNamespace) (basic : String) :
    encodedLogin basic image defaultNamespace = encodedLogin basic other defaultNamespace := by
  simp only [encodedLogin, same]

theorem encodedLogin_eq_iff_of_refused {defaultNamespace : String} {error : ReferenceError}
    (refused : Reference.parseCanonical (qualify image defaultNamespace) = .error error)
    (differ : qualify image defaultNamespace ≠ qualify other defaultNamespace) (basic : String) :
    encodedLogin basic image defaultNamespace = encodedLogin basic other defaultNamespace ↔
      Reference.parseNormalized (qualify image defaultNamespace) = .error .nameTooLong ∧
        Reference.parseNormalized (qualify other defaultNamespace) = .error .nameTooLong := by
  have first : encodedLogin basic image defaultNamespace = .error (.invalidReference error) :=
    encodedLogin_eq_invalidReference_iff.2 refused
  rw [first, eq_comm, encodedLogin_eq_invalidReference_iff]
  simp only [← Reference.parseCanonical_eq_nameTooLong_iff]
  constructor
  · intro refused'
    have long := Reference.eq_nameTooLong_of_errors differ refused refused'
    exact ⟨long ▸ refused, long ▸ refused'⟩
  · rintro ⟨long, long'⟩
    rw [refused, Except.error.injEq] at long
    exact long ▸ long'

theorem exists_error_of_count_ne (noHost : NamesNoHost image.toList)
    (notTwo : image.toList.count '/' ≠ 1) :
    ∃ error, Reference.parseCanonical (qualify image defaultDomain) = .error error := by
  apply Reference.exists_error_of_qualified_ne
  by_cases none : image.toList.count '/' = 0
  · have noSlash : '/' ∉ image.toList := List.count_eq_zero.1 none
    rw [qualify_of_few (by omega), toList_spelledOut, qualified,
      splitDomain_of_noSlash (hostAndRest_default _) noSlash]
    intro same
    have lengths := congrArg List.length same
    simp [officialNamespace] at lengths
    omega
  · have slash : '/' ∈ image.toList := List.count_pos_iff.1 (by omega)
    rw [qualify_of_many (by omega), qualified, splitDomain_of_slash noHost.hostAndRest slash]
    intro same
    have lengths := congrArg List.length same
    simp at lengths
    omega

theorem qualify_spelledOut_ne (notTwo : image.toList.count '/' ≠ 1) :
    qualify image defaultDomain ≠ qualify (spelledOut image) defaultDomain := by
  have counts := count_spelledOut image
  by_cases none : image.toList.count '/' = 0
  · rw [qualify_of_few (by omega), qualify_of_few (by omega)]
    exact Ne.symm (spelledOut_ne _)
  · rw [qualify_of_many (by omega), qualify_of_many (by omega)]
    exact Ne.symm (spelledOut_ne _)

theorem nameTooLong_spelledOut (noHost : NamesNoHost image.toList)
    (notTwo : image.toList.count '/' ≠ 1)
    (long : Reference.parseNormalized (qualify image defaultDomain) = .error .nameTooLong) :
    Reference.parseNormalized (qualify (spelledOut image) defaultDomain) =
      .error .nameTooLong := by
  have counts := count_spelledOut image
  by_cases none : image.toList.count '/' = 0
  · have noSlash : '/' ∉ image.toList := List.count_eq_zero.1 none
    rw [qualify_of_few (by omega)] at long ⊢
    exact nameTooLong_doubled noSlash (toList_spelledOut _) (toList_spelledOut _) long
  · have slash : '/' ∈ image.toList := List.count_pos_iff.1 (by omega)
    rw [qualify_of_many (by omega)] at long ⊢
    refine nameTooLong_congr ?_ (by simp [toList_spelledOut]) long
    rw [splitDomain_of_slash noHost.hostAndRest slash, toList_spelledOut,
      splitDomain_of_slash (hostAndRest_default _) slash]

/-- Spelling out the default registry makes no difference to an image of two components. Any other
image that names no host is refused when the registry is left out, so that the logins are the same
only if its name is too long both times. -/
theorem login_of_spelledOut_iff {image : String} (noHost : NamesNoHost image.toList)
    (basic : String) :
    (encodedLogin basic image "docker.io" = encodedLogin basic (spelledOut image) "docker.io" ↔
      image.toList.count '/' = 1 ∨
        Reference.parseNormalized (qualify image "docker.io") = .error .nameTooLong) ∧
      (image.toList.count '/' ≠ 1 → ∃ error,
        encodedLogin basic image "docker.io" = .error (.invalidReference error)) := by
  change (_ = encodedLogin basic (spelledOut image) defaultDomain ↔ _) ∧ _
  by_cases two : image.toList.count '/' = 1
  · have counts := count_spelledOut image
    have same : qualify image defaultDomain = qualify (spelledOut image) defaultDomain := by
      rw [qualify_of_few (by omega), qualify_of_many (by omega)]
    exact ⟨iff_of_true (encodedLogin_congr same basic) (.inl two), fun other => absurd two other⟩
  · obtain ⟨error, refused⟩ := exists_error_of_count_ne noHost two
    refine ⟨?_, fun _ => ⟨error, encodedLogin_eq_invalidReference_iff.2 refused⟩⟩
    refine (encodedLogin_eq_iff_of_refused refused (qualify_spelledOut_ne two) basic).trans ?_
    rw [or_iff_right two]
    exact ⟨And.left, fun long => ⟨long, nameTooLong_spelledOut noHost two long⟩⟩

theorem twoComponents_have_one_login :
    NamesNoHost "alice/fn".toList ∧
      encodedLogin "dTpw" "alice/fn" "docker.io" =
        encodedLogin "dTpw" (spelledOut "alice/fn") "docker.io" := by
  have cut : cutFirst '/' "alice/fn".toList = some ("alice".toList, "fn".toList) := rfl
  have noHost : NamesNoHost "alice/fn".toList := namesNoHost_of_cut cut (by decide)
  exact ⟨noHost, (login_of_spelledOut_iff noHost "dTpw").1.2 (.inl (by decide))⟩

/-- Three components without a host: refused when the registry is left out, but not otherwise. -/
theorem threeComponents_refused_without_registry :
    NamesNoHost "a/b/c".toList ∧
      encodedLogin "dTpw" "a/b/c" "docker.io" =
        .error (.invalidReference (.nameNotCanonical "a/b/c")) ∧
      encodedLogin "dTpw" (spelledOut "a/b/c") "docker.io" =
        .ok (Login.encode ⟨"u", "p", "docker.io"⟩) := by
  have cut : cutFirst '/' "a/b/c".toList = some ("a".toList, "b/c".toList) := rfl
  have noHost : NamesNoHost "a/b/c".toList := namesNoHost_of_cut cut (by decide)
  exact ⟨noHost, by rfl, by rfl⟩

end SwarmDeploy.Registry
