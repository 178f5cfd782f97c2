import SwarmDeploy.Proofs.Image.Qualified

/-! The normal form of image references.
The text of a reference is the qualified form of the text it was read from, and reading that text
again gives the same reference. So the canonical texts are the texts of references, and a
reference is determined by its text. -/

namespace SwarmDeploy.Image.Reference

/-- Reading the text of a reference passes the same stages with the same domain and remainder. -/
theorem parseNormalized_display {text : String} {r : Reference}
    (ok : parseNormalized text = .ok r) : parseNormalized r.display = .ok r := by
  obtain ⟨-, reads⟩ := parseNormalized_eq_ok_iff.1 ok
  have qualified := splitDomain_isQualified text.toList
  rw [parseNormalized_eq_ok_iff, reads.display_toList, qualified.splitDomain]
  exact ⟨not_isHexId_of_slash (by simp), reads⟩

theorem parseCanonical_eq_ok_iff {text : String} {r : Reference} :
    parseCanonical text = .ok r ↔ parseNormalized text = .ok r ∧ r.display = text := by
  unfold parseCanonical
  cases parsed : parseNormalized text with
  | error fault => simp [bind, Except.bind]
  | ok reference =>
    by_cases canonical : reference.display = text
    · simp only [bind, Except.bind, canonical, if_true, pure, Except.pure, Except.ok.injEq]
      constructor
      · rintro rfl
        exact ⟨rfl, canonical⟩
      · exact And.left
    · simp only [bind, Except.bind, canonical, if_false, Except.ok.injEq]
      constructor
      · intro thrown
        cases thrown
      · rintro ⟨rfl, display⟩
        exact absurd display canonical

theorem parseCanonical_display {text : String} {r : Reference}
    (ok : parseNormalized text = .ok r) : parseCanonical r.display = .ok r :=
  parseCanonical_eq_ok_iff.2 ⟨parseNormalized_display ok, rfl⟩

theorem eq_of_display_eq {text₁ text₂ : String} {r₁ r₂ : Reference}
    (ok₁ : parseNormalized text₁ = .ok r₁) (ok₂ : parseNormalized text₂ = .ok r₂)
    (same : r₁.display = r₂.display) : r₁ = r₂ := by
  have first := parseNormalized_display ok₁
  rw [same, parseNormalized_display ok₂] at first
  cases first
  rfl

/-- Normalization yields a normal form: the text of a reference is the domain and the remainder
that its source was split into, and both readings give the reference back from it. References
with one text are one, and the canonical texts are those of references. -/
theorem normalization_yields_normal_form :
    (∀ text r, parseNormalized text = .ok r →
      r.display.toList = (splitDomain text.toList).1 ++ '/' :: (splitDomain text.toList).2 ∧
        parseNormalized r.display = .ok r ∧ parseCanonical r.display = .ok r) ∧
    (∀ text₁ text₂ r₁ r₂, parseNormalized text₁ = .ok r₁ → parseNormalized text₂ = .ok r₂ →
      r₁.display = r₂.display → r₁ = r₂) ∧
    ∀ text, (∃ r, parseCanonical text = .ok r) ↔
      ∃ source r, parseNormalized source = .ok r ∧ r.display = text := by
  refine ⟨fun text r ok => ?_, fun _ _ _ _ => eq_of_display_eq, fun text => ?_⟩
  · have reads := (parseNormalized_eq_ok_iff.1 ok).2
    exact ⟨reads.display_toList, parseNormalized_display ok, parseCanonical_display ok⟩
  · constructor
    · rintro ⟨r, ok⟩
      obtain ⟨parsed, display⟩ := parseCanonical_eq_ok_iff.1 ok
      exact ⟨text, r, parsed, display⟩
    · rintro ⟨source, r, parsed, rfl⟩
      exact ⟨r, parseCanonical_display parsed⟩

/-- A reference on the former default domain, without its namespace. -/
theorem legacyHub_normal_form :
    parseNormalized "index.docker.io/nginx:1.0" =
        .ok ⟨"docker.io", "library/nginx", some "1.0", none⟩ ∧
      parseCanonical "docker.io/library/nginx:1.0" =
        .ok ⟨"docker.io", "library/nginx", some "1.0", none⟩ := by
  have parsed : parseNormalized "index.docker.io/nginx:1.0" =
      .ok ⟨"docker.io", "library/nginx", some "1.0", none⟩ := by rfl
  exact ⟨parsed, (normalization_yields_normal_form.1 _ _ parsed).2.2⟩

end SwarmDeploy.Image.Reference
