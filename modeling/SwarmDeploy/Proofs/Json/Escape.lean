import SwarmDeploy.Json.Value

/-! How characters are written inside quotes.
Every reader of quoted texts goes by the same three cases. -/

namespace SwarmDeploy.Json

def letters : List (Char × Char) :=
  [('"', '"'), ('\\', '\\'), (Char.ofNat 0x08, 'b'), ('\t', 't'), ('\n', 'n'),
    (Char.ofNat 0x0C, 'f'), ('\r', 'r')]

def numberEscape (n : Nat) : List Char :=
  ['\\', 'u', '0', '0', hexDigit (n / 16), hexDigit (n % 16)]

theorem escape_cases (c : Char) : (∃ e, (c, e) ∈ letters ∧ escape c = ['\\', e]) ∨
    (c.toNat < 0x20 ∧ escape c = numberEscape c.toNat) ∨
    0x20 ≤ c.toNat ∧ c ≠ '"' ∧ c ≠ '\\' ∧ escape c = [c] := by
  have named {n : Nat} (same : c.toNat = n) : c = Char.ofNat n := by rw [← same, Char.ofNat_toNat]
  unfold escape
  extract_lets n
  iterate 7
    split
    next same =>
      rw [named same]
      exact .inl ⟨_, by decide, rfl⟩
  split
  next control => exact .inr (.inl ⟨control, rfl⟩)
  next notQuote notBackslash _ _ _ _ _ visible =>
    refine .inr (.inr ⟨by omega, ?_, ?_, rfl⟩)
    · rintro rfl
      exact notQuote rfl
    · rintro rfl
      exact notBackslash rfl

end SwarmDeploy.Json
