import SwarmDeploy.Proofs.Image.Host
import SwarmDeploy.Proofs.Number.IntegerText
import SwarmDeploy.Proofs.Registry.Login

/-! The ports of registries.
A domain that a reference was read with has a colon only in front of its port, and the port is made
of digits. So a registry is refused for the number of its port, and for nothing else. -/

namespace SwarmDeploy.Registry
open SwarmDeploy.Image SwarmDeploy.Number SwarmDeploy.Text

variable {text : String} {r : Reference} {port : List Char} {n : Nat}

def HasPort (r : Reference) (port : List Char) : Prop :=
  ∃ host, r.domain.toList = host ++ ':' :: port

theorem domain_of_parsed (parsed : Reference.parseNormalized text = .ok r) :
    r.domain.toList ∈ Pattern.domain ∨ r.domain.toList ∈ Pattern.pathComponent := by
  have decides := decides_parseNormalized text
  rw [parsed] at decides
  cases decides with
  | reference _ _ made _ name =>
    have noSlash := (splitDomain_isQualified text.toList).noSlash
    rw [String.toList_ofList]
    exact (first_of_name noSlash (name ▸ made.1.name)).symm

theorem domain_cut (parsed : Reference.parseNormalized text = .ok r) :
    ':' ∉ r.domain.toList ∨ ∃ host port n, r.domain.toList = host ++ ':' :: port ∧
      ':' ∉ host ∧ IsDecimal port n := by
  rcases domain_of_parsed parsed with domain | component
  · have accepted := isDomain_iff.2 domain
    unfold isDomain at accepted
    split at accepted
    · rename_i none
      exact .inl (cutFirst_eq_none_iff.1 none)
    · rename_i host port some
      obtain ⟨noColon, eq⟩ := cutFirst_eq_some_iff.1 some
      simp only [isPort, Bool.and_eq_true, Bool.not_eq_true', List.isEmpty_eq_false_iff,
        List.all_eq_true] at accepted
      obtain ⟨-, notEmpty, ascii⟩ := accepted
      exact .inr ⟨host, port, _, eq, noColon, notEmpty, ascii, rfl⟩
  · exact .inl (over_pathComponent.not_mem component (by decide))

theorem count_colon_le (parsed : Reference.parseNormalized text = .ok r) :
    r.domain.toList.count ':' ≤ 1 := by
  rcases domain_cut parsed with noColon | ⟨host, port, n, eq, noColon, decimal⟩
  · rw [List.count_eq_zero.2 noColon]
    exact Nat.zero_le 1
  · have behind : ':' ∉ port := decimal.not_mem (by decide)
    rw [eq, List.count_append, List.count_cons_self, List.count_eq_zero.2 noColon,
      List.count_eq_zero.2 behind]

theorem HasPort.isDecimal (parsed : Reference.parseNormalized text = .ok r)
    (ported : HasPort r port) : ∃ n, IsDecimal port n := by
  obtain ⟨host, eq⟩ := ported
  have single := count_colon_le parsed
  rw [eq, List.count_append, List.count_cons_self] at single
  have noColon : ':' ∉ host := List.count_eq_zero.1 (by omega)
  have cut := cutFirst_eq_some_iff.2 ⟨noColon, eq⟩
  rcases domain_cut parsed with absent | ⟨host', port', n, eq', noColon', decimal⟩
  · rw [eq] at absent
    simp at absent
  · rw [cutFirst_eq_some_iff.2 ⟨noColon', eq'⟩] at cut
    cases cut
    exact ⟨n, decimal⟩

theorem isUsablePort_iff (decimal : IsDecimal port n) :
    isUsablePort port = true ↔ 0 < n ∧ n ≤ 65535 := by
  unfold isUsablePort
  cases read : readNatural maxPort port with
  | ok m =>
    obtain ⟨natural, le⟩ := readNatural_eq_ok_iff.1 read
    rw [decimal.isNatural_iff] at natural
    rw [← natural, decide_eq_true_eq]
    exact ⟨fun positive => ⟨positive, le⟩, And.left⟩
  | error fault =>
    have large : ¬n ≤ 65535 := by
      intro small
      have fits : readNatural maxPort port = .ok n :=
        readNatural_eq_ok_iff.2 ⟨.plain decimal, small⟩
      rw [fits] at read
      cases read
    simp [large]

theorem resolve_of_port (ported : HasPort r port) (decimal : IsDecimal port n) :
    Index.resolve r = if isUsablePort port then some ⟨r.domain, r.domain == defaultDomain⟩
      else none := by
  obtain ⟨host, eq⟩ := ported
  have behind : ':' ∉ port := decimal.not_mem (by decide)
  simp only [Index.resolve, cutLast_eq_some_iff.2 ⟨behind, eq⟩]

theorem resolve_of_not_mem (noPort : ':' ∉ r.domain.toList) :
    Index.resolve r = some ⟨r.domain, r.domain == defaultDomain⟩ := by
  simp only [Index.resolve, cutLast_eq_none noPort]

theorem resolve_eq_none_iff (parsed : Reference.parseNormalized text = .ok r) :
    Index.resolve r = none ↔ ∃ port n, HasPort r port ∧ IsDecimal port n ∧ (n = 0 ∨ 65535 < n) := by
  constructor
  · intro unresolved
    rcases domain_cut parsed with noPort | ⟨host, port, n, eq, -, decimal⟩
    · rw [resolve_of_not_mem noPort] at unresolved
      cases unresolved
    · refine ⟨port, n, ⟨host, eq⟩, decimal, ?_⟩
      rw [resolve_of_port ⟨host, eq⟩ decimal] at unresolved
      split at unresolved
      · cases unresolved
      · rename_i unusable
        rw [isUsablePort_iff decimal] at unusable
        omega
  · rintro ⟨port, n, ported, decimal, outside⟩
    have unusable : ¬isUsablePort port = true := by
      rw [isUsablePort_iff decimal]
      omega
    rw [resolve_of_port ported decimal, if_neg unusable]

theorem encodedLogin_eq_unresolvable_iff {basic image defaultNamespace : String}
    (canonical : Reference.parseCanonical (qualify image defaultNamespace) = .ok r) :
    encodedLogin basic image defaultNamespace = .error (.unresolvableRegistry r.domain) ↔
      Index.resolve r = none := by
  constructor
  · intro refused
    by_contra resolved
    rw [encodedLogin_eq_map canonical (Option.isSome_iff_ne_none.2 resolved),
      map_eq_error_iff] at refused
    rcases userPassword_error refused with ⟨fault, other⟩ | other <;> cases other
  · intro unresolved
    simp only [encodedLogin, canonical, unresolved]

/-- Registries are refused for their ports only. A domain has one colon at most, with digits behind
it; the registry is refused, as one that cannot be resolved, if and only if these stand for zero or
for more than 65535. Otherwise it has the name of the domain, and it is the official one if that is
the default domain. -/
theorem registry_refused_for_port {text : String} {r : Reference}
    (parsed : Reference.parseNormalized text = .ok r) :
    r.domain.toList.count ':' ≤ 1 ∧ (∀ port, HasPort r port → ∃ n, IsDecimal port n) ∧
      (Index.resolve r = none ↔
        ∃ port n, HasPort r port ∧ IsDecimal port n ∧ (n = 0 ∨ 65535 < n)) ∧
      (∀ basic image defaultNamespace,
        Reference.parseCanonical (qualify image defaultNamespace) = .ok r →
          (encodedLogin basic image defaultNamespace = .error (.unresolvableRegistry r.domain) ↔
            Index.resolve r = none)) ∧
      ∀ index, Index.resolve r = some index →
        index.name = r.domain ∧ (index.official = true ↔ r.domain = "docker.io") := by
  refine ⟨count_colon_le parsed, fun port ported => ported.isDecimal parsed,
    resolve_eq_none_iff parsed, fun basic image defaultNamespace canonical =>
      encodedLogin_eq_unresolvable_iff canonical, fun index resolved =>
        ⟨Index.name_of_resolve resolved, ?_⟩⟩
  rw [Index.eq_of_resolve resolved, beq_iff_eq]
  rfl

/-- Zeros in front do not count: the port is one too large, and not for its length. -/
theorem paddedPort_refused :
    Reference.parseNormalized "registry.local:0000065536/team/fn" =
        .ok ⟨"registry.local:0000065536", "team/fn", none, none⟩ ∧
      (Index.resolve ⟨"registry.local:0000065536", "team/fn", none, none⟩ = none ↔
        ∃ port n, HasPort ⟨"registry.local:0000065536", "team/fn", none, none⟩ port ∧
          IsDecimal port n ∧ (n = 0 ∨ 65535 < n)) ∧
      HasPort ⟨"registry.local:0000065536", "team/fn", none, none⟩ "0000065536".toList ∧
      IsDecimal "0000065536".toList 65536 := by
  have parsed : Reference.parseNormalized "registry.local:0000065536/team/fn" =
      .ok ⟨"registry.local:0000065536", "team/fn", none, none⟩ := by rfl
  have decimal : IsDecimal "0000065536".toList 65536 := ⟨by decide, List.all_eq_true.1 rfl, rfl⟩
  exact ⟨parsed, (registry_refused_for_port parsed).2.2.1, ⟨"registry.local".toList, rfl⟩, decimal⟩

end SwarmDeploy.Registry
