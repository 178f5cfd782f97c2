import SwarmDeploy.Proofs.Image.NormalForm
import SwarmDeploy.Proofs.Registry.Login

/-! The registry that an encoded login names, and the one its image belongs to.
An image is qualified by counting its components, but read by looking at the first one. The two
agree unless there are just two components and the first one is a host. -/

namespace SwarmDeploy.Registry
open SwarmDeploy.Image SwarmDeploy.Text

theorem qualify_eq (image defaultNamespace : String) :
    qualify image defaultNamespace =
      if image.toList.count '/' < 2 then defaultNamespace ++ "/" ++ image else image := by
  have bound : (pieces '/' image.toList).length < 3 ↔ image.toList.count '/' < 2 := by
    rw [length_pieces]
    omega
  simp only [qualify, bound]

structure IsForeign (host rest cs : List Char) : Prop where
  text : cs = host ++ '/' :: rest
  noSlash : '/' ∉ host
  looks : looksLikeHost host = true
  notDefault : host ≠ defaultDomain.toList
  notLegacy : host ≠ legacyDomain.toList

theorem splitDomain_fst (cs : List Char) : (splitDomain cs).1 =
    if (hostAndRest cs).1 = legacyDomain.toList then defaultDomain.toList
    else (hostAndRest cs).1 := by
  unfold splitDomain
  extract_lets found domain
  split <;> rfl

theorem splitDomain_fst_of_isForeign {host rest cs : List Char} (foreign : IsForeign host rest cs) :
    (splitDomain cs).1 = host := by
  have cut : cutFirst '/' cs = some (host, rest) :=
    cutFirst_eq_some_iff.2 ⟨foreign.noSlash, foreign.text⟩
  have found : hostAndRest cs = (host, rest) := by
    simp only [hostAndRest, cut, foreign.looks, if_true]
  rw [splitDomain_fst, found, if_neg foreign.notLegacy]

theorem splitDomain_fst_eq_default {cs : List Char}
    (noForeign : ¬∃ host rest, IsForeign host rest cs) :
    (splitDomain cs).1 = defaultDomain.toList := by
  rw [splitDomain_fst]
  unfold hostAndRest
  split
  · rename_i host rest found
    obtain ⟨noSlash, text⟩ := cutFirst_eq_some_iff.1 found
    split
    · rename_i looks
      split
      · rfl
      · rename_i notLegacy
        by_contra notDefault
        exact noForeign ⟨host, rest, text, noSlash, looks, notDefault, notLegacy⟩
    · rfl
  · rfl

theorem splitDomain_fst_default (cs : List Char) :
    (splitDomain (defaultDomain.toList ++ '/' :: cs)).1 = defaultDomain.toList := by
  apply splitDomain_fst_eq_default
  intro named
  obtain ⟨host, rest, foreign⟩ := named
  have cut : cutFirst '/' (defaultDomain.toList ++ '/' :: cs) = some (defaultDomain.toList, cs) :=
    cutFirst_eq_some_iff.2 ⟨by decide, rfl⟩
  have cut' : cutFirst '/' (defaultDomain.toList ++ '/' :: cs) = some (host, rest) :=
    cutFirst_eq_some_iff.2 ⟨foreign.noSlash, foreign.text⟩
  rw [cut] at cut'
  cases cut'
  exact foreign.notDefault rfl

/-- Two components of which the first is a foreign host, so that qualifying hides it. -/
def HidesHost (image : String) : Prop :=
  ∃ host rest, IsForeign host rest image.toList ∧ '/' ∉ rest

theorem hidesHost_iff {image : String} (few : image.toList.count '/' < 2) :
    HidesHost image ↔ ∃ host rest, IsForeign host rest image.toList := by
  constructor
  · intro hides
    obtain ⟨host, rest, foreign, -⟩ := hides
    exact ⟨host, rest, foreign⟩
  · intro named
    obtain ⟨host, rest, foreign⟩ := named
    refine ⟨host, rest, foreign, fun mem => ?_⟩
    have more := List.count_pos_iff.2 mem
    rw [foreign.text, List.count_append, List.count_cons_self] at few
    omega

theorem not_hidesHost {image : String} (many : 2 ≤ image.toList.count '/') :
    ¬HidesHost image := by
  intro hides
  obtain ⟨host, rest, foreign, last⟩ := hides
  have before := List.count_eq_zero.2 foreign.noSlash
  have after := List.count_eq_zero.2 last
  rw [foreign.text, List.count_append, List.count_cons_self] at many
  omega

/-- The registry of an encoded login is that of the image, unless the image hides its host. -/
theorem login_names_registry_iff {basic image encoded : String} {r : Reference}
    (ok : encodedLogin basic image defaultDomain = .ok encoded)
    (parsed : Reference.parseNormalized image = .ok r) :
    ∃ login, Login.decode encoded = some login ∧
      (login.serverAddress = r.domain ↔ ¬HidesHost image) := by
  obtain ⟨q, user, password, canonical, rfl⟩ := encodedLogin_eq_ok ok
  refine ⟨⟨user, password, q.domain⟩, Login.decode_encode _, ?_⟩
  have domain := (parseNormalized_eq_ok_iff.1 parsed).2.domain_eq
  obtain ⟨normalized, -⟩ := Reference.parseCanonical_eq_ok_iff.1 canonical
  rw [qualify_eq] at normalized
  by_cases few : image.toList.count '/' < 2
  · rw [if_pos few] at normalized
    have qualified : (defaultDomain ++ "/" ++ image).toList =
        defaultDomain.toList ++ '/' :: image.toList := by simp
    have address : q.domain = defaultDomain := by
      rw [(parseNormalized_eq_ok_iff.1 normalized).2.domain_eq, qualified, splitDomain_fst_default,
        String.ofList_toList]
    simp only [address]
    rw [hidesHost_iff few]
    constructor
    · intro same named
      obtain ⟨host, rest, foreign⟩ := named
      rw [domain, splitDomain_fst_of_isForeign foreign] at same
      apply foreign.notDefault
      rw [same, String.toList_ofList]
    · intro noForeign
      rw [domain, splitDomain_fst_eq_default noForeign, String.ofList_toList]
  · rw [if_neg few, parsed] at normalized
    cases normalized
    exact ⟨fun _ => not_hidesHost (Nat.not_lt.1 few), fun _ => rfl⟩

theorem default_image_names_registry :
    encodedLogin "dTpw" "alice/fn" defaultDomain = .ok (Login.encode ⟨"u", "p", "docker.io"⟩) ∧
      Reference.parseNormalized "alice/fn" = .ok ⟨"docker.io", "alice/fn", none, none⟩ ∧
      ∃ login, Login.decode (Login.encode ⟨"u", "p", "docker.io"⟩) = some login ∧
        (login.serverAddress = "docker.io" ↔ ¬HidesHost "alice/fn") := by
  have ok : encodedLogin "dTpw" "alice/fn" defaultDomain =
      .ok (Login.encode ⟨"u", "p", "docker.io"⟩) := by rfl
  have parsed : Reference.parseNormalized "alice/fn" =
      .ok ⟨"docker.io", "alice/fn", none, none⟩ := by rfl
  exact ⟨ok, parsed, login_names_registry_iff ok parsed⟩

/-- A host and one component: the login names the default registry, where the image is not. -/
theorem hidden_host_names_default :
    encodedLogin "dTpw" "ghcr.io/fn" defaultDomain = .ok (Login.encode ⟨"u", "p", "docker.io"⟩) ∧
      Reference.parseNormalized "ghcr.io/fn" = .ok ⟨"ghcr.io", "fn", none, none⟩ ∧
      ∃ login, Login.decode (Login.encode ⟨"u", "p", "docker.io"⟩) = some login ∧
        login.serverAddress ≠ "ghcr.io" := by
  refine ⟨by rfl, by rfl, ⟨"u", "p", "docker.io"⟩, Login.decode_encode _, ?_⟩
  decide

end SwarmDeploy.Registry
