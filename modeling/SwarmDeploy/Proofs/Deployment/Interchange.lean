import SwarmDeploy.Deployment
import SwarmDeploy.Proofs.Compile.Secrets
import SwarmDeploy.Proofs.Orchestrator.Serving
import SwarmDeploy.Proofs.Registry.Login

/-! A deployment over an engine and the same deployment over a simulated orchestrator.
The engine lists all secrets where the simulation lists the requested ones, but they are bound by
their exact names. An encoded login is always a header. So a deployment cannot tell them apart. -/

namespace SwarmDeploy.Deployment
open Orchestrator Compile Service Text

theorem bindSecrets_matching (setup : Setup) (names : List String) (mountDir : String) :
    bindSecrets names (setup.matching names) mountDir =
      bindSecrets names setup.secrets mountDir := by
  refine bindSecrets_of_named (named_of_filter ?_) mountDir
  rw [Setup.matching, List.filter_filter]
  refine List.filter_congr fun s _ => ?_
  rw [List.contains_eq_mem, Bool.and_self]

theorem isHeaderValue_of_visible {text : String}
    (visible : ∀ c ∈ text.toList, 0x20 ≤ c.toNat ∧ c.toNat < 0x7F) :
    isHeaderValue text = true := by
  have ascii : ∀ c ∈ text.toList, c.toNat < 0x80 := fun c mem => by
    have bounds := visible c mem
    omega
  rw [isHeaderValue, Utf8.ofString, Utf8.encode_of_ascii ascii, List.all_eq_true]
  intro b mem
  obtain ⟨c, inText, rfl⟩ := List.mem_map.1 mem
  have bounds := visible c inText
  have byte : (UInt8.ofNat c.toNat).toNat = c.toNat := Utf8.toNat_byte (by omega)
  simp only [Bool.or_eq_true, Bool.and_eq_true, decide_eq_true_eq, bne_iff_ne, ne_eq,
    UInt8.le_iff_toNat_le, ← UInt8.toNat_inj, byte, UInt8.reduceToNat]
  omega

theorem visible_symbol : ∀ value < 64,
    0x20 ≤ (Base64.Alphabet.urlSafe.symbol value).toNat ∧
      (Base64.Alphabet.urlSafe.symbol value).toNat < 0x7F := by
  decide

theorem isHeaderValue_encode (l : Registry.Login) : isHeaderValue l.encode = true := by
  apply isHeaderValue_of_visible
  intro c mem
  rw [Registry.Login.encode, String.toList_ofList] at mem
  rcases Base64.mem_encode _ mem with rfl | ⟨value, small, rfl⟩
  · decide
  · exact visible_symbol value small

theorem isHeaderValue_registryAuth {settings : DeploySettings} {r : Request}
    {auth : Option String} (ok : registryAuth settings r = .ok auth) :
    auth.all isHeaderValue = true := by
  unfold registryAuth at ok
  split at ok
  · cases ok
    rfl
  · rename_i basic given
    cases encoded : Registry.encodedLogin basic r.image settings.defaultRegistryNamespace with
    | error error =>
      rw [encoded] at ok
      cases ok
    | ok login =>
      rw [encoded] at ok
      cases ok
      obtain ⟨reference, user, password, -, rfl⟩ := Registry.encodedLogin_eq_ok encoded
      rw [Option.all_some]
      exact isHeaderValue_encode _

section
variable {α : Type} {settings : DeploySettings} {r : Request} {setup : Setup}

theorem portable_logAll {events : List Event} {rest : Plan α} (portable : rest.Portable setup) :
    (Plan.logAll events rest).Portable setup := by
  induction events with
  | nil => exact portable
  | cons event events ih => exact ih

theorem portable_withSecrets {next : Except SecretsFault (List SecretReference) → Plan α}
    (portable : ∀ bound, (next bound).Portable setup) :
    (withSecrets settings r next).Portable setup := by
  unfold withSecrets
  split
  · exact portable _
  · exact ⟨congrArg next (bindSecrets_matching setup _ _).symm, portable _⟩

theorem portable_withNetwork {next : Option String → Notes → Plan α}
    (portable : ∀ network lookup, (next network lookup).Portable setup) :
    (withNetwork settings r next).Portable setup := by
  unfold withNetwork
  split
  · exact portable _ _
  · exact portable _ _

theorem portable_submit {options : CreateOptions}
    (header : options.registryAuth.all isHeaderValue = true) (compiled : Compiled)
    (lookup : Notes) : (submit compiled options lookup).Portable setup := by
  refine ⟨header, ?_⟩
  cases setup.creation compiled.spec with
  | error failure => trivial
  | ok created => exact portable_logAll trivial

theorem portable_plan : (plan settings r).Portable setup := by
  unfold plan
  split
  · trivial
  · rename_i auth authenticated
    refine portable_withSecrets fun bound => ?_
    cases bound with
    | error fault => trivial
    | ok secrets =>
      refine portable_withNetwork fun network lookup => ?_
      split
      · trivial
      · exact portable_logAll (portable_submit (isHeaderValue_registryAuth authenticated) _ _)

end

/-- Over an engine that serves what a simulated orchestrator has, a deployment has the same
result and makes the same calls, and the engine is sent the requests for them. -/
theorem engine_mirrors_simulation (e : Engine) (setup : Setup)
    (listed : setup.failNetworks = false) (settings : DeploySettings) (r : Request)
    (sent : List EngineRequest) (record : Record) :
    Mirrors e sent ((plan settings r).run (e.through (serving e setup)) sent)
      ((plan settings r).run (simulated setup) record) :=
  portable_plan.mirrors e setup sent listed record

/-- A setup with one secret under two identifiers and another one beside it. -/
def crowdedSetup : Setup where
  networks := [⟨"n1", "func_functions"⟩]
  secrets := [⟨"s1", "api-key"⟩, ⟨"s2", "spare-key"⟩, ⟨"s3", "api-key"⟩]
  warnings := ["unable to pin image"]

def privateRequest : Request where
  service := "fn"
  image := "registry.example.com/alice/fn"
  network := none
  envProcess := none
  envVars := none
  constraints := none
  secrets := some ["api-key"]
  labels := none
  annotations := none
  limits := none
  requests := none
  readOnlyRootFilesystem := false
  registryAuth := some "dTpw"

theorem engine_mirrors_crowdedSetup :
    crowdedSetup.failNetworks = false ∧
      ((plan {} privateRequest).run (simulated crowdedSetup) {}).result =
        .ok ⟨"svc-fn", ["unable to pin image"], []⟩ ∧
      Mirrors ⟨"http://127.0.0.1:2375", "v1.41"⟩ []
        ((plan {} privateRequest).run (Engine.through ⟨"http://127.0.0.1:2375", "v1.41"⟩
          (serving ⟨"http://127.0.0.1:2375", "v1.41"⟩ crowdedSetup)) [])
        ((plan {} privateRequest).run (simulated crowdedSetup) {}) :=
  ⟨rfl, by rfl, engine_mirrors_simulation _ crowdedSetup rfl {} privateRequest [] {}⟩

end SwarmDeploy.Deployment
