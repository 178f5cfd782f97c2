import SwarmDeploy.Deployment
import SwarmDeploy.Proofs.Orchestrator.Exchange

/-! The courses that a deployment can take.
Each stage is described by its exchanges and by what it hands on. A course is made of stages up
to the one that ends the deployment, and every run takes one of the courses. -/

namespace SwarmDeploy.Deployment
open Orchestrator Compile Service

variable {settings : DeploySettings} {r : Request} {trace : List Exchange}

inductive SecretsLookup (settings : DeploySettings) (r : Request) :
    List Exchange → Except SecretsFault (List SecretReference) → Prop
  | notRequested : r.secretNames = [] → SecretsLookup settings r [] (.ok [])
  | notListed (failure : Failure) : r.secretNames ≠ [] →
    SecretsLookup settings r [.findSecrets r.secretNames (.error failure)]
      (.error (.notListed failure))
  | listed (found : List SecretSummary) : r.secretNames ≠ [] →
    SecretsLookup settings r [.findSecrets r.secretNames (.ok found)]
      (bindSecrets r.secretNames found settings.secretMountDir)

theorem yields_withSecrets {α : Type} {result : α}
    {next : Except SecretsFault (List SecretReference) → Plan α}
    (yields : (withSecrets settings r next).Yields trace result) :
    ∃ lookup bound rest, trace = lookup ++ rest ∧ SecretsLookup settings r lookup bound ∧
      (next bound).Yields rest result := by
  unfold withSecrets at yields
  split at yields
  · rename_i none
    exact ⟨[], _, trace, rfl, .notRequested none, yields⟩
  · rename_i some
    cases yields with
    | @findSecrets _ _ reply rest _ yields =>
      cases reply with
      | error failure => exact ⟨_, _, rest, rfl, .notListed failure some, yields⟩
      | ok found => exact ⟨_, _, rest, rfl, .listed found some, yields⟩

/-- The lookup of the default network; the notes hold its failure. -/
inductive NetworkLookup (settings : DeploySettings) (r : Request) :
    List Exchange → Option String → Notes → Prop
  | requested : r.requestedNetwork ≠ none → NetworkLookup settings r [] none {}
  | listed (networks : List NetworkSummary) : r.requestedNetwork = none →
    NetworkLookup settings r [.findNetworks settings.networkLabel (.ok networks)]
      (selectNetwork networks) {}
  | failed (failure : Failure) : r.requestedNetwork = none →
    NetworkLookup settings r [.findNetworks settings.networkLabel (.error failure)] none
      (({} : Notes).push (.networkLookupFailed failure.message))

theorem yields_withNetwork {α : Type} {result : α} {next : Option String → Notes → Plan α}
    (yields : (withNetwork settings r next).Yields trace result) :
    ∃ lookup network notes rest, trace = lookup ++ rest ∧
      NetworkLookup settings r lookup network notes ∧ (next network notes).Yields rest result := by
  unfold withNetwork at yields
  split at yields
  · rename_i name requested
    exact ⟨[], _, _, trace, rfl, .requested (by simp [requested]), yields⟩
  · rename_i none
    cases yields with
    | @findNetworks _ _ reply rest _ yields =>
      cases reply with
      | ok networks => exact ⟨_, _, _, rest, rfl, .listed networks none, yields⟩
      | error failure =>
        exact ⟨_, _, _, rest, rfl, .failed failure none, Plan.yields_logAll.1 yields⟩

def submission (compiled : Compiled) (lookup : Notes) : Reply Created → Except DeployError Outcome
  | .error failure => .error (.serviceCreate failure)
  | .ok created => .ok ⟨created.id, created.warnings.getD [],
      lookup.diagnostics ++ compiled.notes.diagnostics⟩

theorem yields_submit {compiled : Compiled} {options : CreateOptions} {lookup : Notes}
    {result : Except DeployError Outcome}
    (yields : (submit compiled options lookup).Yields trace result) :
    ∃ reply, trace = [.create compiled.spec options reply] ∧
      result = submission compiled lookup reply := by
  unfold submit at yields
  cases yields with
  | @create _ _ _ reply rest _ yields =>
    cases reply with
    | error failure =>
      cases yields
      exact ⟨_, rfl, rfl⟩
    | ok created =>
      cases Plan.yields_logAll.1 yields
      exact ⟨_, rfl, rfl⟩

/-- The exchanges of a deployment and its result, by the stage that ends it. -/
inductive Course (settings : DeploySettings) (r : Request) :
    List Exchange → Except DeployError Outcome → Prop
  | unauthenticated {error : Registry.AuthError} : registryAuth settings r = .error error →
    Course settings r [] (.error (.registryAuth error))
  | unbound {auth : Option String} {secrets : List Exchange} {fault : SecretsFault} :
    registryAuth settings r = .ok auth → SecretsLookup settings r secrets (.error fault) →
      Course settings r secrets (.error (.secrets fault))
  | conflicting {auth : Option String} {secrets networks : List Exchange}
    {bound : List SecretReference} {network : Option String} {lookup : Notes}
    {conflict : LabelConflict} :
    registryAuth settings r = .ok auth → SecretsLookup settings r secrets (.ok bound) →
      NetworkLookup settings r networks network lookup →
        compile settings r bound network = .error conflict →
          Course settings r (secrets ++ networks) (.error (.labels conflict))
  | submitted {auth : Option String} {secrets networks : List Exchange}
    {bound : List SecretReference} {network : Option String} {lookup : Notes}
    {compiled : Compiled} (reply : Reply Created) :
    registryAuth settings r = .ok auth → SecretsLookup settings r secrets (.ok bound) →
      NetworkLookup settings r networks network lookup →
        compile settings r bound network = .ok compiled →
          Course settings r (secrets ++ (networks ++ [.create compiled.spec ⟨auth⟩ reply]))
            (submission compiled lookup reply)

theorem course_of_yields {result : Except DeployError Outcome}
    (yields : (plan settings r).Yields trace result) : Course settings r trace result := by
  unfold plan at yields
  split at yields
  · rename_i error refused
    cases yields
    exact .unauthenticated refused
  · rename_i auth authenticated
    obtain ⟨secrets, bound, rest, rfl, secretsLookup, yields⟩ := yields_withSecrets yields
    cases bound with
    | error fault =>
      cases yields
      rw [List.append_nil]
      exact .unbound authenticated secretsLookup
    | ok bound =>
      obtain ⟨networks, network, lookup, rest, rfl, networkLookup, yields⟩ :=
        yields_withNetwork yields
      split at yields
      · rename_i conflict conflicting
        cases yields
        rw [List.append_nil]
        exact .conflicting authenticated secretsLookup networkLookup conflicting
      · rename_i compiled compiles
        obtain ⟨reply, rfl, rfl⟩ := yields_submit (Plan.yields_logAll.1 yields)
        exact .submitted reply authenticated secretsLookup networkLookup compiles

theorem course {σ : Type} (o : Orchestrator σ) (settings : DeploySettings) (r : Request) (s : σ) :
    Course settings r ((plan settings r).exchanges o s) ((plan settings r).run o s).result :=
  course_of_yields (Plan.yields_exchanges o (plan settings r) s)

end SwarmDeploy.Deployment
