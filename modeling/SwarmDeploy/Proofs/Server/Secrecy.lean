import SwarmDeploy.Proofs.Server.Accounting

/-! What the answers to deployments tell about credentials.
Two requests that differ in nothing but their credentials have plans that differ at most in the
encoded login that is handed over, unless the credentials are refused. A refusal is answered in
one way, whatever is wrong. -/

namespace SwarmDeploy
open Orchestrator Compile Service

namespace Deployment

variable {α : Type} {settings : DeploySettings}

theorem alike_withSecrets (r : Request)
    {next next' : Except SecretsFault (List SecretReference) → Plan α}
    (alike : ∀ bound, (next bound).Alike (next' bound)) :
    (withSecrets settings r next).Alike (withSecrets settings r next') := by
  unfold withSecrets
  split
  · exact alike _
  · refine .findSecrets _ fun reply => ?_
    cases reply with
    | error failure => exact alike _
    | ok found => exact alike _

theorem alike_withNetwork (r : Request) {next next' : Option String → Notes → Plan α}
    (alike : ∀ network lookup, (next network lookup).Alike (next' network lookup)) :
    (withNetwork settings r next).Alike (withNetwork settings r next') := by
  unfold withNetwork
  split
  · exact alike _ _
  · refine .findNetworks _ fun reply => ?_
    cases reply with
    | error failure => exact Plan.alike_logAll _ (alike _ _)
    | ok networks => exact alike _ _

theorem alike_submit (compiled : Compiled) (options options' : CreateOptions) (lookup : Notes) :
    (submit compiled options lookup).Alike (submit compiled options' lookup) :=
  .create _ _ _ fun _ => Plan.alike_refl _

def acceptedPlan (settings : DeploySettings) (r : Request) (auth : Option String) :
    Plan (Except DeployError Outcome) :=
  withSecrets settings r fun
    | .error fault => .done (.error (.secrets fault))
    | .ok secrets =>
      withNetwork settings r fun network lookup =>
        match compile settings r secrets network with
        | .error conflict => .done (.error (.labels conflict))
        | .ok compiled => .logAll compiled.notes.log (submit compiled ⟨auth⟩ lookup)

theorem plan_of_accepted {r : Request} {auth : Option String}
    (accepted : registryAuth settings r = .ok auth) :
    plan settings r = acceptedPlan settings r auth := by
  unfold plan
  rw [accepted]
  rfl

/-- The encoded login goes nowhere but into the options of the creation. -/
theorem alike_acceptedPlan (r : Request) (auth auth' : Option String) :
    (acceptedPlan settings r auth).Alike (acceptedPlan settings r auth') := by
  refine alike_withSecrets r fun bound => ?_
  cases bound with
  | error fault => exact .done _
  | ok secrets =>
    refine alike_withNetwork r fun network lookup => ?_
    cases compile settings r secrets network with
    | error conflict => exact .done _
    | ok compiled => exact Plan.alike_logAll _ (alike_submit compiled _ _ lookup)

theorem alike_plan {r : Request} {other auth auth' : Option String}
    (accepted : registryAuth settings r = .ok auth)
    (accepted' : registryAuth settings { r with registryAuth := other } = .ok auth') :
    (plan settings r).Alike (plan settings { r with registryAuth := other }) := by
  -- Neither the lookups nor the compilation read the credentials again.
  have unread : acceptedPlan settings { r with registryAuth := other } auth' =
    acceptedPlan settings r auth' := rfl
  rw [plan_of_accepted accepted, plan_of_accepted accepted', unread]
  exact alike_acceptedPlan r auth auth'

theorem plan_of_refused {r : Request} {error : Registry.AuthError}
    (refused : registryAuth settings r = .error error) :
    plan settings r = .done (.error (.registryAuth error)) := by
  unfold plan
  rw [refused]

end Deployment

namespace Server

variable {setup : Setup} {settings : DeploySettings}

structure SameOutcome (a b : Run Record (Except DeployError Outcome)) : Prop where
  response (id : List UInt8) : deployResponse id a.result = deployResponse id b.result
  specs : a.state.specs = b.state.specs

theorem sameOutcome_plan (setup : Setup) {q : Request} {other : Option String}
    (agree : (Deployment.registryAuth settings q).isOk =
      (Deployment.registryAuth settings { q with registryAuth := other }).isOk) :
    SameOutcome ((Deployment.plan settings q).run (simulated setup) {})
      ((Deployment.plan settings { q with registryAuth := other }).run (simulated setup) {}) := by
  cases checked : Deployment.registryAuth settings q with
  | error error =>
    cases checked' : Deployment.registryAuth settings { q with registryAuth := other } with
    | error error' =>
      rw [Deployment.plan_of_refused checked, Deployment.plan_of_refused checked']
      exact ⟨fun _ => rfl, rfl⟩
    | ok auth' =>
      rw [checked, checked'] at agree
      cases agree
  | ok auth =>
    cases checked' : Deployment.registryAuth settings { q with registryAuth := other } with
    | error error' =>
      rw [checked, checked'] at agree
      cases agree
    | ok auth' =>
      have same : SameView ((Deployment.plan settings q).run (simulated setup) {}) _ :=
        (Deployment.alike_plan checked checked').sameView rfl rfl
      exact ⟨fun id => congrArg (deployResponse id) same.result, same.specs⟩

theorem decision_of_read (setup : Setup) (settings : DeploySettings) {body : List UInt8}
    {q : Request} (read : Deployment.readRequest body = .ok q) :
    (decision setup settings body).result =
        ((Deployment.plan settings q).run (simulated setup) {}).result ∧
      (decision setup settings body).state =
        ((Deployment.plan settings q).run (simulated setup) {}).state := by
  unfold decision deploy
  rw [read]
  exact ⟨rfl, rfl⟩

theorem sameOutcome_decision {body body' : List UInt8} {q : Request} {other : Option String}
    (read : Deployment.readRequest body = .ok q)
    (read' : Deployment.readRequest body' = .ok { q with registryAuth := other })
    (agree : (Deployment.registryAuth settings q).isOk =
      (Deployment.registryAuth settings { q with registryAuth := other }).isOk) :
    SameOutcome (decision setup settings body) (decision setup settings body') := by
  obtain ⟨result, state⟩ := decision_of_read setup settings read
  obtain ⟨result', state'⟩ := decision_of_read setup settings read'
  have same := sameOutcome_plan setup agree
  constructor
  · intro id
    rw [result, result', same.response]
  · rw [state, state', same.specs]

/-- Answers that their receivers cannot tell apart but by their identifiers, and that extend two
records by the same specs. -/
structure Indistinguishable (s t : Record) (a b : Served Record) : Prop where
  status : a.response.status = b.response.status
  body : a.response.body = b.response.body
  contentType : a.response.contentType = b.response.contentType
  allow : a.response.allow = b.response.allow
  created : ∃ new new', a.state.created = s.created ++ new ∧ b.state.created = t.created ++ new' ∧
    new.map (·.1) = new'.map (·.1)

/-- Of the credentials in a deployment nobody learns more from the answer and from the recorded
specs than whether they are accepted. -/
theorem answers_conceal_credentials (setup : Setup) (settings : DeploySettings)
    {r r' : HttpRequest} (posted : IsDeployment r) (posted' : IsDeployment r') {q : Request}
    {other : Option String} (read : Deployment.readRequest r.body = .ok q)
    (read' : Deployment.readRequest r'.body = .ok { q with registryAuth := other })
    (agree : (Deployment.registryAuth settings q).isOk =
      (Deployment.registryAuth settings { q with registryAuth := other }).isOk)
    (fresh fresh' : List UInt8) (s t : Record) :
    Indistinguishable s t (handle (simulated setup) settings fresh r s)
      (handle (simulated setup) settings fresh' r' t) := by
  have same : SameOutcome (decision setup settings r.body) (decision setup settings r'.body) :=
    sameOutcome_decision read read' agree
  rw [handle_deployment _ _ _ posted, handle_deployment _ _ _ posted']
  obtain ⟨response, state⟩ := createFunction_simulated setup settings posted.2.2 fresh s
  obtain ⟨response', state'⟩ := createFunction_simulated setup settings posted'.2.2 fresh' t
  rw [deployResponse_eq, same.response] at response
  rw [deployResponse_eq] at response'
  constructor
  · rw [response, response']
  · rw [response, response']
  · rw [response, response']
  · rw [response, response']
  · exact ⟨_, _, congrArg Record.created state, congrArg Record.created state', same.specs⟩

/-- A deployment of a public image whose body may go on with credentials. -/
def publicImage (credentials : String) : HttpRequest where
  method := "POST"
  target := "/system/functions"
  headers := []
  body := ["\x7b\"service\": \"fn\", \"image\": \"ghcr.io/a/fn\"", credentials,
    "\x7d"].flatMap Text.Utf8.ofString

def publicRequest (credentials : Option String) : Request where
  service := "fn"
  image := "ghcr.io/a/fn"
  network := none
  envProcess := none
  envVars := none
  constraints := none
  secrets := none
  labels := none
  annotations := none
  limits := none
  requests := none
  readOnlyRootFilesystem := false
  registryAuth := credentials

theorem publicImage_conceals_credentials :
    Indistinguishable {} {} (handle (simulated {}) {} [] (publicImage "") {})
      (handle (simulated {}) {} [] (publicImage ", \"registryAuth\": \"dTpw\"") {}) := by
  have read : Deployment.readRequest (publicImage "").body = .ok (publicRequest none) := by
    decide +kernel
  have read' : Deployment.readRequest (publicImage ", \"registryAuth\": \"dTpw\"").body =
      .ok (publicRequest (some "dTpw")) := by
    decide +kernel
  exact answers_conceal_credentials {} {} (by decide +kernel) (by decide +kernel) read read'
    (by decide +kernel) [] [] {} {}

end Server
end SwarmDeploy
