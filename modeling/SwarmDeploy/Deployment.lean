import SwarmDeploy.Compile.Secrets
import SwarmDeploy.Compile.Spec
import SwarmDeploy.Orchestrator.Plan
import SwarmDeploy.Registry.Credentials

/-! Deployments: from a request to a service.
Credentials come first, then the secrets, the network, the spec and its submission. Every call is
made once, and nothing is submitted after an error; a network lookup that fails is no error. -/

namespace SwarmDeploy
open Orchestrator Compile

inductive DeployError where
  | invalidRequestBody (detail : String)
  | registryAuth (error : Registry.AuthError)
  | secrets (fault : SecretsFault)
  | labels (conflict : LabelConflict)
  | serviceCreate (failure : Failure)
  deriving DecidableEq, Repr

def DeployError.message : DeployError → String
  | .invalidRequestBody detail => "invalid request body: " ++ detail
  | .registryAuth error => "registry auth: " ++ error.message
  | .secrets fault => fault.message
  | .labels conflict => conflict.message
  | .serviceCreate failure => "service create failed: " ++ failure.message

structure Outcome where
  serviceId : String
  warnings : List String
  diagnostics : List Diagnostic
  deriving DecidableEq, Repr

namespace Deployment

def readRequest (body : List UInt8) : Except DeployError Request :=
  (Request.parse body).mapError .invalidRequestBody

def registryAuth (settings : DeploySettings) (r : Request) :
    Except Registry.AuthError (Option String) :=
  match r.credentials with
  | none => .ok none
  | some basic =>
    (Registry.encodedLogin basic r.image settings.defaultRegistryNamespace).map some

/-- Compiles without an orchestrator: no secrets are bound and no network is looked up. -/
def preview (settings : DeploySettings) (r : Request) :
    Except DeployError (Compiled × CreateOptions) :=
  match registryAuth settings r with
  | .error error => .error (.registryAuth error)
  | .ok auth =>
    match compile settings r [] none with
    | .error conflict => .error (.labels conflict)
    | .ok compiled => .ok (compiled, ⟨auth⟩)

def withSecrets {α : Type} (settings : DeploySettings) (r : Request)
    (next : Except SecretsFault (List Service.SecretReference) → Plan α) : Plan α :=
  match r.secretNames with
  | [] => next (.ok [])
  | names =>
    .findSecrets names fun
      | .error failure => next (.error (.notListed failure))
      | .ok found => next (bindSecrets names found settings.secretMountDir)

def selectNetwork (networks : List NetworkSummary) : Option String :=
  networks.head?.map NetworkSummary.name

def withNetwork {α : Type} (settings : DeploySettings) (r : Request)
    (next : Option String → Notes → Plan α) : Plan α :=
  match r.requestedNetwork with
  | some _ => next none {}
  | none =>
    .findNetworks settings.networkLabel fun
      | .ok networks => next (selectNetwork networks) {}
      | .error failure =>
        let notes := ({} : Notes).push (.networkLookupFailed failure.message)
        .logAll notes.log (next none notes)

def creationLog (name : String) (created : Created) (warnings : List String) : List Event :=
  warnings.map (fun w =>
    ⟨.warn, .deployment, "Service " ++ name ++ " created with warning: " ++ w⟩) ++
    [⟨.info, .deployment, "Deployed service " ++ name ++ " (" ++ created.id ++ ")"⟩]

def submit (compiled : Compiled) (options : CreateOptions) (lookup : Notes) :
    Plan (Except DeployError Outcome) :=
  .create compiled.spec options fun
    | .error failure => .done (.error (.serviceCreate failure))
    | .ok created =>
      let warnings := created.warnings.getD []
      .logAll (creationLog compiled.spec.name created warnings)
        (.done (.ok ⟨created.id, warnings, (lookup.extend compiled.notes.diagnostics).diagnostics⟩))

def plan (settings : DeploySettings) (r : Request) : Plan (Except DeployError Outcome) :=
  match registryAuth settings r with
  | .error error => .done (.error (.registryAuth error))
  | .ok auth =>
    withSecrets settings r fun
      | .error fault => .done (.error (.secrets fault))
      | .ok secrets =>
        withNetwork settings r fun network lookup =>
          match compile settings r secrets network with
          | .error conflict => .done (.error (.labels conflict))
          | .ok compiled => .logAll compiled.notes.log (submit compiled ⟨auth⟩ lookup)

end Deployment
end SwarmDeploy
