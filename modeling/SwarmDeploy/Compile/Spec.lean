import SwarmDeploy.Compile.Labels
import SwarmDeploy.Compile.Resources

/-! Service specs from requests.
Nothing here asks the orchestrator: secrets and the default network are handed in. -/

namespace SwarmDeploy.Compile
open Service

def constraints (given : Option (List String)) (settings : DeploySettings) : List String :=
  match given with
  | some (c :: cs) => c :: cs
  | _ => settings.fallbackConstraints

def envEntry (name value : String) : String :=
  name ++ "=" ++ value

def environment (process : Option String) (vars : Option Bindings)
    (settings : DeploySettings) : List String :=
  ((nonEmpty process).map fun p => envEntry settings.envProcessKey p).toList ++
    (given vars).map fun v => envEntry v.1 v.2

def replicas (userLabels : Option Bindings) (settings : DeploySettings) :
    StateM Notes UInt64 :=
  match userLabels.bind fun b => b.get? settings.scaleMinLabel with
  | none => pure 1
  | some text =>
    match Number.readWord text with
    | .ok n => pure (UInt64.ofNat n)
    | .error fault => do
      note (.invalidScaleLabel text fault.message)
      pure 1

def attachments (requested resolved : Option String) : List NetworkAttachment :=
  (nonEmpty (requested.or resolved)).toList.map NetworkAttachment.mk

structure Compiled where
  spec : ServiceSpec
  notes : Notes

def assemble (settings : DeploySettings) (r : Request) (labels : LabelSet)
    (secrets : List SecretReference) (network : Option String) : StateM Notes ServiceSpec := do
  let resources ← resources r.limits r.requests
  let replicas ← replicas r.labels settings
  pure {
    name := r.service
    labels
    task := {
      container := {
        image := r.image
        labels
        env := environment r.envProcess r.envVars settings
        mounts := if r.readOnlyRootFilesystem then [.memory settings.readOnlyTmpfsTarget] else []
        secrets
        readOnly := r.readOnlyRootFilesystem }
      resources
      restartPolicy := ⟨.any, settings.restartDelay, settings.maxRestarts⟩
      placement := ⟨constraints r.constraints settings⟩
      networks := attachments r.requestedNetwork network }
    replicas }

/-- Compiles a request; `network` is used only when the request names none. -/
def compile (settings : DeploySettings) (r : Request) (secrets : List SecretReference)
    (network : Option String) : Except LabelConflict Compiled :=
  match labels r.service r.labels r.annotations settings with
  | .error conflict => .error conflict
  | .ok labels =>
    let (spec, notes) := (assemble settings r labels secrets network).run {}
    .ok ⟨spec, notes⟩

end SwarmDeploy.Compile
