import SwarmDeploy.Deployment
import SwarmDeploy.Service.Wire

/-! The report of a dry run: a summary of the deployment, its diagnostics, and the spec. -/

namespace SwarmDeploy.Launch
open Compile Orchestrator

def programName : String := "fnswarm"

def version : String := "0.1.0"

def line (text : String) : String :=
  text ++ "\n"

def diagnosticLines (ds : List Diagnostic) : String :=
  match ds with
  | [] => line "Diagnostics: none"
  | ds =>
    line ("Diagnostics (" ++ toString ds.length ++ "):") ++
      String.join (ds.map fun d => line ("  - " ++ d.message))

def unresolvedLines (r : Request) : String :=
  (if r.secretNames.isEmpty then ""
    else line ("Secrets (unresolved): " ++ ", ".intercalate r.secretNames)) ++
  (if r.requestedNetwork.isNone then line "Network: resolved at deploy time" else "")

def report (r : Request) (compiled : Compiled) (options : CreateOptions) : String :=
  let spec := compiled.spec
  line (programName ++ " v" ++ version ++ " - Dry Run Mode") ++ "\n" ++
    line ("Service: " ++ spec.name) ++
    line ("Image: " ++ spec.task.container.image) ++
    line ("Replicas: " ++ toString spec.replicas.toNat) ++
    line ("Registry auth: " ++ (if options.registryAuth.isSome then "provided" else "none")) ++
    unresolvedLines r ++
    "\n" ++ diagnosticLines compiled.notes.diagnostics ++
    "\n" ++ line "Service spec:" ++ line spec.toJson.toIndentedText

end SwarmDeploy.Launch
