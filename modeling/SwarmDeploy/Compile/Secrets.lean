import SwarmDeploy.Orchestrator.Listing
import SwarmDeploy.Service.Spec
import SwarmDeploy.Text.Blank

/-! Binding requested secrets to those an orchestrator has. -/

namespace SwarmDeploy.Compile
open Orchestrator Service

inductive SecretsFault where
  | notFound (name : String)
  | notListed (failure : Failure)
  deriving DecidableEq, Repr

def SecretsFault.message : SecretsFault → String
  | .notFound name => "secret not found: " ++ name
  | .notListed failure => "unable to list secrets: " ++ failure.message

def secretFileMode : UInt32 := 0o444

/-- The identifier of the last listed secret with a name. -/
def secretId (found : List SecretSummary) (name : String) : Option String :=
  (found.reverse.find? fun s => s.name == name).map SecretSummary.id

def secretPath (mountDir name : String) : String :=
  String.ofList (Text.dropEndWhile (· == '/') mountDir.toList) ++ "/" ++ name

def bindSecrets (requested : List String) (found : List SecretSummary) (mountDir : String) :
    Except SecretsFault (List SecretReference) :=
  requested.mapM fun name =>
    match secretId found name with
    | none => .error (.notFound name)
    | some id => .ok ⟨⟨secretPath mountDir name, "0", "0", secretFileMode⟩, id, name⟩

end SwarmDeploy.Compile
