import SwarmDeploy.Json.Access
import SwarmDeploy.Json.Shape

/-! What an orchestrator is asked for and what it answers, with the JSON forms. -/

namespace SwarmDeploy.Orchestrator
open Json

inductive Failure where
  | http (detail : String)
  | parse (detail : String)
  | api (status : Nat) (message : String)
  | invalidHost (detail : String)
  deriving DecidableEq, Repr

def Failure.message : Failure → String
  | .http detail => "HTTP error: " ++ detail
  | .parse detail => "JSON parse error: " ++ detail
  | .api status message => "API error: " ++ toString status ++ " - " ++ message
  | .invalidHost detail => "Invalid Docker host: " ++ detail

structure NetworkSummary where
  id : String
  name : String
  deriving DecidableEq, Repr

def NetworkSummary.shape : Shape :=
  .recordOf "NetworkSummary" [("Id", .text, .default (.text "")), ("Name", .text, .required)]

def NetworkSummary.toJson (n : NetworkSummary) : Value :=
  .object [("Id", .text n.id), ("Name", .text n.name)]

def NetworkSummary.ofJson (v : Value) : NetworkSummary :=
  ⟨(v.field "Id").textOf, (v.field "Name").textOf⟩

structure SecretSummary where
  id : String
  name : String
  deriving DecidableEq, Repr

def SecretSummary.shape : Shape :=
  .recordOf "SecretSummary" [("id", .text, .required), ("name", .text, .required)]

def SecretSummary.toJson (s : SecretSummary) : Value :=
  .object [("id", .text s.id), ("name", .text s.name)]

def SecretSummary.ofJson (v : Value) : SecretSummary :=
  ⟨(v.field "id").textOf, (v.field "name").textOf⟩

/-- What is handed over besides the spec when a service is created. -/
structure CreateOptions where
  registryAuth : Option String
  deriving DecidableEq, Repr

structure Created where
  id : String
  warnings : Option (List String)
  deriving DecidableEq, Repr

def Created.shape : Shape :=
  .recordOf "ServiceCreateResponse" [("ID", .text, .default (.text "")),
    ("Warnings", .optional (.many .text), .default .null)]

def Created.toJson (c : Created) : Value :=
  .object [("ID", .text c.id), ("Warnings", c.warnings.elim .null Value.texts)]

def Created.ofJson (v : Value) : Created :=
  ⟨(v.field "ID").textOf, (v.field "Warnings").optional Value.textsOf⟩

end SwarmDeploy.Orchestrator
