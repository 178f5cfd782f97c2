import SwarmDeploy.Bindings
import SwarmDeploy.Json.Access
import SwarmDeploy.Json.Shape

/-! Deployment requests, as clients send them. -/

namespace SwarmDeploy
open Json

structure ResourceHints where
  memory : Option String
  cpu : Option String
  deriving DecidableEq, Repr

structure Request where
  service : String
  image : String
  network : Option String
  envProcess : Option String
  envVars : Option Bindings
  constraints : Option (List String)
  secrets : Option (List String)
  labels : Option Bindings
  annotations : Option Bindings
  limits : Option ResourceHints
  requests : Option ResourceHints
  readOnlyRootFilesystem : Bool
  /-- Base64 of `user:password` for a private registry. -/
  registryAuth : Option String
  deriving DecidableEq

def nonEmpty (text : Option String) : Option String :=
  text.filter fun t => t ≠ ""

namespace Request

def plain (service image : String) : Request where
  service
  image
  network := none
  envProcess := none
  envVars := none
  constraints := none
  secrets := none
  labels := none
  annotations := none
  limits := none
  requests := none
  readOnlyRootFilesystem := false
  registryAuth := none

def requestedNetwork (r : Request) : Option String :=
  nonEmpty r.network

def credentials (r : Request) : Option String :=
  nonEmpty r.registryAuth

def secretNames (r : Request) : List String :=
  r.secrets.getD []

end Request

def ResourceHints.shape : Shape :=
  .recordOf "FunctionResources" [("memory", .optional .text, .default .null),
    ("cpu", .optional .text, .default .null)]

def ResourceHints.toJson (h : ResourceHints) : Value :=
  .object (optionalMember "memory" (h.memory.map .text) ++
    optionalMember "cpu" (h.cpu.map .text))

def ResourceHints.ofJson (v : Value) : ResourceHints :=
  ⟨(v.field "memory").optional Value.textOf, (v.field "cpu").optional Value.textOf⟩

def Bindings.toJson (b : Bindings) : Value :=
  .pairs b.toList

def Bindings.ofJson (v : Value) : Bindings :=
  .ofList v.pairsOf

namespace Request

def shape : Shape :=
  let optional (name : String) (s : Shape) : String × Shape × Presence :=
    (name, .optional s, .default .null)
  .recordOf "DeploymentRequest" [("service", .text, .required), ("image", .text, .required),
    optional "network" .text, optional "envProcess" .text, optional "envVars" (.dictionary .text),
    optional "constraints" (.many .text), optional "secrets" (.many .text),
    optional "labels" (.dictionary .text), optional "annotations" (.dictionary .text),
    optional "limits" ResourceHints.shape, optional "requests" ResourceHints.shape,
    ("readOnlyRootFilesystem", .flag, .default (.bool false)), optional "registryAuth" .text]

def toJson (r : Request) : Value :=
  .object ([("service", .text r.service), ("image", .text r.image)] ++
    optionalMember "network" (r.network.map .text) ++
    optionalMember "envProcess" (r.envProcess.map .text) ++
    optionalMember "envVars" (r.envVars.map Bindings.toJson) ++
    optionalMember "constraints" (r.constraints.map Value.texts) ++
    optionalMember "secrets" (r.secrets.map Value.texts) ++
    optionalMember "labels" (r.labels.map Bindings.toJson) ++
    optionalMember "annotations" (r.annotations.map Bindings.toJson) ++
    optionalMember "limits" (r.limits.map ResourceHints.toJson) ++
    optionalMember "requests" (r.requests.map ResourceHints.toJson) ++
    [("readOnlyRootFilesystem", .bool r.readOnlyRootFilesystem)] ++
    optionalMember "registryAuth" (r.registryAuth.map .text))

def ofJson (v : Value) : Request where
  service := (v.field "service").textOf
  image := (v.field "image").textOf
  network := (v.field "network").optional Value.textOf
  envProcess := (v.field "envProcess").optional Value.textOf
  envVars := (v.field "envVars").optional Bindings.ofJson
  constraints := (v.field "constraints").optional Value.textsOf
  secrets := (v.field "secrets").optional Value.textsOf
  labels := (v.field "labels").optional Bindings.ofJson
  annotations := (v.field "annotations").optional Bindings.ofJson
  limits := (v.field "limits").optional ResourceHints.ofJson
  requests := (v.field "requests").optional ResourceHints.ofJson
  readOnlyRootFilesystem := (v.field "readOnlyRootFilesystem").flagOf
  registryAuth := (v.field "registryAuth").optional Value.textOf

def parse (body : List UInt8) : Except String Request :=
  match shape.readDocument body with
  | .ok v => .ok (ofJson v)
  | .error fault => .error (fault.message body)

end Request
end SwarmDeploy
