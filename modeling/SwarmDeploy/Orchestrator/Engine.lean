import SwarmDeploy.Orchestrator.Filters
import SwarmDeploy.Orchestrator.Host
import SwarmDeploy.Orchestrator.Plan
import SwarmDeploy.Service.Wire

/-! An orchestrator that is reached over HTTP.
Requests go over a transport, which answers with a response or not at all. A response with a
status from 200 to 299 is read as JSON of the expected shape, any other one is an error of the
engine. -/

namespace SwarmDeploy.Orchestrator
open Json Service Text

structure EngineRequest where
  method : String
  url : String
  registryAuth : Option String
  body : Option String
  deriving DecidableEq, Repr

structure EngineResponse where
  status : Nat
  body : List UInt8
  deriving DecidableEq, Repr

/-- How requests get to an engine: nothing comes back when the connection fails. -/
structure Transport (τ : Type) where
  send : EngineRequest → τ → Option EngineResponse × τ

def unreachable : Transport Unit where
  send _ s := (none, s)

structure Script where
  responses : List EngineResponse
  sent : List EngineRequest := []
  deriving Repr

def scripted : Transport Script where
  send request s :=
    (s.responses.head?, ⟨s.responses.drop 1, s.sent ++ [request]⟩)

structure Engine where
  baseUrl : String
  version : String
  deriving DecidableEq, Repr

def Engine.ofHost (host version : String) : Except Failure Engine :=
  (Orchestrator.baseUrl host).map fun base =>
    ⟨base, String.ofList (dropAround (· == '/') version.toList)⟩

def Engine.url (e : Engine) (path : String) : String :=
  if e.version = "" then e.baseUrl ++ "/" ++ path
  else e.baseUrl ++ "/" ++ e.version ++ "/" ++ path

def Engine.listing (e : Engine) (path key : String) (values : List String) : EngineRequest :=
  ⟨"GET", e.url path ++ "?filters=" ++ formEncode (filtersText key values), none, none⟩

def Engine.creation (e : Engine) (spec : ServiceSpec) (options : CreateOptions) : EngineRequest :=
  ⟨"POST", e.url "services/create", options.registryAuth, some spec.text⟩

/-- Whether a header can have a value: controls but the tab are not allowed. -/
def isHeaderValue (value : String) : Bool :=
  (Utf8.ofString value).all fun b => (0x20 ≤ b && b != 0x7F) || b == 0x09

def errorShape : Shape :=
  .recordOf "EngineErrorBody" [("message", .text, .required)]

def errorMessage (body : List UInt8) : String :=
  let text := Utf8.decodeLossy body
  match errorShape.readDocument (Utf8.encode text) with
  | .ok v => (v.field "message").textOf
  | .error _ => String.ofList text

def isSuccess (status : Nat) : Bool :=
  200 ≤ status && status < 300

def readResponse {α : Type} (shape : Shape) (ofJson : Value → α) (r : EngineResponse) : Reply α :=
  if isSuccess r.status then
    match shape.readDocument r.body with
    | .ok v => .ok (ofJson v)
    | .error _ => .error (.parse "error decoding response body")
  else .error (.api r.status (errorMessage r.body))

/-- Sends a request and reads the response; a request that cannot be built is not sent. -/
def exchange {τ α : Type} (t : Transport τ) (shape : Shape) (ofJson : Value → α)
    (request : EngineRequest) (s : τ) : Reply α × τ :=
  if request.registryAuth.all isHeaderValue then
    match t.send request s with
    | (some response, s) => (readResponse shape ofJson response, s)
    | (none, s) => (.error (.http ("error sending request for url (" ++ request.url ++ ")")), s)
  else (.error (.http "builder error"), s)

def engineSecretShape : Shape :=
  .recordOf "EngineSecret" [("ID", .text, .required),
    ("Spec", .recordOf "EngineSecretSpec" [("Name", .text, .required)], .required)]

def engineSecretOfJson (v : Value) : SecretSummary :=
  ⟨(v.field "ID").textOf, ((v.field "Spec").field "Name").textOf⟩

def Engine.through {τ : Type} (e : Engine) (t : Transport τ) : Orchestrator τ where
  findSecrets names s :=
    let (reply, s) := exchange t (.many engineSecretShape)
      (fun v => v.itemsOf.map engineSecretOfJson) (e.listing "secrets" "name" names) s
    ⟨reply, [], s⟩
  findNetworks label s :=
    let (reply, s) := exchange t (.many NetworkSummary.shape)
      (fun v => v.itemsOf.map NetworkSummary.ofJson) (e.listing "networks" "label" [label]) s
    ⟨reply, [⟨.debug, .engine, "Listing networks with label " ++ label⟩], s⟩
  create spec options s :=
    let (reply, s) := exchange t Created.shape Created.ofJson (e.creation spec options) s
    ⟨reply, [], s⟩

end SwarmDeploy.Orchestrator
