import SwarmDeploy.Deployment
import SwarmDeploy.Text.Utf8

/-! The HTTP front end of deployments.
Two paths are served: a health check and the creation of functions. Every answer to a creation
carries a request identifier, the caller's own one if there is any. -/

namespace SwarmDeploy.Server
open Orchestrator

structure HttpRequest where
  method : String
  target : String
  /-- Header values are bytes. -/
  headers : List (String × List UInt8)
  body : List UInt8
  deriving Repr

structure HttpResponse where
  status : Nat
  body : String := ""
  requestId : Option (List UInt8) := none
  contentType : Option String := none
  allow : Option String := none
  deriving DecidableEq, Repr

structure Served (σ : Type) where
  response : HttpResponse
  log : List Event
  state : σ

def maxBody : Nat := 2097152

def plainText : String := "text/plain; charset=utf-8"

def requestIdHeader : String := "x-request-id"

/-- The identifier of a request: its first one unless that is empty, or else a fresh one. -/
def requestId (fresh : List UInt8) (headers : List (String × List UInt8)) : List UInt8 :=
  match headers.find? fun h => h.1.toLower == requestIdHeader with
  | some (_, b :: bytes) => b :: bytes
  | _ => fresh

/-- The body of the response to a rejected deployment; it says nothing about credentials. -/
def rejection : DeployError → String
  | .registryAuth _ => "Invalid registry auth"
  | error => "Deployment error: " ++ error.message

def deploy {σ : Type} (o : Orchestrator σ) (settings : DeploySettings) (body : List UInt8)
    (tag : String) (s : σ) : Run σ (Except DeployError Outcome) :=
  match Deployment.readRequest body with
  | .error error => ⟨.error error, [], [], s⟩
  | .ok r =>
    Plan.run o (.log ⟨.info, .server, tag ++ "Deploying " ++ r.service ++ " from " ++ r.image⟩
      (Deployment.plan settings r)) s

def endEvent (tag : String) : Except DeployError Outcome → Event
  | .ok outcome =>
    ⟨.info, .server, tag ++ "Accepted " ++ outcome.serviceId ++ " with " ++
      toString outcome.diagnostics.length ++ " diagnostic(s)"⟩
  | .error error => ⟨.error, .server, tag ++ "Deployment rejected: " ++ error.message⟩

def deployResponse (id : List UInt8) : Except DeployError Outcome → HttpResponse
  | .ok _ => { status := 202, requestId := some id }
  | .error error =>
    { status := 400, body := rejection error, requestId := some id, contentType := some plainText }

def createFunction {σ : Type} (o : Orchestrator σ) (settings : DeploySettings)
    (fresh : List UInt8) (r : HttpRequest) (s : σ) : Served σ :=
  if maxBody < r.body.length then
    ⟨{ status := 413, body := "Failed to buffer the request body: length limit exceeded",
       contentType := some plainText }, [], s⟩
  else
    let id := requestId fresh r.headers
    let tag := "[" ++ String.ofList (Text.Utf8.decodeLossy id) ++ "] "
    let run := deploy o settings r.body tag s
    ⟨deployResponse id run.result, run.log ++ [endEvent tag run.result], run.state⟩

def path (target : String) : String :=
  String.ofList (Text.beforeFirst '?' (Text.beforeFirst '#' target.toList))

/-- Answers a request; `fresh` identifies it if it brings no identifier. -/
def handle {σ : Type} (o : Orchestrator σ) (settings : DeploySettings) (fresh : List UInt8)
    (r : HttpRequest) (s : σ) : Served σ :=
  if path r.target = "/healthz" then
    if r.method = "GET" ∨ r.method = "HEAD" then ⟨{ status := 200 }, [], s⟩
    else ⟨{ status := 405, allow := some "GET,HEAD" }, [], s⟩
  else if path r.target = "/system/functions" then
    if r.method = "POST" then createFunction o settings fresh r s
    else ⟨{ status := 405, allow := some "POST" }, [], s⟩
  else ⟨{ status := 404 }, [], s⟩

/-- A request with the identifier that is made up for it, in case it brings none. -/
structure Arrival where
  request : HttpRequest
  fresh : List UInt8

def handleAll {σ : Type} (o : Orchestrator σ) (settings : DeploySettings) :
    List Arrival → σ → List (Served σ)
  | [], _ => []
  | a :: rest, s =>
    let served := handle o settings a.fresh a.request s
    served :: handleAll o settings rest served.state

def concurrencyLimit (asked : Option Nat) : Nat :=
  asked.elim 100 (max 1)

/-- The largest limit that a server can be built with. -/
def maxConcurrency : Nat := 0x1FFFFFFFFFFFFFFF

end SwarmDeploy.Server
