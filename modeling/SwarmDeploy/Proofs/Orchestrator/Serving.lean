import SwarmDeploy.Orchestrator.Engine
import SwarmDeploy.Orchestrator.Simulated
import SwarmDeploy.Proofs.Json.Record
import SwarmDeploy.Proofs.Service.Wire

/-! An engine that has what a simulated orchestrator has.
It tells by the method and the URL what it is asked for, lists all it has and not only what passes
the filters, and reads the spec of a new service from the body of the request. -/

namespace SwarmDeploy.Orchestrator
open Json Service Text

def respond (status : Nat) (v : Value) : EngineResponse :=
  ⟨status, Utf8.encode v.compact⟩

def errorBody (message : String) : Value :=
  .object [("message", .text message)]

def engineSecretToJson (s : SecretSummary) : Value :=
  .object [("ID", .text s.id), ("Spec", .object [("Name", .text s.name)])]

variable {α : Type} {shape : Shape} {ofJson : Value → α} {status : Nat}

theorem readDocument_compact {v w : Value} (viewed : shape.view v = some w) :
    shape.readDocument (Utf8.encode v.compact) = .ok w :=
  shape.readDocument_written (written_compact v) viewed

theorem readResponse_respond {v w : Value} (success : isSuccess status = true)
    (viewed : shape.view v = some w) :
    readResponse shape ofJson (respond status v) = .ok (ofJson w) := by
  simp only [readResponse, respond, success, if_true, readDocument_compact viewed]

theorem view_errorBody (message : String) :
    errorShape.view (errorBody message) = some (errorBody message) :=
  viewRecord_of_forall₂ (known_of_sublist (by decide) (List.Sublist.refl _))
    (.cons (take_of_lookup rfl rfl) .nil)

theorem errorMessage_errorBody (message : String) :
    errorMessage (Utf8.encode (errorBody message).compact) = message := by
  simp only [errorMessage, Utf8.decodeLossy_encode, readDocument_compact (view_errorBody message)]
  rfl

theorem readResponse_errorBody (failed : isSuccess status = false) (message : String) :
    readResponse shape ofJson (respond status (errorBody message)) =
      .error (.api status message) := by
  simp only [readResponse, respond, failed, Bool.false_eq_true, if_false, errorMessage_errorBody]

theorem NetworkSummary.view_toJson (n : NetworkSummary) :
    NetworkSummary.shape.view n.toJson = some n.toJson :=
  viewRecord_of_forall₂ (known_of_sublist (by decide) (List.Sublist.refl _))
    (.cons (take_of_lookup rfl rfl) (.cons (take_of_lookup rfl rfl) .nil))

theorem NetworkSummary.ofJson_toJson (n : NetworkSummary) :
    NetworkSummary.ofJson n.toJson = n := rfl

theorem view_engineSecretToJson (s : SecretSummary) :
    engineSecretShape.view (engineSecretToJson s) = some (engineSecretToJson s) := by
  refine viewRecord_of_forall₂ (known_of_sublist (by decide) (List.Sublist.refl _))
    (.cons (take_of_lookup rfl rfl) (.cons (take_of_lookup rfl ?_) .nil))
  exact viewRecord_of_forall₂ (known_of_sublist (by decide) (List.Sublist.refl _))
    (.cons (take_of_lookup rfl rfl) .nil)

theorem engineSecretOfJson_toJson (s : SecretSummary) :
    engineSecretOfJson (engineSecretToJson s) = s := rfl

theorem view_warnings (warnings : Option (List String)) :
    (Shape.optional (.many .text)).view (warnings.elim .null Value.texts) =
      some (warnings.elim .null Value.texts) := by
  cases warnings with
  | none => rfl
  | some warnings => exact view_many view_text warnings

theorem Created.view_toJson (c : Created) : Created.shape.view c.toJson = some c.toJson :=
  viewRecord_of_forall₂ (known_of_sublist (by decide) (List.Sublist.refl _))
    (.cons (take_of_lookup rfl rfl) (.cons (take_of_lookup rfl (view_warnings c.warnings)) .nil))

theorem Created.ofJson_toJson (c : Created) : Created.ofJson c.toJson = c := by
  obtain ⟨id, warnings⟩ := c
  cases warnings with
  | none => rfl
  | some warnings =>
    simp only [toJson, Option.elim_some]
    exact congrArg (fun ws => (⟨id, some ws⟩ : Created)) (Value.textsOf_texts warnings)

theorem readResponse_list {β : Type} {toJson : β → Value} {ofJson : Value → β}
    (views : ∀ b, shape.view (toJson b) = some (toJson b)) (back : ∀ b, ofJson (toJson b) = b)
    (items : List β) :
    readResponse (.many shape) (fun v => v.itemsOf.map ofJson)
      (respond 200 (.list (items.map toJson))) = .ok items := by
  rw [readResponse_respond rfl (view_many views items)]
  exact congrArg Except.ok (Value.itemsOf_map back items)

def Engine.resource (e : Engine) (request : EngineRequest) : String :=
  String.ofList (beforeFirst '?' ((dropStart (e.url "").toList request.url.toList).getD []))

def creationResponse : Reply Created → EngineResponse
  | .ok created => respond 201 created.toJson
  | .error (.api status message) => respond status (errorBody message)
  | .error failure => respond 500 (errorBody failure.message)

/-- How an engine responds that has what a setup says. -/
def Setup.serve (setup : Setup) (e : Engine) (request : EngineRequest) : EngineResponse :=
  match request.method, e.resource request with
  | "GET", "networks" => respond 200 (.list (setup.networks.map NetworkSummary.toJson))
  | "GET", "secrets" => respond 200 (.list (setup.secrets.map engineSecretToJson))
  | "POST", "services/create" =>
    match ServiceSpec.shape.readDocument (Utf8.ofString (request.body.getD "")) with
    | .ok v => creationResponse (setup.creation (.ofJson v))
    | .error _ => respond 400 (errorBody "invalid service spec")
  | _, _ => respond 404 (errorBody "page not found")

def serving (e : Engine) (setup : Setup) : Transport (List EngineRequest) where
  send request sent := (some (setup.serve e request), sent ++ [request])

theorem readResponse_creation (setup : Setup) (spec : ServiceSpec) :
    readResponse Created.shape Created.ofJson (creationResponse (setup.creation spec)) =
      setup.creation spec := by
  unfold Setup.creation
  split
  · exact readResponse_errorBody rfl _
  · rw [creationResponse, readResponse_respond rfl (Created.view_toJson _), Created.ofJson_toJson]

theorem Engine.url_eq (e : Engine) (path : String) : e.url path = e.url "" ++ path := by
  unfold Engine.url
  split <;> simp [String.append_assoc]

theorem Engine.resource_listing (e : Engine) {path : String} (noQuery : '?' ∉ path.toList)
    (key : String) (values : List String) : e.resource (e.listing path key values) = path := by
  have rest : dropStart (e.url "").toList (e.listing path key values).url.toList =
      some (path.toList ++ '?' :: "filters=".toList ++
        (formEncode (filtersText key values)).toList) := by
    rw [dropStart_eq_some_iff, Engine.listing, e.url_eq]
    simp [String.toList_append]
  simp only [Engine.resource, rest, Option.getD_some, List.append_assoc, List.cons_append,
    beforeFirst_append noQuery, String.ofList_toList]

theorem Engine.resource_creation (e : Engine) (spec : ServiceSpec) (options : CreateOptions) :
    e.resource (e.creation spec options) = "services/create" := by
  have rest : dropStart (e.url "").toList (e.creation spec options).url.toList =
      some "services/create".toList := by
    rw [dropStart_eq_some_iff, Engine.creation, e.url_eq, String.toList_append]
  have noQuery : '?' ∉ "services/create".toList := by decide
  simp only [Engine.resource, rest, Option.getD_some, beforeFirst_of_absent noQuery,
    String.ofList_toList]

variable (e : Engine) (setup : Setup) (sent : List EngineRequest)

theorem exchange_serving {request : EngineRequest}
    (header : request.registryAuth.all isHeaderValue = true) :
    exchange (serving e setup) shape ofJson request sent =
      (readResponse shape ofJson (setup.serve e request), sent ++ [request]) := by
  simp only [exchange, header, if_true, serving]

theorem findNetworks_serving (label : String) :
    (e.through (serving e setup)).findNetworks label sent =
      ⟨.ok setup.networks, [⟨.debug, .engine, "Listing networks with label " ++ label⟩],
        sent ++ [e.listing "networks" "label" [label]]⟩ := by
  have served : setup.serve e (e.listing "networks" "label" [label]) =
      respond 200 (.list (setup.networks.map NetworkSummary.toJson)) := by
    rw [Setup.serve, e.resource_listing (by decide)]
    rfl
  have header : (e.listing "networks" "label" [label]).registryAuth.all isHeaderValue = true := rfl
  simp only [Engine.through, exchange_serving e setup sent header, served,
    readResponse_list NetworkSummary.view_toJson NetworkSummary.ofJson_toJson]

theorem findSecrets_serving (names : List String) :
    (e.through (serving e setup)).findSecrets names sent =
      ⟨.ok setup.secrets, [], sent ++ [e.listing "secrets" "name" names]⟩ := by
  have served : setup.serve e (e.listing "secrets" "name" names) =
      respond 200 (.list (setup.secrets.map engineSecretToJson)) := by
    rw [Setup.serve, e.resource_listing (by decide)]
    rfl
  have header : (e.listing "secrets" "name" names).registryAuth.all isHeaderValue = true := rfl
  simp only [Engine.through, exchange_serving e setup sent header, served,
    readResponse_list view_engineSecretToJson engineSecretOfJson_toJson]

theorem create_serving (spec : ServiceSpec) {options : CreateOptions}
    (header : (e.creation spec options).registryAuth.all isHeaderValue = true) :
    (e.through (serving e setup)).create spec options sent =
      ⟨setup.creation spec, [], sent ++ [e.creation spec options]⟩ := by
  have served : setup.serve e (e.creation spec options) =
      creationResponse (setup.creation (.ofJson spec.viewed)) := by
    rw [Setup.serve, e.resource_creation]
    simp only [Engine.creation, Option.getD_some, spec.readDocument_text]
  -- Of the spec that the engine reads only the name matters, which is that of the spec sent.
  have same : setup.creation (.ofJson spec.viewed) = setup.creation spec := rfl
  simp only [Engine.through, exchange_serving e setup sent header, served, same,
    readResponse_creation]

def Engine.request (e : Engine) : Call → EngineRequest
  | .findSecrets names => e.listing "secrets" "name" names
  | .findNetworks label => e.listing "networks" "label" [label]
  | .create spec options =>
    ⟨"POST", e.url "services/create", options.registryAuth, some spec.text⟩

/-- A plan that makes the same of all the secrets there are as of those it asks for, and that
hands over nothing that a header cannot have as a value. -/
def Plan.Portable (setup : Setup) : Plan α → Prop
  | .done _ => True
  | .log _ rest => rest.Portable setup
  | .findSecrets names next =>
    next (.ok setup.secrets) = next (.ok (setup.matching names)) ∧
      (next (.ok (setup.matching names))).Portable setup
  | .findNetworks _ next => (next (.ok setup.networks)).Portable setup
  | .create spec options next =>
    options.registryAuth.all isHeaderValue = true ∧ (next (setup.creation spec)).Portable setup

/-- A run over an engine had the result and the calls of another run, and sent a request for
each call. -/
structure Mirrors {σ : Type} (e : Engine) (sent : List EngineRequest)
    (real : Run (List EngineRequest) α) (simulated : Run σ α) : Prop where
  result : real.result = simulated.result
  calls : real.calls = simulated.calls
  requests : real.state = sent ++ simulated.calls.map e.request

theorem Mirrors.after {σ : Type} {e : Engine} {sent : List EngineRequest} {call : Call}
    {real : Run (List EngineRequest) α} {simulated : Run σ α}
    (mirrors : Mirrors e (sent ++ [e.request call]) real simulated) (log log' : List Event) :
    Mirrors e sent (real.after call log) (simulated.after call log') where
  result := mirrors.result
  calls := congrArg (call :: ·) mirrors.calls
  requests := mirrors.requests.trans (List.append_assoc _ _ _)

/-- Portable plans run over an engine that serves a setup as they run over the setup itself. -/
theorem Plan.Portable.mirrors {p : Plan α} (portable : p.Portable setup)
    (listed : setup.failNetworks = false) (record : Record) :
    Mirrors e sent (p.run (e.through (serving e setup)) sent) (p.run (simulated setup) record) := by
  induction p generalizing sent record with
  | done result => exact ⟨rfl, rfl, (List.append_nil sent).symm⟩
  | log event rest ih =>
    have mirrors := ih sent portable record
    exact ⟨mirrors.result, mirrors.calls, mirrors.requests⟩
  | findSecrets names next ih =>
    obtain ⟨same, portable⟩ := portable
    simp only [run, findSecrets_serving, same]
    exact (ih _ _ portable _).after [] []
  | findNetworks label next ih =>
    have reply : ((simulated setup).findNetworks label record).reply = .ok setup.networks := by
      simp only [simulated, listed, Bool.false_eq_true, if_false]
    simp only [run, findNetworks_serving, reply]
    exact (ih _ _ portable _).after _ []
  | create spec options next ih =>
    obtain ⟨header, portable⟩ := portable
    simp only [run, create_serving e setup sent spec header]
    exact (ih _ _ portable _).after [] []

end SwarmDeploy.Orchestrator
