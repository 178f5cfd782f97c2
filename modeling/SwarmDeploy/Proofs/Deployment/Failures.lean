import SwarmDeploy.Proofs.Compile.Findings
import SwarmDeploy.Proofs.Deployment.Course
import SwarmDeploy.Proofs.Deployment.Interchange
import SwarmDeploy.Proofs.Orchestrator.Script

/-! Failures of an engine.
A deployment makes up to three calls. Over an engine that answers by a script, a response that fails
ends the deployment if it is about secrets or about the service itself; if it is about networks, it
is recorded and the service is submitted without a network. -/

namespace SwarmDeploy.Deployment
open Orchestrator Compile Service Json Text

variable {e : Engine} {settings : DeploySettings} {r : Request}
  {responses rest : List EngineResponse} {trace later : List Exchange}
  {result : Except DeployError Outcome}

def secretsRequests (e : Engine) (r : Request) : List EngineRequest :=
  if r.secretNames = [] then [] else [e.request (.findSecrets r.secretNames)]

def networkRequests (e : Engine) (settings : DeploySettings) (r : Request) : List EngineRequest :=
  if r.requestedNetwork = none then [e.request (.findNetworks settings.networkLabel)] else []

theorem SecretsLookup.requests {bound : Except SecretsFault (List SecretReference)}
    (lookup : SecretsLookup settings r trace bound) (e : Engine) :
    requestsFor e trace = secretsRequests e r := by
  cases lookup with
  | notRequested none => exact (if_pos none).symm
  | notListed failure some => exact (if_neg some).symm
  | listed found some => exact (if_neg some).symm

theorem NetworkLookup.requests {network : Option String} {notes : Notes}
    (lookup : NetworkLookup settings r trace network notes) (e : Engine) :
    requestsFor e trace = networkRequests e settings r := by
  cases lookup with
  | requested some => exact (if_neg some).symm
  | listed networks none => exact (if_pos none).symm
  | failed failure none => exact (if_pos none).symm

theorem requestsFor_stages {found listed : List Exchange}
    {bound : Except SecretsFault (List SecretReference)} {network : Option String} {notes : Notes}
    (secrets : SecretsLookup settings r found bound)
    (networks : NetworkLookup settings r listed network notes) (e : Engine) (last : Exchange) :
    requestsFor e (found ++ (listed ++ [last])) =
      secretsRequests e r ++ networkRequests e settings r ++ [e.request last.call] := by
  rw [← secrets.requests e, ← networks.requests e, List.append_assoc]
  simp only [requestsFor, List.map_append, List.map_cons, List.map_nil]

theorem SecretsLookup.sendable {bound : Except SecretsFault (List SecretReference)}
    (lookup : SecretsLookup settings r trace bound) (e : Engine) :
    ∀ x ∈ trace, x.Sendable e := by
  intro x mem
  cases lookup with
  | notRequested none => cases mem
  | _ =>
    cases List.mem_singleton.1 mem
    rfl

theorem NetworkLookup.sendable {network : Option String} {notes : Notes}
    (lookup : NetworkLookup settings r trace network notes) (e : Engine) :
    ∀ x ∈ trace, x.Sendable e := by
  intro x mem
  cases lookup with
  | requested some => cases mem
  | _ =>
    cases List.mem_singleton.1 mem
    rfl

theorem Course.sendable (taken : Course settings r trace result) (e : Engine) :
    ∀ x ∈ trace, x.Sendable e := by
  cases taken with
  | unauthenticated refused => exact fun x mem => absurd mem List.not_mem_nil
  | unbound ok secrets => exact secrets.sendable e
  | conflicting ok secrets networks conflicting =>
    exact List.forall_mem_append.2 ⟨secrets.sendable e, networks.sendable e⟩
  | submitted reply ok secrets networks compiles =>
    refine List.forall_mem_append.2 ⟨secrets.sendable e,
      List.forall_mem_append.2 ⟨networks.sendable e, fun x mem => ?_⟩⟩
    cases List.mem_singleton.1 mem
    exact isHeaderValue_registryAuth ok

/-- What the responses say about the requested secrets, and the responses that are left. -/
inductive SecretsAnswered (settings : DeploySettings) (r : Request) :
    List EngineResponse → Except SecretsFault (List SecretReference) → List EngineResponse → Prop
  | notRequested {responses : List EngineResponse} : r.secretNames = [] →
    SecretsAnswered settings r responses (.ok []) responses
  | failed {response : EngineResponse} {failure : Failure} (rest : List EngineResponse) :
    r.secretNames ≠ [] → FailureOf (.many engineSecretShape) response failure →
      SecretsAnswered settings r (response :: rest) (.error (.notListed failure)) rest
  | listed {response : EngineResponse} {found : List SecretSummary} (rest : List EngineResponse) :
    r.secretNames ≠ [] → secretsIn response = .ok found →
      SecretsAnswered settings r (response :: rest)
        (bindSecrets r.secretNames found settings.secretMountDir) rest

inductive NetworkAnswered (settings : DeploySettings) (r : Request) :
    List EngineResponse → Option String → List Diagnostic → List EngineResponse → Prop
  | requested {responses : List EngineResponse} : r.requestedNetwork ≠ none →
    NetworkAnswered settings r responses none [] responses
  | failed {response : EngineResponse} {failure : Failure} (rest : List EngineResponse) :
    r.requestedNetwork = none → FailureOf (.many NetworkSummary.shape) response failure →
      NetworkAnswered settings r (response :: rest) none
        [.networkLookupFailed failure.message] rest
  | listed {response : EngineResponse} {networks : List NetworkSummary}
    (rest : List EngineResponse) : r.requestedNetwork = none → networksIn response = .ok networks →
      NetworkAnswered settings r (response :: rest) (selectNetwork networks) [] rest

theorem SecretsAnswered.agrees {given bound : Except SecretsFault (List SecretReference)}
    (said : SecretsAnswered settings r responses given rest)
    (lookup : SecretsLookup settings r trace bound)
    (answered : Answered e responses (trace ++ later)) :
    bound = given ∧ Answered e rest later := by
  cases said with
  | notRequested none =>
    cases lookup with
    | notRequested _ => exact ⟨rfl, answered⟩
    | notListed _ some => exact absurd none some
    | listed _ some => exact absurd none some
  | failed rest some failing =>
    have failed : secretsIn _ = .error _ := readResponse_eq_error_iff.2 failing
    cases lookup with
    | notRequested none => exact absurd none some
    | notListed _ _ =>
      cases answered.1.trans failed
      exact ⟨rfl, answered.2⟩
    | listed _ _ => cases answered.1.trans failed
  | listed rest some reads =>
    cases lookup with
    | notRequested none => exact absurd none some
    | notListed _ _ => cases answered.1.trans reads
    | listed _ _ =>
      cases answered.1.trans reads
      exact ⟨rfl, answered.2⟩

theorem NetworkAnswered.agrees {network given : Option String} {notes : Notes}
    {found : List Diagnostic} (said : NetworkAnswered settings r responses given found rest)
    (lookup : NetworkLookup settings r trace network notes)
    (answered : Answered e responses (trace ++ later)) :
    network = given ∧ notes.diagnostics = found ∧ Answered e rest later := by
  cases said with
  | requested some =>
    cases lookup with
    | requested _ => exact ⟨rfl, rfl, answered⟩
    | listed _ none => exact absurd none some
    | failed _ none => exact absurd none some
  | failed rest none failing =>
    have failed : networksIn _ = .error _ := readResponse_eq_error_iff.2 failing
    cases lookup with
    | requested some => exact absurd none some
    | listed _ _ => cases answered.1.trans failed
    | failed _ _ =>
      cases answered.1.trans failed
      exact ⟨rfl, rfl, answered.2⟩
  | listed rest none reads =>
    cases lookup with
    | requested some => exact absurd none some
    | failed _ _ => cases answered.1.trans reads
    | listed _ _ =>
      cases answered.1.trans reads
      exact ⟨rfl, rfl, answered.2⟩

/-- What becomes of a deployment that got past its login and its labels: the result and the
requests that are sent, by the responses of the engine. -/
structure ClassifiesFailures (e : Engine) (settings : DeploySettings) (r : Request)
    (auth : Option String) (set : LabelSet) (responses : List EngineResponse)
    (result : Except DeployError Outcome) (sent : List EngineRequest) : Prop where
  needed : ∃ bound network, sent <+: secretsRequests e r ++ networkRequests e settings r ++
    [e.request (.create (specOf settings r set bound network) ⟨auth⟩)]
  secrets : ∀ response rest failure, r.secretNames ≠ [] → responses = response :: rest →
    FailureOf (.many engineSecretShape) response failure →
      result = .error (.secrets (.notListed failure)) ∧
        sent = [e.request (.findSecrets r.secretNames)]
  /-- A failed lookup of the networks is the first diagnostic and the only one of its kind. -/
  networks : ∀ bound response rest failure, r.requestedNetwork = none →
    SecretsAnswered settings r responses (.ok bound) (response :: rest) →
      FailureOf (.many NetworkSummary.shape) response failure →
        sent = secretsRequests e r ++ [e.request (.findNetworks settings.networkLabel),
          e.request (.create (specOf settings r set bound none) ⟨auth⟩)] ∧
        (specOf settings r set bound none).task.networks = [] ∧
        ∀ outcome, result = .ok outcome →
          outcome.diagnostics = .networkLookupFailed failure.message :: findings settings r ∧
            ∀ reason, .networkLookupFailed reason ∉ findings settings r
  creation : ∀ bound network lookup rest response rest',
    SecretsAnswered settings r responses (.ok bound) rest →
      NetworkAnswered settings r rest network lookup (response :: rest') →
        sent = secretsRequests e r ++ networkRequests e settings r ++
          [e.request (.create (specOf settings r set bound network) ⟨auth⟩)] ∧
        (∀ failure, FailureOf Created.shape response failure →
          result = .error (.serviceCreate failure)) ∧
        ∀ created, createdIn response = .ok created →
          result = .ok ⟨created.id, created.warnings.getD [], lookup ++ findings settings r⟩

variable {auth : Option String} {set : LabelSet}

theorem networkLookupFailed_not_mem_findings (settings : DeploySettings) (r : Request)
    (reason : String) : .networkLookupFailed reason ∉ findings settings r := by
  intro mem
  rcases List.mem_append.1 mem with hint | scale
  · obtain ⟨p, -, found⟩ := List.mem_flatMap.1 hint
    unfold HintPlace.findings at found
    cases fate : p.fate r.limits r.requests with
    | absent => simp [fate, Fate.findings] at found
    | read n => simp [fate, Fate.findings] at found
    | unreadable text fault => simp [fate, Fate.findings] at found
  · unfold scaleFindings at scale
    split at scale
    · cases scale
    · split at scale
      · cases scale
      · cases List.mem_singleton.1 scale

theorem classifies_of_unbound {fault : SecretsFault}
    (lookup : SecretsLookup settings r trace (.error fault))
    (answered : Answered e responses trace) :
    ClassifiesFailures e settings r auth set responses (.error (.secrets fault))
      (secretsRequests e r) := by
  rw [← List.append_nil trace] at answered
  have never {bound : List SecretReference} {rest : List EngineResponse}
      (said : SecretsAnswered settings r responses (.ok bound) rest) : False := by
    cases (said.agrees lookup answered).1
  refine ⟨⟨[], none, ?_⟩, ?_, ?_, ?_⟩
  · rw [List.append_assoc]
    exact List.prefix_append _ _
  · intro response rest failure some eq failing
    subst eq
    cases ((SecretsAnswered.failed rest some failing).agrees lookup answered).1
    exact ⟨rfl, if_neg some⟩
  · intro bound response rest failure none said
    exact (never said).elim
  · intro bound network lookup rest response rest' said
    exact (never said).elim

theorem classifies_of_submitted {found listed : List Exchange} {bound : List SecretReference}
    {network : Option String} {notes : Notes} {reply : Reply Created}
    (secrets : SecretsLookup settings r found (.ok bound))
    (networks : NetworkLookup settings r listed network notes)
    (answered : Answered e responses (found ++ (listed ++
      [.create (specOf settings r set bound network) ⟨auth⟩ reply]))) :
    ClassifiesFailures e settings r auth set responses
      (submission ⟨specOf settings r set bound network, ({} : Notes).record (findings settings r)⟩
        notes reply)
      (secretsRequests e r ++ networkRequests e settings r ++
        [e.request (.create (specOf settings r set bound network) ⟨auth⟩)]) := by
  refine ⟨⟨bound, network, List.prefix_refl _⟩, ?_, ?_, ?_⟩
  · intro response rest failure some eq failing
    subst eq
    cases ((SecretsAnswered.failed rest some failing).agrees secrets answered).1
  · intro bound' response rest failure none said failing
    obtain ⟨same, answered⟩ := said.agrees secrets answered
    cases same
    obtain ⟨rfl, diagnostics, -⟩ :=
      (NetworkAnswered.failed rest none failing).agrees networks answered
    refine ⟨?_, ?_, ?_⟩
    · rw [networkRequests, if_pos none, List.append_assoc]
      rfl
    · simp only [specOf, none]
      rfl
    · intro outcome succeeded
      cases reply with
      | error failure => cases succeeded
      | ok created =>
        cases succeeded
        refine ⟨?_, networkLookupFailed_not_mem_findings settings r⟩
        rw [diagnostics]
        rfl
  · intro bound' network' lookup rest response rest' said said'
    obtain ⟨same, answered⟩ := said.agrees secrets answered
    cases same
    obtain ⟨rfl, rfl, answered⟩ := said'.agrees networks answered
    have read : reply = createdIn response := answered.1
    refine ⟨rfl, ?_, ?_⟩
    · intro failure failing
      have failed : createdIn response = .error failure := readResponse_eq_error_iff.2 failing
      rw [read, failed]
      rfl
    · intro created succeeded
      rw [read, succeeded]
      rfl

theorem Course.classifiesFailures (taken : Course settings r trace result)
    (authenticated : registryAuth settings r = .ok auth)
    (labelled : labels r.service r.labels r.annotations settings = .ok set)
    (answered : Answered e responses trace) :
    ClassifiesFailures e settings r auth set responses result (requestsFor e trace) := by
  cases taken with
  | unauthenticated refused =>
    rw [authenticated] at refused
    cases refused
  | unbound ok secrets =>
    rw [secrets.requests e]
    exact classifies_of_unbound secrets answered
  | conflicting ok secrets networks conflicting =>
    rw [compile_eq, labelled] at conflicting
    cases conflicting
  | submitted reply ok secrets networks compiles =>
    rw [authenticated] at ok
    cases ok
    obtain ⟨merged, same, rfl⟩ := compile_eq_ok_iff.1 compiles
    rw [labelled] at same
    cases same
    rw [requestsFor_stages secrets networks]
    exact classifies_of_submitted secrets networks answered

/-- Failures of an engine are told apart by the call and by the response. Over any script of
responses a failed listing of secrets ends the deployment with nothing more sent, a failed lookup
of networks is recorded and the service still submitted, without a network, and a failed creation
is the error. A response is an error of the engine just by its status: it says the message in its
body, or else the whole body. -/
theorem engine_failures_are_classified {settings : DeploySettings} {r : Request}
    {auth : Option String} {set : LabelSet} (authenticated : registryAuth settings r = .ok auth)
    (labelled : labels r.service r.labels r.annotations settings = .ok set) (e : Engine)
    (responses : List EngineResponse) :
    ClassifiesFailures e settings r auth set responses
        ((plan settings r).run (e.through scripted) ⟨responses, []⟩).result
        ((plan settings r).run (e.through scripted) ⟨responses, []⟩).state.sent ∧
      ∀ (α : Type) (shape : Shape) (ofJson : Value → α),
        (∀ status text, ¬(200 ≤ status ∧ status < 300) →
          ∃ message, ErrorText text.toList message ∧
            readResponse shape ofJson ⟨status, Utf8.ofString text⟩ =
              .error (.api status message)) ∧
        ∀ response, 200 ≤ response.status ∧ response.status < 300 → ∀ status message,
          readResponse shape ofJson response ≠ .error (.api status message) := by
  constructor
  · have taken := course (e.through scripted) settings r ⟨responses, []⟩
    have follows := Plan.followsScript e (plan settings r) ⟨responses, []⟩ (taken.sendable e)
    rw [follows.sent, List.nil_append]
    exact taken.classifiesFailures authenticated labelled follows.answered
  · intro α shape ofJson
    constructor
    · intro status text other
      refine ⟨errorMessage (Utf8.ofString text), ?_, readResponse_of_status other⟩
      have same : Utf8.decodeLossy (Utf8.ofString text) = text.toList := Utf8.decodeLossy_encode _
      rw [← same, errorText_iff]
    · intro response success status message failed
      cases readResponse_eq_error_iff.1 failed with
      | status other _ => exact other success

/-- The secret is listed, the networks are not, and the name of the service is taken. -/
def faltering : List EngineResponse :=
  [respond 200 (.list [engineSecretToJson ⟨"s1", "api-key"⟩]),
    ⟨500, Utf8.ofString "no quorum"⟩, respond 409 (errorBody "name conflicts")]

theorem faltering_deployment : ∃ auth set bound,
    registryAuth {} privateRequest = .ok auth ∧ labels "fn" none none {} = .ok set ∧
      ((plan {} privateRequest).run (Engine.through ⟨"http://127.0.0.1:2375", "v1.41"⟩ scripted)
        ⟨faltering, []⟩).result = .error (.serviceCreate (.api 409 "name conflicts")) ∧
      ((plan {} privateRequest).run (Engine.through ⟨"http://127.0.0.1:2375", "v1.41"⟩ scripted)
        ⟨faltering, []⟩).state.sent.getLast? =
          some (Engine.request ⟨"http://127.0.0.1:2375", "v1.41"⟩
            (.create (specOf {} privateRequest set bound none) ⟨auth⟩)) := by
  have found : secretsIn (respond 200 (.list [engineSecretToJson ⟨"s1", "api-key"⟩])) =
      .ok [⟨"s1", "api-key"⟩] :=
    readResponse_list view_engineSecretToJson engineSecretOfJson_toJson [⟨"s1", "api-key"⟩]
  have bound : SecretsAnswered {} privateRequest faltering
      (.ok [⟨⟨"/var/openfaas/secrets/api-key", "0", "0", 0o444⟩, "s1", "api-key"⟩])
      (faltering.drop 1) :=
    .listed _ (by decide) found
  have text : ErrorText (Utf8.decodeLossy (Utf8.ofString "no quorum")) "no quorum" :=
    errorText_iff.2 (by decide +kernel)
  have unsuccessful : FailureOf (.many NetworkSummary.shape) ⟨500, Utf8.ofString "no quorum"⟩
      (.api 500 "no quorum") :=
    .status (by decide) text
  have unlisted : NetworkAnswered {} privateRequest (faltering.drop 1) none
      [.networkLookupFailed "API error: 500 - no quorum"] (faltering.drop 2) :=
    .failed _ rfl unsuccessful
  have refused : createdIn (respond 409 (errorBody "name conflicts")) =
      .error (.api 409 "name conflicts") :=
    readResponse_errorBody rfl "name conflicts"
  have authenticated : registryAuth {} privateRequest =
      .ok (some (Registry.Login.encode ⟨"u", "p", "registry.example.com"⟩)) := by rfl
  have labelled : labels "fn" none none {} = .ok ⟨[("com.openfaas.function", "fn"),
      ("function", "true")], by decide⟩ := by decide +kernel
  obtain ⟨sent, failing, -⟩ := (engine_failures_are_classified authenticated labelled
    ⟨"http://127.0.0.1:2375", "v1.41"⟩ faltering).1.creation _ _ _ _ _ _ bound unlisted
  have last := congrArg List.getLast? sent
  rw [List.getLast?_concat] at last
  exact ⟨_, _, _, authenticated, labelled, failing _ (readResponse_eq_error_iff.1 refused), last⟩

end SwarmDeploy.Deployment
