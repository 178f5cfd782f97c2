import Mathlib.Data.List.Forall2
import SwarmDeploy.Proofs.Deployment.Course
import SwarmDeploy.Proofs.Orchestrator.Recording
import SwarmDeploy.Server.Router

/-! The account of a server's run over a simulated orchestrator.
Every request has an effect of its own: the status and the body of its answer and the services
that are created for it, one if it is accepted and none otherwise. What came before a request
makes no difference to its effect, so a run adds up the effects of its requests. -/

namespace SwarmDeploy
open Orchestrator Service

namespace Deployment

variable {setup : Setup} {settings : DeploySettings} {r : Request} {trace : List Exchange}

theorem SecretsLookup.creations_eq_nil {bound : Except Compile.SecretsFault (List SecretReference)}
    (lookup : SecretsLookup settings r trace bound) : trace.filterMap Exchange.creation = [] := by
  cases lookup <;> rfl

theorem NetworkLookup.creations_eq_nil {network : Option String} {notes : Notes}
    (lookup : NetworkLookup settings r trace network notes) :
    trace.filterMap Exchange.creation = [] := by
  cases lookup <;> rfl

theorem Course.length_creations {result : Except DeployError Outcome}
    (course : Course settings r trace result) :
    (trace.filterMap Exchange.creation).length = if result.isOk then 1 else 0 := by
  cases course with
  | unauthenticated refused => rfl
  | unbound ok secrets =>
    rw [secrets.creations_eq_nil]
    rfl
  | conflicting ok secrets networks conflicting =>
    rw [List.filterMap_append, secrets.creations_eq_nil, networks.creations_eq_nil]
    rfl
  | submitted reply ok secrets networks compiles =>
    rw [List.filterMap_append, List.filterMap_append, secrets.creations_eq_nil,
      networks.creations_eq_nil]
    cases reply <;> rfl

theorem length_created (settings : DeploySettings) (r : Request) :
    ((plan settings r).run (simulated setup) {}).state.created.length =
      if ((plan settings r).run (simulated setup) {}).result.isOk then 1 else 0 := by
  rw [Plan.created_run, List.nil_append]
  exact (course (simulated setup) settings r {}).length_creations

end Deployment

namespace Server

variable {setup : Setup} {settings : DeploySettings}

def decision (setup : Setup) (settings : DeploySettings) (body : List UInt8) :
    Run Record (Except DeployError Outcome) :=
  deploy (simulated setup) settings body "" {}

theorem deploy_simulated (body : List UInt8) (tag : String) (s : Record) :
    (deploy (simulated setup) settings body tag s).result =
        (decision setup settings body).result ∧
      (deploy (simulated setup) settings body tag s).state =
        s.append (decision setup settings body).state := by
  unfold decision deploy
  split
  · exact ⟨rfl, s.append_empty.symm⟩
  · rename_i r read
    have added : (Deployment.plan settings r).run (simulated setup) s = _ := Plan.run_simulated _ s
    simp only [Plan.run, added, and_self]

theorem length_created_decision (setup : Setup) (settings : DeploySettings) (body : List UInt8) :
    (decision setup settings body).state.created.length =
      if (decision setup settings body).result.isOk then 1 else 0 := by
  unfold decision deploy
  split
  · rfl
  · exact Deployment.length_created settings _

theorem deployResponse_eq (id : List UInt8) (result : Except DeployError Outcome) :
    deployResponse id result = { deployResponse [] result with requestId := some id } := by
  cases result <;> rfl

theorem status_deployResponse (id : List UInt8) (result : Except DeployError Outcome) :
    (deployResponse id result).status = if result.isOk then 202 else 400 := by
  cases result <;> rfl

structure Effect where
  status : Nat
  body : String
  created : List (ServiceSpec × CreateOptions)

structure Effect.Regular (e : Effect) : Prop where
  status : e.status ∈ [200, 202, 400, 404, 405, 413]
  created : e.created.length = if e.status = 202 then 1 else 0

structure Shows (e : Effect) (before : Record) (a : Served Record) : Prop where
  status : a.response.status = e.status
  body : a.response.body = e.body
  created : a.state.created = before.created ++ e.created

def effect (setup : Setup) (settings : DeploySettings) (r : HttpRequest) : Effect :=
  let a := handle (simulated setup) settings [] r {}
  ⟨a.response.status, a.response.body, a.state.created⟩

def decisionEffect (setup : Setup) (settings : DeploySettings) (body : List UInt8) : Effect :=
  let run := decision setup settings body
  let response := deployResponse [] run.result
  ⟨response.status, response.body, run.state.created⟩

theorem decisionEffect_regular (setup : Setup) (settings : DeploySettings) (body : List UInt8) :
    (decisionEffect setup settings body).Regular := by
  have created := length_created_decision setup settings body
  have status : (decisionEffect setup settings body).status =
      if (decision setup settings body).result.isOk then 202 else 400 :=
    status_deployResponse [] _
  constructor
  · rw [status]
    split <;> decide
  · rw [status]
    split <;> rename_i accepted
    · exact created.trans (if_pos accepted)
    · exact created.trans (if_neg accepted)

theorem createFunction_simulated (setup : Setup) (settings : DeploySettings) {r : HttpRequest}
    (small : r.body.length ≤ maxBody) (fresh : List UInt8) (s : Record) :
    (createFunction (simulated setup) settings fresh r s).response =
        deployResponse (requestId fresh r.headers) (decision setup settings r.body).result ∧
      (createFunction (simulated setup) settings fresh r s).state =
        s.append (decision setup settings r.body).state := by
  unfold createFunction
  rw [if_neg (Nat.not_lt.2 small)]
  exact ⟨congrArg (deployResponse _) (deploy_simulated _ _ s).1, (deploy_simulated _ _ s).2⟩

theorem createFunction_shows {r : HttpRequest} (small : r.body.length ≤ maxBody)
    (fresh : List UInt8) (s : Record) :
    Shows (decisionEffect setup settings r.body) s
      (createFunction (simulated setup) settings fresh r s) := by
  obtain ⟨response, state⟩ := createFunction_simulated setup settings small fresh s
  constructor
  · rw [response, deployResponse_eq]
    rfl
  · rw [response, deployResponse_eq]
    rfl
  · exact congrArg Record.created state

theorem shows_unchanged (response : HttpResponse) (s : Record) :
    Shows ⟨response.status, response.body, []⟩ s ⟨response, [], s⟩ :=
  ⟨rfl, rfl, (List.append_nil _).symm⟩

/-- Neither the record nor the fresh identifier makes a difference to the effect. -/
theorem exists_effect (setup : Setup) (settings : DeploySettings) (r : HttpRequest) :
    ∃ e : Effect, e.Regular ∧
      ∀ fresh s, Shows e s (handle (simulated setup) settings fresh r s) := by
  unfold handle
  split
  · split
    · exact ⟨_, ⟨by decide, rfl⟩, fun _ => shows_unchanged { status := 200 }⟩
    · exact ⟨_, ⟨by decide, rfl⟩,
        fun _ => shows_unchanged { status := 405, allow := some "GET,HEAD" }⟩
  · split
    · split
      · by_cases small : r.body.length ≤ maxBody
        · exact ⟨_, decisionEffect_regular setup settings r.body, createFunction_shows small⟩
        · refine ⟨⟨413, "Failed to buffer the request body: length limit exceeded", []⟩,
            ⟨by decide, rfl⟩, fun fresh s => ?_⟩
          unfold createFunction
          rw [if_pos (Nat.not_le.1 small)]
          exact ⟨rfl, rfl, (List.append_nil _).symm⟩
      · exact ⟨_, ⟨by decide, rfl⟩,
          fun _ => shows_unchanged { status := 405, allow := some "POST" }⟩
    · exact ⟨_, ⟨by decide, rfl⟩, fun _ => shows_unchanged { status := 404 }⟩

theorem Shows.effect_eq {e : Effect} {r : HttpRequest}
    (shows : Shows e {} (handle (simulated setup) settings [] r {})) :
    effect setup settings r = e := by
  obtain ⟨status, body, created⟩ := shows
  rw [effect, status, body, created, List.nil_append]

theorem effect_regular (setup : Setup) (settings : DeploySettings) (r : HttpRequest) :
    (effect setup settings r).Regular := by
  obtain ⟨e, regular, all⟩ := exists_effect setup settings r
  rwa [(all [] {}).effect_eq]

theorem handle_shows (setup : Setup) (settings : DeploySettings) (fresh : List UInt8)
    (r : HttpRequest) (s : Record) :
    Shows (effect setup settings r) s (handle (simulated setup) settings fresh r s) := by
  obtain ⟨e, regular, all⟩ := exists_effect setup settings r
  rw [(all [] {}).effect_eq]
  exact all fresh s

def IsDeployment (r : HttpRequest) : Prop :=
  path r.target = "/system/functions" ∧ r.method = "POST" ∧ r.body.length ≤ maxBody

instance (r : HttpRequest) : Decidable (IsDeployment r) :=
  inferInstanceAs (Decidable (_ ∧ _ ∧ _))

theorem handle_deployment {σ : Type} (o : Orchestrator σ) (settings : DeploySettings)
    (fresh : List UInt8) {r : HttpRequest} (posted : IsDeployment r) (s : σ) :
    handle o settings fresh r s = createFunction o settings fresh r s := by
  have elsewhere : path r.target ≠ "/healthz" := by
    rw [posted.1]
    decide
  rw [handle, if_neg elsewhere, if_pos posted.1, if_pos posted.2.1]

/-- The first value of a header; letter case makes no difference to the names of headers. -/
def FirstValue (name : String) (headers : List (String × List UInt8)) (value : List UInt8) :
    Prop :=
  ∃ earlier given later, headers = earlier ++ (given, value) :: later ∧ given.toLower = name ∧
    ∀ h ∈ earlier, h.1.toLower ≠ name

theorem requestId_eq {headers : List (String × List UInt8)} {id : List UInt8}
    (first : FirstValue requestIdHeader headers id) (notEmpty : id ≠ []) (fresh : List UInt8) :
    requestId fresh headers = id := by
  obtain ⟨earlier, given, later, rfl, named, others⟩ := first
  obtain ⟨b, bytes, rfl⟩ := List.exists_cons_of_ne_nil notEmpty
  have none : earlier.find? (fun h => h.1.toLower == requestIdHeader) = none := by
    rw [List.find?_eq_none]
    intro h mem same
    exact others h mem (beq_iff_eq.1 same)
  have found : (earlier ++ (given, b :: bytes) :: later).find?
      (fun h => h.1.toLower == requestIdHeader) = some (given, b :: bytes) := by
    rw [List.find?_append, none, Option.none_or]
    exact List.find?_cons_of_pos (beq_iff_eq.2 named)
  simp only [requestId, found]

theorem handle_requestId {σ : Type} (o : Orchestrator σ) (settings : DeploySettings)
    (fresh : List UInt8) {r : HttpRequest} (posted : IsDeployment r) {id : List UInt8}
    (first : FirstValue requestIdHeader r.headers id) (notEmpty : id ≠ []) (s : σ) :
    (handle o settings fresh r s).response.requestId = some id := by
  rw [handle_deployment o settings fresh posted]
  unfold createFunction
  rw [if_neg (Nat.not_lt.2 posted.2.2), requestId_eq first notEmpty]
  exact congrArg HttpResponse.requestId (deployResponse_eq id _)

/-- An answer that its request decides, whatever came before. -/
structure Answered (setup : Setup) (settings : DeploySettings) (a : Arrival)
    (served : Served Record) : Prop where
  status : served.response.status = (effect setup settings a.request).status
  body : served.response.body = (effect setup settings a.request).body
  regular : (effect setup settings a.request).Regular
  identified : IsDeployment a.request → ∀ id, FirstValue requestIdHeader a.request.headers id →
    id ≠ [] → served.response.requestId = some id

theorem handle_answered (a : Arrival) (s : Record) :
    Answered setup settings a (handle (simulated setup) settings a.fresh a.request s) where
  status := (handle_shows setup settings a.fresh a.request s).status
  body := (handle_shows setup settings a.fresh a.request s).body
  regular := effect_regular setup settings a.request
  identified posted _ first notEmpty :=
    handle_requestId (simulated setup) settings a.fresh posted first notEmpty s

theorem handleAll_answered (setup : Setup) (settings : DeploySettings) (arrivals : List Arrival)
    (s : Record) :
    List.Forall₂ (Answered setup settings) arrivals
      (handleAll (simulated setup) settings arrivals s) := by
  induction arrivals generalizing s with
  | nil => exact .nil
  | cons a rest ih => exact .cons (handle_answered a s) (ih _)

def createdFor (setup : Setup) (settings : DeploySettings) (arrivals : List Arrival) :
    List (ServiceSpec × CreateOptions) :=
  arrivals.flatMap fun a => (effect setup settings a.request).created

theorem createdFor_cons (a : Arrival) (rest : List Arrival) :
    createdFor setup settings (a :: rest) =
      (effect setup settings a.request).created ++ createdFor setup settings rest :=
  List.flatMap_cons

/-- After every request the record holds what was created for it and for those before it. -/
theorem created_handleAll (arrivals : List Arrival) (s : Record) (i : Nat)
    (h : i < (handleAll (simulated setup) settings arrivals s).length) :
    (handleAll (simulated setup) settings arrivals s)[i].state.created =
      s.created ++ createdFor setup settings (arrivals.take (i + 1)) := by
  induction arrivals generalizing s i with
  | nil => cases h
  | cons a rest ih =>
    have first := (handle_shows setup settings a.fresh a.request s).created
    cases i with
    | zero =>
      rw [List.take_succ_cons, List.take_zero, createdFor_cons]
      exact first.trans (congrArg (s.created ++ ·) (List.append_nil _).symm)
    | succ i =>
      rw [List.take_succ_cons, createdFor_cons, ← List.append_assoc, ← first]
      exact ih _ i (Nat.lt_of_succ_lt_succ h)

theorem length_createdFor {arrivals : List Arrival} {served : List (Served Record)}
    (answered : List.Forall₂ (Answered setup settings) arrivals served) :
    (createdFor setup settings arrivals).length =
      served.countP fun a => a.response.status = 202 := by
  induction answered with
  | nil => rfl
  | cons head _ ih =>
    rw [createdFor_cons, List.length_append, ih, head.regular.created, ← head.status,
      List.countP_cons, Nat.add_comm]
    simp only [decide_eq_true_eq]

structure Accounts (setup : Setup) (settings : DeploySettings) (arrivals : List Arrival)
    (start : Record) (served : List (Served Record)) : Prop where
  answered : List.Forall₂ (Answered setup settings) arrivals served
  created (i : Nat) (h : i < served.length) :
    served[i].state.created =
      start.created ++ createdFor setup settings (arrivals.take (i + 1))
  total (i : Nat) (h : i < served.length) :
    served[i].state.created.length =
      start.created.length + (served.take (i + 1)).countP fun a => a.response.status = 202

/-- Every run of the server keeps its accounts: each request is answered by itself, and the
services in the record are those of the accepted requests. -/
theorem run_accounts_for_requests (setup : Setup) (settings : DeploySettings)
    (arrivals : List Arrival) (start : Record) :
    Accounts setup settings arrivals start
      (handleAll (simulated setup) settings arrivals start) where
  answered := handleAll_answered setup settings arrivals start
  created := created_handleAll arrivals start
  total i h := by
    have answered := List.forall₂_take (i + 1) (handleAll_answered setup settings arrivals start)
    rw [created_handleAll, List.length_append, length_createdFor answered]

/-- A request that no path serves, a deployment, and a deployment without a body. -/
def mixedArrivals : List Arrival :=
  [⟨⟨"GET", "/", [], []⟩, []⟩,
    ⟨⟨"POST", "/system/functions", [("X-Request-Id", Text.Utf8.ofString "7")],
      Text.Utf8.ofString "\x7b\"service\": \"fn\", \"image\": \"ghcr.io/a/fn\"\x7d"⟩, []⟩,
    ⟨⟨"POST", "/system/functions", [], []⟩, Text.Utf8.ofString "8"⟩]

theorem mixedArrivals_accounted :
    (handleAll (simulated {}) {} mixedArrivals {}).map (·.response.status) = [404, 202, 400] ∧
    (handleAll (simulated {}) {} mixedArrivals {}).map (·.response.requestId) =
      [none, some (Text.Utf8.ofString "7"), some (Text.Utf8.ofString "8")] ∧
    ∃ last ∈ (handleAll (simulated {}) {} mixedArrivals {}).getLast?,
      last.state.created.length = 1 := by
  have statuses : (handleAll (simulated {}) {} mixedArrivals {}).map (·.response.status) =
      [404, 202, 400] := by decide +kernel
  have three : 2 < (handleAll (simulated {}) {} mixedArrivals {}).length := by decide +kernel
  have total := (run_accounts_for_requests {} {} mixedArrivals {}).total 2 three
  refine ⟨statuses, by decide +kernel, _, ?_, total.trans (by decide +kernel)⟩
  rw [List.getLast?_eq_getElem?]
  exact List.getElem?_eq_getElem three

end Server
end SwarmDeploy
