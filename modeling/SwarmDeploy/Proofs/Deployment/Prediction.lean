import SwarmDeploy.Orchestrator.Simulated
import SwarmDeploy.Proofs.Deployment.CallProtocol

/-! What a preview tells of a deployment.
The preview compiles the request alone, the deployment asks an orchestrator first. They differ in
the secrets, the networks and the note of a failed lookup, and in nothing else. -/

namespace SwarmDeploy.Deployment
open Orchestrator Compile Service

variable {settings : DeploySettings} {r : Request} {trace : List Exchange}
  {result : Except DeployError Outcome}

def order : Call → Option (ServiceSpec × CreateOptions)
  | .findSecrets _ => none
  | .findNetworks _ => none
  | .create spec options => some (spec, options)

def orders (trace : List Exchange) : List (ServiceSpec × CreateOptions) :=
  (trace.map Exchange.call).filterMap order

def TellsLookup (trace : List Exchange) (diagnostics : List Diagnostic) : Prop :=
  (∃ label failure, Exchange.findNetworks label (.error failure) ∈ trace ∧
    diagnostics = [.networkLookupFailed failure.message]) ∨
  ((∀ label failure, Exchange.findNetworks label (.error failure) ∉ trace) ∧ diagnostics = [])

/-- What a deployment may do after a preview. -/
def Foretold (r : Request) (trace : List Exchange) (result : Except DeployError Outcome) :
    Except DeployError (Compiled × CreateOptions) → Prop
  | .error (.registryAuth error) => result = .error (.registryAuth error) ∧ trace = []
  | .error (.labels conflict) =>
    (result = .error (.labels conflict) ∨ ∃ fault, result = .error (.secrets fault)) ∧
      orders trace = []
  | .error _ => False
  | .ok (compiled, options) =>
    ((∃ fault, result = .error (.secrets fault)) ∧ orders trace = []) ∨
    ∃ secrets networks, orders trace = [(rebind compiled.spec secrets networks, options)] ∧
      (r.requestedNetwork ≠ none → networks = compiled.spec.task.networks) ∧
      ∀ outcome, result = .ok outcome → ∃ lookup, TellsLookup trace lookup ∧
        outcome.diagnostics = lookup ++ compiled.notes.diagnostics

theorem orders_of_stages {stages : List Nat}
    (within : (trace.map fun e => stage e.call).Sublist stages) (earlier : 2 ∉ stages) :
    orders trace = [] := by
  unfold orders
  rw [List.filterMap_eq_nil_iff]
  intro call called
  obtain ⟨e, mem, rfl⟩ := List.mem_map.1 called
  cases e with
  | findSecrets names reply => rfl
  | findNetworks label reply => rfl
  | create spec options reply =>
    have absent : Exchange.create spec options reply ∉ trace :=
      not_mem_of_stages within (by simpa only [Exchange.call, stage] using earlier)
    exact absurd mem absent

theorem orders_append (first second : List Exchange) :
    orders (first ++ second) = orders first ++ orders second := by
  simp only [orders, List.map_append, List.filterMap_append]

theorem SecretsLookup.orders_eq_nil {bound : Except SecretsFault (List SecretReference)}
    (lookup : SecretsLookup settings r trace bound) : orders trace = [] :=
  orders_of_stages lookup.stages (by decide)

theorem NetworkLookup.orders_eq_nil {network : Option String} {notes : Notes}
    (lookup : NetworkLookup settings r trace network notes) : orders trace = [] :=
  orders_of_stages lookup.stages (by decide)

theorem NetworkLookup.tellsLookup {network : Option String} {notes : Notes}
    (lookup : NetworkLookup settings r trace network notes) :
    TellsLookup trace notes.diagnostics := by
  cases lookup with
  | requested given => exact .inr ⟨by simp, rfl⟩
  | listed networks none => exact .inr ⟨by simp, rfl⟩
  | failed failure none => exact .inl ⟨_, failure, List.mem_singleton_self _, rfl⟩

theorem TellsLookup.extend {found listed rest : List Exchange} {diagnostics : List Diagnostic}
    (tells : TellsLookup listed diagnostics)
    (before : (found.map fun e => stage e.call).Sublist [0])
    (after : (rest.map fun e => stage e.call).Sublist [2]) :
    TellsLookup (found ++ (listed ++ rest)) diagnostics := by
  have same : ∀ label reply, Exchange.findNetworks label reply ∈ found ++ (listed ++ rest) ↔
      Exchange.findNetworks label reply ∈ listed := by
    intro label reply
    have notBefore : Exchange.findNetworks label reply ∉ found :=
      not_mem_of_stages before (by simp [stage, Exchange.call])
    have notAfter : Exchange.findNetworks label reply ∉ rest :=
      not_mem_of_stages after (by simp [stage, Exchange.call])
    simp only [List.mem_append, notBefore, notAfter, false_or, or_false]
  simpa only [TellsLookup, same] using tells

theorem attachments_of_preview {compiled : Compiled}
    (compiles : compile settings r [] none = .ok compiled) (given : r.requestedNetwork ≠ none)
    (network : Option String) :
    attachments r.requestedNetwork network = compiled.spec.task.networks := by
  rw [attachments_of_requested given, ← attachments_of_compile compiles]

theorem Course.foretold (course : Course settings r trace result) :
    Foretold r trace result (preview settings r) := by
  cases course with
  | unauthenticated refused =>
    simp only [preview, refused]
    exact ⟨rfl, rfl⟩
  | @unbound auth _ fault ok secrets =>
    have noOrder := secrets.orders_eq_nil
    cases alone : compile settings r [] none with
    | error conflict =>
      simp only [preview, ok, alone]
      exact ⟨.inr ⟨fault, rfl⟩, noOrder⟩
    | ok compiled =>
      simp only [preview, ok, alone]
      exact .inl ⟨⟨fault, rfl⟩, noOrder⟩
  | @conflicting auth found listed bound network lookup conflict ok secrets networks conflicting =>
    have alone : compile settings r [] none = .error conflict :=
      compile_eq_error_iff.2 (compile_eq_error_iff.1 conflicting)
    simp only [preview, ok, alone]
    refine ⟨.inl rfl, ?_⟩
    rw [orders_append, secrets.orders_eq_nil, networks.orders_eq_nil, List.append_nil]
  | @submitted auth found listed bound network lookup compiled reply ok secrets networks compiles =>
    rw [compile_eq_rebind] at compiles
    cases alone : compile settings r [] none with
    | error conflict =>
      rw [alone] at compiles
      cases compiles
    | ok foreseen =>
      rw [alone] at compiles
      cases compiles
      simp only [preview, ok, alone]
      refine .inr ⟨bound, attachments r.requestedNetwork network, ?_, ?_, ?_⟩
      · simp only [orders_append, secrets.orders_eq_nil, networks.orders_eq_nil, List.nil_append]
        rfl
      · exact fun given => attachments_of_preview alone given network
      · intro outcome accepted
        refine ⟨lookup.diagnostics,
          networks.tellsLookup.extend secrets.stages (List.Sublist.refl _), ?_⟩
        cases reply with
        | error refusal => cases accepted
        | ok created =>
          cases accepted
          rfl

/-- Over every orchestrator a deployment does what its preview foretells. -/
theorem preview_foretells_deployment {σ : Type} (o : Orchestrator σ) (settings : DeploySettings)
    (r : Request) (s : σ) :
    ((plan settings r).run o s).calls = ((plan settings r).exchanges o s).map Exchange.call ∧
      Foretold r ((plan settings r).exchanges o s) ((plan settings r).run o s).result
        (preview settings r) :=
  ⟨Plan.run_calls o _ s, (course o settings r s).foretold⟩

def unlistedSetup : Setup :=
  { failNetworks := true }

/-- An accepted deployment whose networks cannot be listed: the service is created as foreseen, and
only the lookup is told of. -/
theorem unlisted_deployment_foretold :
    ∃ compiled options secrets networks,
      preview {} (.plain "fn" "ghcr.io/a/fn") = .ok (compiled, options) ∧
      orders ((plan {} (.plain "fn" "ghcr.io/a/fn")).exchanges (simulated unlistedSetup) {}) =
        [(rebind compiled.spec secrets networks, options)] ∧
      ((plan {} (.plain "fn" "ghcr.io/a/fn")).run (simulated unlistedSetup) {}).result =
        .ok ⟨"svc-fn", [], [.networkLookupFailed "HTTP error: connection refused"]⟩ := by
  have accepted : ((plan {} (.plain "fn" "ghcr.io/a/fn")).run (simulated unlistedSetup) {}).result =
      .ok ⟨"svc-fn", [], [.networkLookupFailed "HTTP error: connection refused"]⟩ := by rfl
  have possible : (preview {} (.plain "fn" "ghcr.io/a/fn")).isOk = true := by rfl
  have foretold := (preview_foretells_deployment (simulated unlistedSetup) {}
    (.plain "fn" "ghcr.io/a/fn") {}).2
  cases forecast : preview {} (.plain "fn" "ghcr.io/a/fn") with
  | error error =>
    rw [forecast] at possible
    cases possible
  | ok foreseen =>
    rw [forecast, accepted] at foretold
    obtain ⟨⟨_, unbound⟩, -⟩ | ⟨secrets, networks, ordered, -, -⟩ := foretold
    · cases unbound
    · exact ⟨foreseen.1, foreseen.2, secrets, networks, rfl, ordered, accepted⟩

end SwarmDeploy.Deployment
