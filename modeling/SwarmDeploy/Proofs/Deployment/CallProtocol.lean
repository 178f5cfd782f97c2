import SwarmDeploy.Proofs.Compile.Binding
import SwarmDeploy.Proofs.Deployment.Course

/-! The protocol of calls that a deployment keeps to.
It says which calls are made, in which order and when, for every reply an orchestrator may give.
Nothing is submitted after a failure, but a network lookup that fails is none. -/

namespace SwarmDeploy.Deployment
open Orchestrator Compile Service

variable {settings : DeploySettings} {r : Request} {trace : List Exchange}
  {result : Except DeployError Outcome}

def Authenticated (settings : DeploySettings) (r : Request) : Prop :=
  ∃ auth, registryAuth settings r = .ok auth

def SecretsBound (r : Request) (trace : List Exchange) : Prop :=
  ∀ name ∈ r.secretNames, ∃ found secret,
    Exchange.findSecrets r.secretNames (.ok found) ∈ trace ∧ secret ∈ found ∧ secret.name = name

def Labelled (settings : DeploySettings) (r : Request) : Prop :=
  ∃ set, labels r.service r.labels r.annotations settings = .ok set

/-- The place of a call in a deployment. -/
def stage : Call → Nat
  | .findSecrets _ => 0
  | .findNetworks _ => 1
  | .create _ _ => 2

/-- What the exchanges and the result of a deployment have to do with each other. -/
structure KeepsProtocol (settings : DeploySettings) (r : Request) (trace : List Exchange)
    (result : Except DeployError Outcome) : Prop where
  ordered : (trace.map fun e => stage e.call).Pairwise (· < ·)
  silent : ¬Authenticated settings r → trace = []
  findsSecrets : ∀ names, (∃ reply, Exchange.findSecrets names reply ∈ trace) ↔
    names = r.secretNames ∧ names ≠ [] ∧ Authenticated settings r
  findsNetworks : ∀ label, (∃ reply, Exchange.findNetworks label reply ∈ trace) ↔
    label = settings.networkLabel ∧ r.requestedNetwork = none ∧
      Authenticated settings r ∧ SecretsBound r trace
  creates : (∃ spec options reply, Exchange.create spec options reply ∈ trace) ↔
    Authenticated settings r ∧ SecretsBound r trace ∧ Labelled settings r
  handsOver : ∀ spec options reply, Exchange.create spec options reply ∈ trace →
    registryAuth settings r = .ok options.registryAuth ∧
      ((∃ auth, options.registryAuth = some auth) ↔ ∃ text ≠ "", r.registryAuth = some text)
  accepted : (∃ outcome, result = .ok outcome) ↔
    ∃ spec options created, Exchange.create spec options (.ok created) ∈ trace
  /-- A failed network lookup alone never makes a deployment fail. -/
  absorbed : ∀ label failure, Exchange.findNetworks label (.error failure) ∈ trace →
    (∃ error, result = .error error) → ¬Labelled settings r ∨
      ∃ spec options refusal, Exchange.create spec options (.error refusal) ∈ trace

theorem SecretsLookup.stages {bound : Except SecretsFault (List SecretReference)}
    (lookup : SecretsLookup settings r trace bound) :
    (trace.map fun e => stage e.call).Sublist [0] := by
  cases lookup with
  | notRequested none => exact List.nil_sublist _
  | notListed failure some => exact List.Sublist.refl _
  | listed found some => exact List.Sublist.refl _

theorem SecretsLookup.findSecrets_mem_iff {bound : Except SecretsFault (List SecretReference)}
    (lookup : SecretsLookup settings r trace bound) {names : List String} :
    (∃ reply, Exchange.findSecrets names reply ∈ trace) ↔ names = r.secretNames ∧ names ≠ [] := by
  have single : ∀ reply, r.secretNames ≠ [] →
      ((∃ reply', Exchange.findSecrets names reply' ∈ [.findSecrets r.secretNames reply]) ↔
        names = r.secretNames ∧ names ≠ []) := by
    intro reply some
    constructor
    · rintro ⟨reply', mem⟩
      cases List.mem_singleton.1 mem
      exact ⟨rfl, some⟩
    · rintro ⟨rfl, -⟩
      exact ⟨reply, List.mem_singleton_self _⟩
  cases lookup with
  | notRequested none => simp [none]
  | notListed failure some => exact single _ some
  | listed found some => exact single _ some

theorem NetworkLookup.stages {network : Option String} {notes : Notes}
    (lookup : NetworkLookup settings r trace network notes) :
    (trace.map fun e => stage e.call).Sublist [1] := by
  cases lookup with
  | requested given => exact List.nil_sublist _
  | listed networks none => exact List.Sublist.refl _
  | failed failure none => exact List.Sublist.refl _

theorem NetworkLookup.findNetworks_mem_iff {network : Option String} {notes : Notes}
    (lookup : NetworkLookup settings r trace network notes) {label : String} :
    (∃ reply, Exchange.findNetworks label reply ∈ trace) ↔
      label = settings.networkLabel ∧ r.requestedNetwork = none := by
  have single : ∀ reply, r.requestedNetwork = none →
      ((∃ reply', Exchange.findNetworks label reply' ∈
          [.findNetworks settings.networkLabel reply]) ↔
        label = settings.networkLabel ∧ r.requestedNetwork = none) := by
    intro reply none
    constructor
    · rintro ⟨reply', mem⟩
      cases List.mem_singleton.1 mem
      exact ⟨rfl, none⟩
    · rintro ⟨rfl, -⟩
      exact ⟨reply, List.mem_singleton_self _⟩
  cases lookup with
  | requested given => simp [given]
  | listed networks none => exact single _ none
  | failed failure none => exact single _ none

theorem not_mem_of_stages {stages : List Nat}
    (within : (trace.map fun e => stage e.call).Sublist stages) {e : Exchange}
    (other : stage e.call ∉ stages) : e ∉ trace :=
  fun mem => other (within.subset (List.mem_map_of_mem mem))

theorem SecretsLookup.bound_iff {bound : Except SecretsFault (List SecretReference)}
    (lookup : SecretsLookup settings r trace bound) {rest : List Exchange}
    (later : (rest.map fun e => stage e.call).Sublist [1, 2]) :
    SecretsBound r (trace ++ rest) ↔ ∃ references, bound = .ok references := by
  have other : ∀ names reply, Exchange.findSecrets names reply ∉ rest :=
    fun names reply => not_mem_of_stages later (by simp [stage, Exchange.call])
  cases lookup with
  | notRequested none => simp [SecretsBound, none]
  | notListed failure some =>
    obtain ⟨name, mem⟩ := List.exists_mem_of_ne_nil _ some
    simp only [reduceCtorEq, exists_false, iff_false]
    intro bound
    obtain ⟨found, secret, listed, -⟩ := bound name mem
    simp [other] at listed
  | listed found some =>
    rw [exists_bindSecrets_iff]
    simp [SecretsBound, other]

theorem labelled_iff (bound : List SecretReference) (network : Option String) :
    Labelled settings r ↔ ∃ compiled, compile settings r bound network = .ok compiled := by
  unfold Labelled
  cases compiles : compile settings r bound network with
  | error conflict => simp [compile_eq_error_iff.1 compiles]
  | ok compiled =>
    cases set : labels r.service r.labels r.annotations settings with
    | error conflict =>
      rw [compile_eq_error_iff.2 set] at compiles
      cases compiles
    | ok set => simp

theorem registryAuth_isSome_iff {auth : Option String} (ok : registryAuth settings r = .ok auth) :
    (∃ encoded, auth = some encoded) ↔ ∃ text ≠ "", r.registryAuth = some text := by
  unfold registryAuth at ok
  split at ok
  · rename_i none
    cases ok
    simp only [Request.credentials, nonEmpty, Option.filter_eq_none_iff] at none
    simp only [reduceCtorEq, exists_false, false_iff, not_exists, not_and]
    intro text notEmpty given
    simpa [notEmpty] using none text given
  · rename_i basic given
    have text : ∃ text ≠ "", r.registryAuth = some text := by
      simp only [Request.credentials, nonEmpty, Option.filter_eq_some_iff] at given
      exact ⟨basic, by simpa using given.2, given.1⟩
    cases encoded : Registry.encodedLogin basic r.image settings.defaultRegistryNamespace with
    | error error => simp [encoded, Except.map] at ok
    | ok login =>
      simp only [encoded, Except.map, Except.ok.injEq] at ok
      simp only [← ok, text, iff_true]
      exact ⟨login, rfl⟩

section
variable {found listed rest : List Exchange} {bound : List SecretReference}
  {network : Option String} {lookup : Notes}
  (secrets : SecretsLookup settings r found (.ok bound))
  (networks : NetworkLookup settings r listed network lookup)
  (final : (rest.map fun e => stage e.call).Sublist [2])

include networks final in
theorem stages_after_secrets :
    ((listed ++ rest).map fun e => stage e.call).Sublist [1, 2] := by
  rw [List.map_append]
  exact networks.stages.append final

include secrets networks final

theorem ordered_of_stages :
    ((found ++ (listed ++ rest)).map fun e => stage e.call).Pairwise (· < ·) := by
  have all : ((found ++ (listed ++ rest)).map fun e => stage e.call).Sublist [0, 1, 2] := by
    rw [List.map_append]
    exact secrets.stages.append (stages_after_secrets networks final)
  exact List.Pairwise.sublist all (by decide)

theorem secretsBound_of_stages : SecretsBound r (found ++ (listed ++ rest)) :=
  (secrets.bound_iff (stages_after_secrets networks final)).2 ⟨bound, rfl⟩

theorem findSecrets_mem_iff_of_stages (names : List String) :
    (∃ reply, Exchange.findSecrets names reply ∈ found ++ (listed ++ rest)) ↔
      names = r.secretNames ∧ names ≠ [] := by
  have none : ∀ reply, Exchange.findSecrets names reply ∉ listed ++ rest := fun reply =>
    not_mem_of_stages (stages_after_secrets networks final) (by simp [stage, Exchange.call])
  simp only [List.mem_append (s := found), none, or_false, secrets.findSecrets_mem_iff]

theorem findNetworks_mem_iff_of_stages (label : String) :
    (∃ reply, Exchange.findNetworks label reply ∈ found ++ (listed ++ rest)) ↔
      label = settings.networkLabel ∧ r.requestedNetwork = none := by
  have notBefore : ∀ reply, Exchange.findNetworks label reply ∉ found := fun reply =>
    not_mem_of_stages secrets.stages (by simp [stage, Exchange.call])
  have notAfter : ∀ reply, Exchange.findNetworks label reply ∉ rest := fun reply =>
    not_mem_of_stages final (by simp [stage, Exchange.call])
  simp only [List.mem_append, notBefore, notAfter, false_or, or_false,
    networks.findNetworks_mem_iff]

omit final in
theorem create_mem_iff_of_stages (spec : ServiceSpec) (options : CreateOptions)
    (reply : Reply Created) :
    Exchange.create spec options reply ∈ found ++ (listed ++ rest) ↔
      Exchange.create spec options reply ∈ rest := by
  have notSecrets : Exchange.create spec options reply ∉ found :=
    not_mem_of_stages secrets.stages (by simp [stage, Exchange.call])
  have notNetworks : Exchange.create spec options reply ∉ listed :=
    not_mem_of_stages networks.stages (by simp [stage, Exchange.call])
  simp only [List.mem_append, notSecrets, notNetworks, false_or]

theorem keepsProtocol_of_stages (authenticated : Authenticated settings r)
    (creates : (∃ spec options reply, Exchange.create spec options reply ∈ rest) ↔
      Labelled settings r)
    (handsOver : ∀ spec options reply, Exchange.create spec options reply ∈ rest →
      registryAuth settings r = .ok options.registryAuth)
    (accepted : (∃ outcome, result = .ok outcome) ↔
      ∃ spec options created, Exchange.create spec options (.ok created) ∈ rest)
    (absorbed : (∃ error, result = .error error) → ¬Labelled settings r ∨
      ∃ spec options refusal, Exchange.create spec options (.error refusal) ∈ rest) :
    KeepsProtocol settings r (found ++ (listed ++ rest)) result where
  ordered := ordered_of_stages secrets networks final
  silent not := absurd authenticated not
  findsSecrets := by
    simp only [findSecrets_mem_iff_of_stages secrets networks final, authenticated, and_true,
      implies_true]
  findsNetworks := by
    simp only [findNetworks_mem_iff_of_stages secrets networks final, authenticated,
      secretsBound_of_stages secrets networks final, and_true, implies_true]
  creates := by
    simp only [create_mem_iff_of_stages secrets networks, creates, authenticated,
      secretsBound_of_stages secrets networks final, true_and]
  handsOver spec options reply mem := by
    have ok := handsOver spec options reply ((create_mem_iff_of_stages secrets networks ..).1 mem)
    exact ⟨ok, registryAuth_isSome_iff ok⟩
  accepted := by simp only [create_mem_iff_of_stages secrets networks, accepted]
  absorbed label failure mem failed := by
    simp only [create_mem_iff_of_stages secrets networks]
    exact absorbed failed

end

theorem keepsProtocol_of_unbound {auth : Option String} {fault : SecretsFault}
    (ok : registryAuth settings r = .ok auth)
    (secrets : SecretsLookup settings r trace (.error fault)) :
    KeepsProtocol settings r trace (.error (.secrets fault)) := by
  have authenticated : Authenticated settings r := ⟨auth, ok⟩
  have nothingLater : (([] : List Exchange).map fun e => stage e.call).Sublist [1, 2] :=
    List.nil_sublist _
  have unbound : ¬SecretsBound r trace := by
    simpa using secrets.bound_iff nothingLater
  have noNetworks : ∀ label reply, Exchange.findNetworks label reply ∉ trace := fun _ _ =>
    not_mem_of_stages secrets.stages (by simp [stage, Exchange.call])
  have noCreation : ∀ spec options reply, Exchange.create spec options reply ∉ trace :=
    fun _ _ _ => not_mem_of_stages secrets.stages (by simp [stage, Exchange.call])
  exact {
    ordered := List.Pairwise.sublist secrets.stages (by decide)
    silent := fun not => absurd authenticated not
    findsSecrets := by simp [secrets.findSecrets_mem_iff, authenticated]
    findsNetworks := by simp [noNetworks, unbound]
    creates := by simp [noCreation, unbound]
    handsOver := fun _ _ _ mem => absurd mem (noCreation _ _ _)
    accepted := by simp [noCreation]
    absorbed := fun _ _ mem => absurd mem (noNetworks _ _) }

theorem Course.keepsProtocol (course : Course settings r trace result) :
    KeepsProtocol settings r trace result := by
  cases course with
  | unauthenticated refused =>
    have notAuthenticated : ¬Authenticated settings r := by simp [Authenticated, refused]
    constructor <;> simp [notAuthenticated]
  | unbound ok secrets => exact keepsProtocol_of_unbound ok secrets
  | @conflicting auth found listed bound network lookup conflict ok secrets networks conflicting =>
    have unlabelled : ¬Labelled settings r := by simp [labelled_iff bound network, conflicting]
    have final : (([] : List Exchange).map fun e => stage e.call).Sublist [2] :=
      List.nil_sublist _
    rw [← List.append_nil listed]
    apply keepsProtocol_of_stages secrets networks final ⟨auth, ok⟩
    · simp only [List.not_mem_nil, exists_false, unlabelled]
    · intro spec options reply mem
      cases mem
    · simp only [List.not_mem_nil, exists_false, reduceCtorEq]
    · exact fun _ => .inl unlabelled
  | @submitted auth found listed bound network lookup compiled reply ok secrets networks compiles =>
    have labelled : Labelled settings r := (labelled_iff bound network).2 ⟨compiled, compiles⟩
    apply keepsProtocol_of_stages secrets networks (List.Sublist.refl _) ⟨auth, ok⟩
    · exact ⟨fun _ => labelled, fun _ => ⟨_, _, _, List.mem_singleton_self _⟩⟩
    · intro spec options reply' mem
      cases List.mem_singleton.1 mem
      exact ok
    · cases reply <;> simp [submission]
    · intro failed
      cases reply with
      | error refusal => exact .inr ⟨_, _, refusal, List.mem_singleton_self _⟩
      | ok created => simp [submission] at failed

/-- Over every orchestrator the calls of a deployment keep to the protocol. -/
theorem deployment_keeps_protocol {σ : Type} (o : Orchestrator σ) (settings : DeploySettings)
    (r : Request) (s : σ) :
    ((plan settings r).run o s).calls = ((plan settings r).exchanges o s).map Exchange.call ∧
      KeepsProtocol settings r ((plan settings r).exchanges o s)
        ((plan settings r).run o s).result :=
  ⟨Plan.run_calls o _ s, (course o settings r s).keepsProtocol⟩

end SwarmDeploy.Deployment
