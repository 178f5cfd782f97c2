import Mathlib.Tactic.Common
import SwarmDeploy.Compile.Secrets
import SwarmDeploy.Compile.Spec
import SwarmDeploy.Proofs.Basic

/-! What is handed in when a request is compiled: secrets and a network.
Secrets are bound if all of them are listed. In the compiled spec the handed-in parts stand in
two fields, and nothing else depends on them. -/

namespace SwarmDeploy.Compile
open Orchestrator Service

theorem exists_secretId_iff {found : List SecretSummary} {name : String} :
    (∃ id, secretId found name = some id) ↔ ∃ secret ∈ found, secret.name = name := by
  simp only [secretId, Option.map_eq_some_iff]
  constructor
  · rintro ⟨id, secret, first, -⟩
    have mem := List.mem_of_find?_eq_some first
    have same := List.find?_some first
    exact ⟨secret, by simpa using mem, by simpa using same⟩
  · rintro ⟨secret, mem, rfl⟩
    cases first : found.reverse.find? (fun s => s.name == secret.name) with
    | some other => exact ⟨other.id, other, rfl, rfl⟩
    | none =>
      rw [List.find?_eq_none] at first
      exact absurd (beq_self_eq_true _) (first secret (List.mem_reverse.2 mem))

theorem bindSecrets_cons (name : String) (names : List String) (found : List SecretSummary)
    (mountDir : String) :
    bindSecrets (name :: names) found mountDir =
      match secretId found name with
      | none => .error (.notFound name)
      | some id => (bindSecrets names found mountDir).map fun bound =>
          ⟨⟨secretPath mountDir name, "0", "0", secretFileMode⟩, id, name⟩ :: bound := by
  simp only [bindSecrets, List.mapM_cons]
  cases secretId found name <;> rfl

theorem exists_bindSecrets_iff {requested : List String} {found : List SecretSummary}
    {mountDir : String} : (∃ bound, bindSecrets requested found mountDir = .ok bound) ↔
      ∀ name ∈ requested, ∃ secret ∈ found, secret.name = name := by
  induction requested with
  | nil => simp [bindSecrets, pure, Except.pure]
  | cons name names ih =>
    rw [List.forall_mem_cons, ← ih, ← exists_secretId_iff, bindSecrets_cons]
    cases secretId found name with
    | none => simp
    | some id => cases bindSecrets names found mountDir <;> simp [Except.map]

theorem bindSecrets_congr {requested : List String} {found found' : List SecretSummary}
    (same : ∀ name ∈ requested, secretId found name = secretId found' name) (mountDir : String) :
    bindSecrets requested found mountDir = bindSecrets requested found' mountDir := by
  induction requested with
  | nil => rfl
  | cons name names ih =>
    rw [List.forall_mem_cons] at same
    rw [bindSecrets_cons, bindSecrets_cons, same.1, ih same.2]

def rebind (spec : ServiceSpec) (secrets : List SecretReference)
    (networks : List NetworkAttachment) : ServiceSpec :=
  { spec with task := { spec.task with
      container := { spec.task.container with secrets }, networks } }

theorem compile_eq_error_iff {settings : DeploySettings} {r : Request}
    {secrets : List SecretReference} {network : Option String} {conflict : LabelConflict} :
    compile settings r secrets network = .error conflict ↔
      labels r.service r.labels r.annotations settings = .error conflict := by
  unfold compile
  cases labels r.service r.labels r.annotations settings with
  | error other => simp
  | ok set => constructor <;> intro impossible <;> cases impossible

/-- Compiling with secrets and a network fails as it does without, or gives the same spec and the
same notes but for these parts. -/
theorem compile_eq_rebind (settings : DeploySettings) (r : Request)
    (secrets : List SecretReference) (network : Option String) :
    compile settings r secrets network = (compile settings r [] none).map fun compiled =>
      ⟨rebind compiled.spec secrets (attachments r.requestedNetwork network), compiled.notes⟩ := by
  unfold compile
  cases labels r.service r.labels r.annotations settings with
  | error conflict => rfl
  | ok labels => rfl

theorem attachments_of_requested {requested : Option String} (given : requested ≠ none)
    (network : Option String) : attachments requested network = attachments requested none := by
  cases requested with
  | none => exact absurd rfl given
  | some name => rfl

theorem attachments_of_compile {settings : DeploySettings} {r : Request}
    {secrets : List SecretReference} {network : Option String} {compiled : Compiled}
    (compiles : compile settings r secrets network = .ok compiled) :
    compiled.spec.task.networks = attachments r.requestedNetwork network := by
  rw [compile_eq_rebind] at compiles
  obtain ⟨alone, -, rfl⟩ := map_eq_ok_iff.1 compiles
  rfl

end SwarmDeploy.Compile
