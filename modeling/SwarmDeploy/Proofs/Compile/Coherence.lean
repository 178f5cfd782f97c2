import SwarmDeploy.Proofs.Compile.Binding
import SwarmDeploy.Proofs.Compile.Findings

/-! The parts of a compiled spec.
They fit each other, and each of them is made of a few fields of the request: two requests that
agree on these fields have the same part, whatever else they ask for. The credentials and the names
of secrets are in no part at all. -/

namespace SwarmDeploy.Compile
open Service

variable {settings : DeploySettings} {r r' : Request} {secrets secrets' : List SecretReference}
  {network network' : Option String} {set set' : LabelSet} {compiled compiled' : Compiled}
  {target : String}

theorem spec_of_compile (compiles : compile settings r secrets network = .ok compiled) :
    ∃ set, labels r.service r.labels r.annotations settings = .ok set ∧
      compiled.spec = specOf settings r set secrets network := by
  obtain ⟨set, merged, rfl⟩ := compile_eq_ok_iff.1 compiles
  exact ⟨set, merged, rfl⟩

theorem length_attachments_le (requested resolved : Option String) :
    (attachments requested resolved).length ≤ 1 := by
  rw [attachments, List.length_map]
  exact Option.length_toList_le

theorem mem_attachments_iff {requested resolved : Option String} :
    ⟨target⟩ ∈ attachments requested resolved ↔
      requested.or resolved = some target ∧ target ≠ "" := by
  simp [attachments, nonEmpty, Option.filter_eq_some_iff]

theorem requestedNetwork_eq_some_iff :
    r.requestedNetwork = some target ↔ r.network = some target ∧ target ≠ "" := by
  simp [Request.requestedNetwork, nonEmpty, Option.filter_eq_some_iff]

theorem mem_networks_iff :
    ⟨target⟩ ∈ attachments r.requestedNetwork network ↔
      target ≠ "" ∧ (r.network = some target ∨
        (r.network.getD "" = "" ∧ network = some target)) := by
  have unnamed : r.requestedNetwork = none ↔ r.network.getD "" = "" := by
    cases named : r.network <;> simp [Request.requestedNetwork, nonEmpty, named]
  rw [mem_attachments_iff, Option.or_eq_some_iff, requestedNetwork_eq_some_iff, unnamed]
  constructor
  · rintro ⟨⟨named, filled⟩ | handed, filled⟩
    · exact ⟨filled, .inl named⟩
    · exact ⟨filled, .inr handed⟩
  · rintro ⟨filled, named | handed⟩
    · exact ⟨.inl ⟨named, filled⟩, filled⟩
    · exact ⟨.inr handed, filled⟩

theorem constraints_eq (given : Option (List String)) (settings : DeploySettings) :
    constraints given settings =
      if given.getD [] = [] then settings.fallbackConstraints else given.getD [] := by
  cases given with
  | none => rfl
  | some cs => cases cs <;> rfl

/-- How the parts of a spec fit each other, the request and what was handed in. -/
structure Coherent (settings : DeploySettings) (r : Request) (secrets : List SecretReference)
    (network : Option String) (spec : ServiceSpec) : Prop where
  labels : spec.task.container.labels = spec.labels
  networks : spec.task.networks.length ≤ 1
  targets : ∀ target, ⟨target⟩ ∈ spec.task.networks ↔
    target ≠ "" ∧ (r.network = some target ∨
      (r.network.getD "" = "" ∧ network = some target))
  readOnly : spec.task.container.readOnly = r.readOnlyRootFilesystem
  mounts : spec.task.container.mounts.count ⟨.tmpfs, settings.readOnlyTmpfsTarget⟩ =
    if spec.task.container.readOnly then 1 else 0
  constraints : spec.task.placement.constraints =
    if r.constraints.getD [] = [] then settings.fallbackConstraints else r.constraints.getD []
  secrets : spec.task.container.secrets = secrets

theorem coherent_specOf : Coherent settings r secrets network
    (specOf settings r set secrets network) where
  labels := rfl
  networks := length_attachments_le _ _
  targets _ := mem_networks_iff
  readOnly := rfl
  mounts := by
    cases readOnly : r.readOnlyRootFilesystem with
    | false => simp [specOf, readOnly]
    | true => simp [specOf, readOnly, Mount.memory]
  constraints := constraints_eq r.constraints settings
  secrets := rfl

/-- Two specs share each part whose fields are the same in both requests. -/
structure SharesParts (r r' : Request) (network network' : Option String)
    (spec spec' : ServiceSpec) : Prop where
  name : r.service = r'.service → spec.name = spec'.name
  image : r.image = r'.image → spec.task.container.image = spec'.task.container.image
  env : r.envProcess = r'.envProcess → r.envVars = r'.envVars →
    spec.task.container.env = spec'.task.container.env
  constraints : r.constraints = r'.constraints → spec.task.placement = spec'.task.placement
  networks : r.network = r'.network → network = network' →
    spec.task.networks = spec'.task.networks
  mounts : r.readOnlyRootFilesystem = r'.readOnlyRootFilesystem →
    spec.task.container.mounts = spec'.task.container.mounts ∧
      spec.task.container.readOnly = spec'.task.container.readOnly
  resources : r.limits = r'.limits → r.requests = r'.requests →
    spec.task.resources = spec'.task.resources
  labels : r.service = r'.service → r.labels = r'.labels → r.annotations = r'.annotations →
    spec.labels = spec'.labels ∧ spec.task.container.labels = spec'.task.container.labels
  replicas : r.labels = r'.labels → spec.replicas = spec'.replicas
  restartPolicy : spec.task.restartPolicy = spec'.task.restartPolicy

theorem sharesParts_specOf
    (merged : labels r.service r.labels r.annotations settings = .ok set)
    (merged' : labels r'.service r'.labels r'.annotations settings = .ok set') :
    SharesParts r r' network network' (specOf settings r set secrets network)
      (specOf settings r' set' secrets' network') where
  name same := same
  image same := same
  env process vars := by simp only [specOf, process, vars]
  constraints same := by simp only [specOf, same]
  networks same handed := by simp only [specOf, Request.requestedNetwork, same, handed]
  mounts same := by simp only [specOf, same, and_self]
  resources limits requests := by simp only [specOf, limits, requests]
  labels service user annotations := by
    rw [service, user, annotations, merged', Except.ok.injEq] at merged
    exact ⟨merged.symm, merged.symm⟩
  replicas same := by simp only [specOf, same]
  restartPolicy := rfl

theorem compile_without_credentials (settings : DeploySettings) (r : Request)
    (credentials : Option String) (names : Option (List String))
    (secrets : List SecretReference) (network : Option String) :
    compile settings { r with registryAuth := credentials, secrets := names } secrets network =
      compile settings r secrets network := by
  rw [compile_eq, compile_eq]
  rfl

/-- A compilation fails as the merge of the labels does. Otherwise the parts of the spec fit each
other, specs share the parts whose fields are the same, and the credentials and the names of secrets
change nothing at all. -/
theorem parts_follow_their_fields (settings : DeploySettings) :
    (∀ r secrets network conflict, compile settings r secrets network = .error conflict ↔
      labels r.service r.labels r.annotations settings = .error conflict) ∧
    (∀ r secrets network compiled, compile settings r secrets network = .ok compiled →
      Coherent settings r secrets network compiled.spec) ∧
    (∀ r r' secrets secrets' network network' compiled compiled',
      compile settings r secrets network = .ok compiled →
      compile settings r' secrets' network' = .ok compiled' →
        SharesParts r r' network network' compiled.spec compiled'.spec) ∧
    ∀ r credentials names secrets network,
      compile settings { r with registryAuth := credentials, secrets := names } secrets network =
        compile settings r secrets network := by
  refine ⟨fun _ _ _ _ => compile_eq_error_iff, ?_, ?_, compile_without_credentials settings⟩
  · intro r secrets network compiled compiles
    obtain ⟨set, -, spec⟩ := spec_of_compile compiles
    rw [spec]
    exact coherent_specOf
  · intro r r' secrets secrets' network network' compiled compiled' compiles compiles'
    obtain ⟨set, merged, spec⟩ := spec_of_compile compiles
    obtain ⟨set', merged', spec'⟩ := spec_of_compile compiles'
    rw [spec, spec']
    exact sharesParts_specOf merged merged'

def scaledToThree : Bindings :=
  .ofList [("com.openfaas.scale.min", "3")]

/-- A request whose empty network and constraints count as none. -/
def sealedRequest : Request :=
  { Request.plain "fn" "alpine" with
    network := some ""
    constraints := some []
    secrets := some ["key"]
    labels := some scaledToThree
    readOnlyRootFilesystem := true
    registryAuth := some "dTpw" }

def namedRequest : Request :=
  { Request.plain "fn" "alpine:3" with
    network := some "own"
    labels := some scaledToThree }

theorem sealed_and_named_share_parts : ∃ first second,
    compile {} sealedRequest [] (some "func") = .ok first ∧
    compile {} namedRequest [] none = .ok second ∧
    ⟨"func"⟩ ∈ first.spec.task.networks ∧ ⟨"own"⟩ ∈ second.spec.task.networks ∧
    first.spec.task.container.mounts.count ⟨.tmpfs, "/tmp"⟩ = 1 ∧
    second.spec.task.container.mounts.count ⟨.tmpfs, "/tmp"⟩ = 0 ∧
    first.spec.task.placement.constraints = ["node.platform.os == linux"] ∧
    first.spec.replicas = second.spec.replicas ∧ first.spec.labels = second.spec.labels := by
  have merged : labels "fn" (some scaledToThree) none {} = .ok ⟨[("com.openfaas.function", "fn"),
      ("com.openfaas.scale.min", "3"), ("function", "true")], by decide⟩ := by
    decide +kernel
  have compiles : ∃ compiled, compile {} sealedRequest [] (some "func") = .ok compiled :=
    ⟨_, compile_eq_ok_iff.2 ⟨_, merged, rfl⟩⟩
  have compiles' : ∃ compiled, compile {} namedRequest [] none = .ok compiled :=
    ⟨_, compile_eq_ok_iff.2 ⟨_, merged, rfl⟩⟩
  obtain ⟨first, compiles⟩ := compiles
  obtain ⟨second, compiles'⟩ := compiles'
  obtain ⟨-, coherent, shares, -⟩ := parts_follow_their_fields {}
  have own := coherent _ _ _ _ compiles
  have own' := coherent _ _ _ _ compiles'
  have shared := shares _ _ _ _ _ _ _ _ compiles compiles'
  refine ⟨first, second, compiles, compiles', ?_, ?_, ?_, ?_, own.constraints,
    shared.replicas rfl, (shared.labels rfl rfl rfl).1⟩
  · exact (own.targets "func").2 ⟨by decide, .inr ⟨rfl, rfl⟩⟩
  · exact (own'.targets "own").2 ⟨by decide, .inl rfl⟩
  · rw [own.mounts, own.readOnly]
    rfl
  · rw [own'.mounts, own'.readOnly]
    rfl

end SwarmDeploy.Compile
