import SwarmDeploy.Json.Access
import SwarmDeploy.Json.Shape
import SwarmDeploy.Service.Spec

/-! The JSON form of service specs that an engine takes.
Every type has a shape, a writer and a reader of values of that shape. Empty lists, empty label
sets and groups that are not set are left out; the delay is written as a word of nanoseconds. -/

namespace SwarmDeploy.Service
open SwarmDeploy.Json

def MountKind.name : MountKind → String
  | .bind => "bind"
  | .volume => "volume"
  | .tmpfs => "tmpfs"

def MountKind.ofName (name : String) : MountKind :=
  if name = "bind" then .bind else if name = "volume" then .volume else .tmpfs

def MountKind.shape : Shape :=
  .choice ["bind", "volume", "tmpfs"]

def Mount.shape : Shape :=
  .recordOf "Mount" [("Type", MountKind.shape, .required), ("Target", .text, .required)]

def Mount.toJson (m : Mount) : Value :=
  .object [("Type", .text m.kind.name), ("Target", .text m.target)]

def Mount.ofJson (v : Value) : Mount :=
  ⟨.ofName (v.field "Type").textOf, (v.field "Target").textOf⟩

def SecretFile.shape : Shape :=
  .recordOf "SecretFile" [("Name", .text, .required), ("UID", .text, .required),
    ("GID", .text, .required), ("Mode", .integer .halfWord, .required)]

def SecretFile.toJson (f : SecretFile) : Value :=
  .object [("Name", .text f.name), ("UID", .text f.uid), ("GID", .text f.gid),
    ("Mode", .int f.mode.toNat)]

def SecretFile.ofJson (v : Value) : SecretFile :=
  ⟨(v.field "Name").textOf, (v.field "UID").textOf, (v.field "GID").textOf,
    .ofNat (v.field "Mode").intOf.toNat⟩

def SecretReference.shape : Shape :=
  .recordOf "SecretReference" [("File", SecretFile.shape, .required),
    ("SecretID", .text, .required), ("SecretName", .text, .required)]

def SecretReference.toJson (s : SecretReference) : Value :=
  .object [("File", s.file.toJson), ("SecretID", .text s.id), ("SecretName", .text s.name)]

def SecretReference.ofJson (v : Value) : SecretReference :=
  ⟨.ofJson (v.field "File"), (v.field "SecretID").textOf, (v.field "SecretName").textOf⟩

def Resources.shape : Shape :=
  .recordOf "Resources" [
    ("NanoCPUs", .optional (.integer .signedWord), .default .null),
    ("MemoryBytes", .optional (.integer .signedWord), .default .null)]

def Resources.toJson (r : Resources) : Value :=
  .object (optionalMember "NanoCPUs" (r.nanoCpus.map fun n => .int n.toInt) ++
    optionalMember "MemoryBytes" (r.memoryBytes.map fun n => .int n.toInt))

def Resources.ofJson (v : Value) : Resources :=
  ⟨(v.field "NanoCPUs").optional fun n => .ofInt n.intOf,
    (v.field "MemoryBytes").optional fun n => .ofInt n.intOf⟩

def ResourceRequirements.shape : Shape :=
  .recordOf "ResourceRequirements" [
    ("Limits", .optional Resources.shape, .default .null),
    ("Reservations", .optional Resources.shape, .default .null)]

def ResourceRequirements.toJson (r : ResourceRequirements) : Value :=
  .object (optionalMember "Limits" (r.limits.map Resources.toJson) ++
    optionalMember "Reservations" (r.reservations.map Resources.toJson))

def ResourceRequirements.ofJson (v : Value) : ResourceRequirements :=
  ⟨(v.field "Limits").optional Resources.ofJson, (v.field "Reservations").optional Resources.ofJson⟩

def RestartCondition.name : RestartCondition → String
  | .never => "none"
  | .onFailure => "on-failure"
  | .any => "any"

def RestartCondition.ofName (name : String) : RestartCondition :=
  if name = "none" then .never else if name = "on-failure" then .onFailure else .any

def RestartCondition.shape : Shape :=
  .choice ["none", "on-failure", "any"]

def RestartPolicy.shape : Shape :=
  .recordOf "RestartPolicy" [("Condition", RestartCondition.shape, .required),
    ("Delay", .integer .word, .required), ("MaxAttempts", .integer .word, .required)]

/-- The delay as it is written; one that no word holds is cut to the largest word. -/
def RestartPolicy.writtenDelay (p : RestartPolicy) : Nat :=
  min p.delay Number.maxWord

def RestartPolicy.toJson (p : RestartPolicy) : Value :=
  .object [("Condition", .text p.condition.name), ("Delay", .int p.writtenDelay),
    ("MaxAttempts", .int p.maxAttempts.toNat)]

def RestartPolicy.ofJson (v : Value) : RestartPolicy :=
  ⟨.ofName (v.field "Condition").textOf, (v.field "Delay").intOf.toNat,
    .ofNat (v.field "MaxAttempts").intOf.toNat⟩

def Placement.shape : Shape :=
  .recordOf "Placement" [("Constraints", .many .text, .default (.list []))]

def Placement.toJson (p : Placement) : Value :=
  .object (listMember "Constraints" (p.constraints.map .text))

def Placement.ofJson (v : Value) : Placement :=
  ⟨(v.field "Constraints").textsOf⟩

def NetworkAttachment.shape : Shape :=
  .recordOf "NetworkAttachment" [("Target", .text, .required)]

def NetworkAttachment.toJson (n : NetworkAttachment) : Value :=
  .object [("Target", .text n.target)]

def NetworkAttachment.ofJson (v : Value) : NetworkAttachment :=
  ⟨(v.field "Target").textOf⟩

def labelsShape : Shape := .dictionary .text

def ContainerSpec.shape : Shape :=
  .recordOf "ContainerSpec" [("Image", .text, .required),
    ("Labels", labelsShape, .default (.object [])),
    ("Env", .many .text, .default (.list [])),
    ("Mounts", .many Mount.shape, .default (.list [])),
    ("Secrets", .many SecretReference.shape, .default (.list [])),
    ("ReadOnly", .flag, .default (.bool false))]

def ContainerSpec.toJson (c : ContainerSpec) : Value :=
  .object ([("Image", .text c.image)] ++ pairsMember "Labels" c.labels.toList ++
    listMember "Env" (c.env.map .text) ++ listMember "Mounts" (c.mounts.map Mount.toJson) ++
    listMember "Secrets" (c.secrets.map SecretReference.toJson) ++
    [("ReadOnly", .bool c.readOnly)])

def ContainerSpec.ofJson (v : Value) : ContainerSpec where
  image := (v.field "Image").textOf
  labels := .ofList (v.field "Labels").pairsOf
  env := (v.field "Env").textsOf
  mounts := (v.field "Mounts").itemsOf.map Mount.ofJson
  secrets := (v.field "Secrets").itemsOf.map SecretReference.ofJson
  readOnly := (v.field "ReadOnly").flagOf

def TaskSpec.shape : Shape :=
  .recordOf "TaskSpec" [("ContainerSpec", ContainerSpec.shape, .required),
    ("Resources", .optional ResourceRequirements.shape, .default .null),
    ("RestartPolicy", RestartPolicy.shape, .required),
    ("Placement", Placement.shape, .required),
    ("Networks", .many NetworkAttachment.shape, .default (.list []))]

def TaskSpec.toJson (t : TaskSpec) : Value :=
  .object ([("ContainerSpec", t.container.toJson)] ++
    optionalMember "Resources" (t.resources.map ResourceRequirements.toJson) ++
    [("RestartPolicy", t.restartPolicy.toJson), ("Placement", t.placement.toJson)] ++
    listMember "Networks" (t.networks.map NetworkAttachment.toJson))

def TaskSpec.ofJson (v : Value) : TaskSpec where
  container := .ofJson (v.field "ContainerSpec")
  resources := (v.field "Resources").optional ResourceRequirements.ofJson
  restartPolicy := .ofJson (v.field "RestartPolicy")
  placement := .ofJson (v.field "Placement")
  networks := (v.field "Networks").itemsOf.map NetworkAttachment.ofJson

def modeShape : Shape :=
  .recordOf "ServiceMode" [("Replicated",
    .recordOf "ReplicatedService" [("Replicas", .integer .word, .required)], .required)]

def modeToJson (replicas : UInt64) : Value :=
  .object [("Replicated", .object [("Replicas", .int replicas.toNat)])]

def modeOfJson (v : Value) : UInt64 :=
  .ofNat ((v.field "Replicated").field "Replicas").intOf.toNat

def ServiceSpec.shape : Shape :=
  .recordOf "ServiceSpec" [("Name", .text, .required),
    ("Labels", labelsShape, .default (.object [])),
    ("TaskTemplate", TaskSpec.shape, .required), ("Mode", modeShape, .required)]

def ServiceSpec.toJson (s : ServiceSpec) : Value :=
  .object ([("Name", .text s.name)] ++ pairsMember "Labels" s.labels.toList ++
    [("TaskTemplate", s.task.toJson), ("Mode", modeToJson s.replicas)])

def ServiceSpec.ofJson (v : Value) : ServiceSpec where
  name := (v.field "Name").textOf
  labels := .ofList (v.field "Labels").pairsOf
  task := .ofJson (v.field "TaskTemplate")
  replicas := modeOfJson (v.field "Mode")

def ServiceSpec.text (s : ServiceSpec) : String :=
  s.toJson.toText

end SwarmDeploy.Service
