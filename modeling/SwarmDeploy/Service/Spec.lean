import SwarmDeploy.LabelSet

/-! Service specs: what an orchestrator is asked to run. -/

namespace SwarmDeploy.Service

inductive MountKind where
  | bind
  | volume
  | tmpfs
  deriving DecidableEq, Repr

structure Mount where
  kind : MountKind
  target : String
  deriving DecidableEq, Repr

structure SecretFile where
  name : String
  uid : String
  gid : String
  mode : UInt32
  deriving DecidableEq, Repr

structure SecretReference where
  file : SecretFile
  id : String
  name : String
  deriving DecidableEq, Repr

structure Resources where
  nanoCpus : Option Int64
  memoryBytes : Option Int64
  deriving DecidableEq, Repr

structure ResourceRequirements where
  limits : Option Resources
  reservations : Option Resources
  deriving DecidableEq, Repr

inductive RestartCondition where
  | never
  | onFailure
  | any
  deriving DecidableEq, Repr

/-- When and how often a task is started again; the delay counts nanoseconds. -/
structure RestartPolicy where
  condition : RestartCondition
  delay : Nat
  maxAttempts : UInt64
  deriving DecidableEq, Repr

structure Placement where
  constraints : List String
  deriving DecidableEq, Repr

structure NetworkAttachment where
  target : String
  deriving DecidableEq, Repr

structure ContainerSpec where
  image : String
  labels : LabelSet
  env : List String
  mounts : List Mount
  secrets : List SecretReference
  readOnly : Bool
  deriving DecidableEq

structure TaskSpec where
  container : ContainerSpec
  resources : Option ResourceRequirements
  restartPolicy : RestartPolicy
  placement : Placement
  networks : List NetworkAttachment
  deriving DecidableEq

structure ServiceSpec where
  name : String
  labels : LabelSet
  task : TaskSpec
  replicas : UInt64
  deriving DecidableEq

def Mount.memory (target : String) : Mount :=
  ⟨.tmpfs, target⟩

end SwarmDeploy.Service
