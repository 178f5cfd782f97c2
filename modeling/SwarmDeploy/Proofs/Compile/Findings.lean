import SwarmDeploy.Compile.Spec
import SwarmDeploy.Proofs.Quantity.Range

/-! What a compilation records.
No step reads the notes, and every step adds its diagnostics behind those that are there and logs
each of them. So a step is told by its value and by the diagnostics that it records. -/

namespace SwarmDeploy

namespace Notes

def record (n : Notes) (ds : List Diagnostic) : Notes :=
  ⟨n.diagnostics ++ ds, n.log ++ ds.map Diagnostic.event⟩

theorem record_nil (n : Notes) : n.record [] = n := by
  simp only [record, List.map_nil, List.append_nil]

theorem record_record (n : Notes) (ds es : List Diagnostic) :
    (n.record ds).record es = n.record (ds ++ es) := by
  simp only [record, List.map_append, List.append_assoc]

end Notes

namespace Compile
open Service

/-- From all notes, a step gives a value and records some diagnostics. -/
def Records {α : Type} (step : StateM Notes α) (value : α) (ds : List Diagnostic) : Prop :=
  ∀ n : Notes, step.run n = (value, n.record ds)

section
variable {α β : Type}

theorem Records.congr {step : StateM Notes α} {a : α} {ds es : List Diagnostic}
    (records : Records step a ds) (same : ds = es) : Records step a es :=
  same ▸ records

theorem Records.pure (value : α) : Records (Pure.pure value) value [] := by
  intro n
  rw [Notes.record_nil]
  rfl

theorem Records.note (d : Diagnostic) : Records (note d) () [d] :=
  fun _ => rfl

theorem Records.bind {step : StateM Notes α} {next : α → StateM Notes β} {a : α} {b : β}
    {ds es : List Diagnostic} (first : Records step a ds) (second : Records (next a) b es) :
    Records (step >>= next) b (ds ++ es) := by
  intro n
  have run : (step >>= next).run n = (next (step.run n).1).run (step.run n).2 := rfl
  rw [run, first n, second (n.record ds), Notes.record_record]

end

inductive Fate where
  | absent
  | read (n : Int)
  | unreadable (text : String) (fault : QuantityFault)

namespace Fate

def of (text : Option String) (parse : String → Except QuantityFault Int) : Fate :=
  match nonEmpty text with
  | none => absent
  | some t =>
    match parse t with
    | .ok n => read n
    | .error fault => unreadable t fault

def value : Fate → Option Int
  | read n => some n
  | _ => none

def findings (field : String) : Fate → List Diagnostic
  | unreadable text fault => [.invalidQuantity field text fault.reason]
  | _ => []

end Fate

theorem records_hint (field : String) (text : Option String)
    (parse : String → Except QuantityFault Int) :
    Records (hint field text parse) ((Fate.of text parse).value.map Int64.ofInt)
      ((Fate.of text parse).findings field) := by
  unfold hint Fate.of
  cases nonEmpty text with
  | none => exact Records.pure none
  | some t =>
    cases parsed : parse t with
    | ok n =>
      simp only [parsed]
      exact Records.pure _
    | error fault =>
      simp only [parsed]
      exact (Records.note _).bind (Records.pure none)

/-- The places of hints in a request, in the order in which they are read. -/
inductive HintPlace where
  | limitsMemory
  | limitsCpu
  | requestsMemory
  | requestsCpu
  deriving DecidableEq

namespace HintPlace

def all : List HintPlace :=
  [limitsMemory, limitsCpu, requestsMemory, requestsCpu]

def field : HintPlace → String
  | limitsMemory => "limits.memory"
  | limitsCpu => "limits.cpu"
  | requestsMemory => "requests.memory"
  | requestsCpu => "requests.cpu"

def text (limits requests : Option ResourceHints) : HintPlace → Option String
  | limitsMemory => limits.bind ResourceHints.memory
  | limitsCpu => limits.bind ResourceHints.cpu
  | requestsMemory => requests.bind ResourceHints.memory
  | requestsCpu => requests.bind ResourceHints.cpu

def parse : HintPlace → String → Except QuantityFault Int
  | limitsMemory => Memory.parse
  | limitsCpu => Cpu.parse
  | requestsMemory => Memory.parse
  | requestsCpu => Cpu.parse

def fate (limits requests : Option ResourceHints) (p : HintPlace) : Fate :=
  .of (p.text limits requests) p.parse

def findings (limits requests : Option ResourceHints) (p : HintPlace) : List Diagnostic :=
  (p.fate limits requests).findings p.field

end HintPlace

def groupOf (memory cpu : Fate) : Option Resources :=
  if memory.value.isSome || cpu.value.isSome then
    some ⟨cpu.value.map Int64.ofInt, memory.value.map Int64.ofInt⟩
  else none

theorem records_optionalGroup (group : String) (hints : Option ResourceHints) :
    Records (optionalGroup group hints)
      (groupOf (.of (hints.bind ResourceHints.memory) Memory.parse)
        (.of (hints.bind ResourceHints.cpu) Cpu.parse))
      ((Fate.of (hints.bind ResourceHints.memory) Memory.parse).findings (group ++ ".memory") ++
        (Fate.of (hints.bind ResourceHints.cpu) Cpu.parse).findings (group ++ ".cpu")) := by
  cases hints with
  | none => exact Records.pure none
  | some h =>
    have steps : Records (resourceGroup group h) _ _ :=
      Records.bind (records_hint (group ++ ".memory") h.memory Memory.parse)
        (Records.bind (records_hint (group ++ ".cpu") h.cpu Cpu.parse) (Records.pure _))
    simp only [List.append_nil, Option.isSome_map] at steps
    exact steps

def requirements (limits requests : Option ResourceHints) : Option ResourceRequirements :=
  if limits = none ∧ requests = none then none
  else some
    ⟨groupOf (HintPlace.limitsMemory.fate limits requests)
        (HintPlace.limitsCpu.fate limits requests),
      groupOf (HintPlace.requestsMemory.fate limits requests)
        (HintPlace.requestsCpu.fate limits requests)⟩

def hintFindings (limits requests : Option ResourceHints) : List Diagnostic :=
  HintPlace.all.flatMap (HintPlace.findings limits requests)

theorem records_resources (limits requests : Option ResourceHints) :
    Records (resources limits requests) (requirements limits requests)
      (hintFindings limits requests) := by
  unfold resources requirements
  by_cases neither : limits = none ∧ requests = none
  · obtain ⟨rfl, rfl⟩ := neither
    exact Records.pure none
  · have given : ¬(limits.isNone && requests.isNone) = true := by
      simpa only [Bool.and_eq_true, Option.isNone_iff_eq_none] using neither
    rw [if_neg given, if_neg neither]
    refine Records.congr (Records.bind (records_optionalGroup "limits" limits)
      (Records.bind (records_optionalGroup "requests" requests) (Records.pure _))) ?_
    simp only [hintFindings, HintPlace.all, List.flatMap_cons, List.flatMap_nil, List.append_nil,
      List.append_assoc]
    rfl

def replicaCount : Option String → UInt64
  | none => 1
  | some text =>
    match Number.readWord text with
    | .ok n => UInt64.ofNat n
    | .error _ => 1

def scaleFindings : Option String → List Diagnostic
  | none => []
  | some text =>
    match Number.readWord text with
    | .ok _ => []
    | .error fault => [.invalidScaleLabel text fault.message]

def scaleText (user : Option Bindings) (settings : DeploySettings) : Option String :=
  user.bind fun b => b.get? settings.scaleMinLabel

theorem records_replicas (user : Option Bindings) (settings : DeploySettings) :
    Records (replicas user settings) (replicaCount (scaleText user settings))
      (scaleFindings (scaleText user settings)) := by
  unfold replicas replicaCount scaleFindings scaleText
  cases user.bind fun b => b.get? settings.scaleMinLabel with
  | none => exact Records.pure 1
  | some text =>
    cases read : Number.readWord text with
    | ok n =>
      simp only [read]
      exact Records.pure _
    | error fault =>
      simp only [read]
      exact (Records.note _).bind (Records.pure 1)

def specOf (settings : DeploySettings) (r : Request) (labels : LabelSet)
    (secrets : List SecretReference) (network : Option String) : ServiceSpec where
  name := r.service
  labels
  task := {
    container := {
      image := r.image
      labels
      env := environment r.envProcess r.envVars settings
      mounts := if r.readOnlyRootFilesystem then [.memory settings.readOnlyTmpfsTarget] else []
      secrets
      readOnly := r.readOnlyRootFilesystem }
    resources := requirements r.limits r.requests
    restartPolicy := ⟨.any, settings.restartDelay, settings.maxRestarts⟩
    placement := ⟨constraints r.constraints settings⟩
    networks := attachments r.requestedNetwork network }
  replicas := replicaCount (scaleText r.labels settings)

def findings (settings : DeploySettings) (r : Request) : List Diagnostic :=
  hintFindings r.limits r.requests ++ scaleFindings (scaleText r.labels settings)

theorem records_assemble (settings : DeploySettings) (r : Request) (labels : LabelSet)
    (secrets : List SecretReference) (network : Option String) :
    Records (assemble settings r labels secrets network) (specOf settings r labels secrets network)
      (findings settings r) := by
  refine Records.congr (Records.bind (records_resources r.limits r.requests)
    (Records.bind (records_replicas r.labels settings) (Records.pure _))) ?_
  rw [List.append_nil, findings]

/-- A compilation fails as the merge of the labels does; otherwise it gives the spec and exactly
the findings. -/
theorem compile_eq (settings : DeploySettings) (r : Request) (secrets : List SecretReference)
    (network : Option String) : compile settings r secrets network =
      (labels r.service r.labels r.annotations settings).map fun labels =>
        ⟨specOf settings r labels secrets network, ({} : Notes).record (findings settings r)⟩ := by
  unfold compile
  cases labels r.service r.labels r.annotations settings with
  | error conflict => rfl
  | ok labels =>
    have run := records_assemble settings r labels secrets network {}
    simp only [run]
    rfl

theorem compile_eq_ok_iff {settings : DeploySettings} {r : Request}
    {secrets : List SecretReference} {network : Option String} {compiled : Compiled} :
    compile settings r secrets network = .ok compiled ↔
      ∃ set, labels r.service r.labels r.annotations settings = .ok set ∧
        ⟨specOf settings r set secrets network, ({} : Notes).record (findings settings r)⟩ =
          compiled := by
  rw [compile_eq, map_eq_ok_iff]

end Compile
end SwarmDeploy
