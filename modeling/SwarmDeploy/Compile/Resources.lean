import SwarmDeploy.Diagnostic
import SwarmDeploy.Quantity.Cpu
import SwarmDeploy.Quantity.Memory
import SwarmDeploy.Request
import SwarmDeploy.Service.Spec

/-! Resource requirements from the hints of a request.
Every hint is read on its own; one that cannot be read is dropped with a diagnostic. -/

namespace SwarmDeploy.Compile
open Service

def hint (field : String) (text : Option String) (parse : String → Except QuantityFault Int) :
    StateM Notes (Option Int64) :=
  match nonEmpty text with
  | none => pure none
  | some t =>
    match parse t with
    | .ok n => pure (some (Int64.ofInt n))
    | .error fault => do
      note (.invalidQuantity field t fault.reason)
      pure none

def resourceGroup (group : String) (hints : ResourceHints) : StateM Notes (Option Resources) := do
  let memory ← hint (group ++ ".memory") hints.memory Memory.parse
  let cpu ← hint (group ++ ".cpu") hints.cpu Cpu.parse
  pure (if memory.isSome || cpu.isSome then some ⟨cpu, memory⟩ else none)

def optionalGroup (group : String) (hints : Option ResourceHints) :
    StateM Notes (Option Resources) :=
  match hints with
  | none => pure none
  | some h => resourceGroup group h

def resources (limits requests : Option ResourceHints) :
    StateM Notes (Option ResourceRequirements) :=
  if limits.isNone && requests.isNone then pure none
  else do
    let limits ← optionalGroup "limits" limits
    let reservations ← optionalGroup "requests" requests
    pure (some ⟨limits, reservations⟩)

end SwarmDeploy.Compile
