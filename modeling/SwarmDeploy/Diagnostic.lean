import SwarmDeploy.Json.Value
import SwarmDeploy.Log

/-! Diagnostics: problems that a deployment absorbs.
Each one is logged as a warning when it is recorded, and only then. -/

namespace SwarmDeploy
open Json (Value)

inductive Diagnostic where
  | invalidQuantity (field value reason : String)
  | networkLookupFailed (reason : String)
  | invalidScaleLabel (value reason : String)
  deriving DecidableEq, Repr

namespace Diagnostic

def message : Diagnostic → String
  | .invalidQuantity field value reason =>
    "error parsing " ++ field ++ " '" ++ value ++ "': " ++ reason
  | .networkLookupFailed reason => "error querying networks: " ++ reason
  | .invalidScaleLabel value reason => "invalid scale label '" ++ value ++ "': " ++ reason

def event (d : Diagnostic) : Event :=
  ⟨.warn, .diagnostics, d.message⟩

def toJson : Diagnostic → Value
  | .invalidQuantity field value reason =>
    .object [("kind", .text "invalid-quantity"), ("field", .text field), ("value", .text value),
      ("reason", .text reason)]
  | .networkLookupFailed reason =>
    .object [("kind", .text "network-lookup-failed"), ("reason", .text reason)]
  | .invalidScaleLabel value reason =>
    .object [("kind", .text "invalid-scale-label"), ("value", .text value),
      ("reason", .text reason)]

end Diagnostic

structure Notes where
  diagnostics : List Diagnostic := []
  log : List Event := []
  deriving DecidableEq, Repr

namespace Notes

def push (n : Notes) (d : Diagnostic) : Notes :=
  ⟨n.diagnostics ++ [d], n.log ++ [d.event]⟩

/-- Takes over diagnostics that have been logged already. -/
def extend (n : Notes) (more : List Diagnostic) : Notes :=
  { n with diagnostics := n.diagnostics ++ more }

end Notes

def note (d : Diagnostic) : StateM Notes Unit :=
  modify fun n => n.push d

end SwarmDeploy
