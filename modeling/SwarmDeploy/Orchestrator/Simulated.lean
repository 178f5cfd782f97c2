import SwarmDeploy.Orchestrator.Plan

/-! An orchestrator in memory, which answers as it was set up and records what it is asked. -/

namespace SwarmDeploy.Orchestrator
open Service

/-- What a simulated orchestrator has and how it fails. -/
structure Setup where
  networks : List NetworkSummary := []
  secrets : List SecretSummary := []
  warnings : List String := []
  failNetworks : Bool := false
  failCreate : Bool := false
  deriving Repr

def Setup.ofNames (networks secrets warnings : List String) (failNetworks failCreate : Bool) :
    Setup where
  networks := networks.map fun n => ⟨"net-" ++ n, n⟩
  secrets := secrets.map fun n => ⟨"id-" ++ n, n⟩
  warnings
  failNetworks
  failCreate

structure Record where
  created : List (ServiceSpec × CreateOptions) := []
  queries : List String := []

def Setup.matching (setup : Setup) (names : List String) : List SecretSummary :=
  setup.secrets.filter fun s => names.contains s.name

def Setup.creation (setup : Setup) (spec : ServiceSpec) : Reply Created :=
  if setup.failCreate then .error (.api 409 ("service " ++ spec.name ++ " already exists"))
  else .ok ⟨"svc-" ++ spec.name, if setup.warnings.isEmpty then none else some setup.warnings⟩

def simulated (setup : Setup) : Orchestrator Record where
  findSecrets names s := ⟨.ok (setup.matching names), [], s⟩
  findNetworks label s :=
    ⟨if setup.failNetworks then .error (.http "connection refused") else .ok setup.networks, [],
      { s with queries := s.queries ++ [label] }⟩
  create spec options s :=
    ⟨setup.creation spec, [],
      if setup.failCreate then s else { s with created := s.created ++ [(spec, options)] }⟩

end SwarmDeploy.Orchestrator
