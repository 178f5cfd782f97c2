import SwarmDeploy.Log
import SwarmDeploy.Orchestrator.Listing
import SwarmDeploy.Service.Spec

/-! Plans: work that calls an orchestrator, and running it over one.
A plan says what is called and logged and how the work goes on for every reply; a run adds the
replies of one orchestrator and keeps account of the calls. -/

namespace SwarmDeploy.Orchestrator
open Service

inductive Call where
  | findSecrets (names : List String)
  | findNetworks (label : String)
  | create (spec : ServiceSpec) (options : CreateOptions)

abbrev Reply (α : Type) : Type := Except Failure α

/-- Work that may call an orchestrator and ends with a result. -/
inductive Plan (α : Type) where
  | done (result : α)
  | log (event : Event) (rest : Plan α)
  | findSecrets (names : List String) (next : Reply (List SecretSummary) → Plan α)
  | findNetworks (label : String) (next : Reply (List NetworkSummary) → Plan α)
  | create (spec : ServiceSpec) (options : CreateOptions) (next : Reply Created → Plan α)

def Plan.logAll {α : Type} (events : List Event) (rest : Plan α) : Plan α :=
  events.foldr .log rest

structure Answer (σ α : Type) where
  reply : Reply α
  log : List Event
  state : σ

end SwarmDeploy.Orchestrator

namespace SwarmDeploy
open Orchestrator Service

structure Orchestrator (σ : Type) where
  findSecrets : List String → σ → Answer σ (List SecretSummary)
  findNetworks : String → σ → Answer σ (List NetworkSummary)
  create : ServiceSpec → CreateOptions → σ → Answer σ Created

end SwarmDeploy

namespace SwarmDeploy.Orchestrator

structure Run (σ α : Type) where
  result : α
  calls : List Call
  log : List Event
  state : σ

def Run.after {σ α : Type} (call : Call) (log : List Event) (r : Run σ α) : Run σ α :=
  { r with calls := call :: r.calls, log := log ++ r.log }

def Plan.run {σ α : Type} (o : Orchestrator σ) : Plan α → σ → Run σ α
  | .done result, s => ⟨result, [], [], s⟩
  | .log event rest, s =>
    let r := rest.run o s
    { r with log := event :: r.log }
  | .findSecrets names next, s =>
    let a := o.findSecrets names s
    ((next a.reply).run o a.state).after (.findSecrets names) a.log
  | .findNetworks label next, s =>
    let a := o.findNetworks label s
    ((next a.reply).run o a.state).after (.findNetworks label) a.log
  | .create spec options next, s =>
    let a := o.create spec options s
    ((next a.reply).run o a.state).after (.create spec options) a.log

end SwarmDeploy.Orchestrator
