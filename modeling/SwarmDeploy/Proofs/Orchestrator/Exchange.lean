import Mathlib.Tactic.Common
import SwarmDeploy.Orchestrator.Plan

/-! Calls with the replies they get.
A run keeps account of its calls only; here the replies stand beside them. What a plan can go
through is a relation over all replies, and a run over an orchestrator is one case of it. -/

namespace SwarmDeploy.Orchestrator
open Service

variable {σ α : Type}

inductive Exchange where
  | findSecrets (names : List String) (reply : Reply (List SecretSummary))
  | findNetworks (label : String) (reply : Reply (List NetworkSummary))
  | create (spec : ServiceSpec) (options : CreateOptions) (reply : Reply Created)

def Exchange.call : Exchange → Call
  | .findSecrets names _ => .findSecrets names
  | .findNetworks label _ => .findNetworks label
  | .create spec options _ => .create spec options

def Plan.exchanges (o : Orchestrator σ) : Plan α → σ → List Exchange
  | .done _, _ => []
  | .log _ rest, s => rest.exchanges o s
  | .findSecrets names next, s =>
    let a := o.findSecrets names s
    .findSecrets names a.reply :: (next a.reply).exchanges o a.state
  | .findNetworks label next, s =>
    let a := o.findNetworks label s
    .findNetworks label a.reply :: (next a.reply).exchanges o a.state
  | .create spec options next, s =>
    let a := o.create spec options s
    .create spec options a.reply :: (next a.reply).exchanges o a.state

theorem Plan.run_calls (o : Orchestrator σ) (p : Plan α) (s : σ) :
    (p.run o s).calls = (p.exchanges o s).map Exchange.call := by
  induction p generalizing s with
  | done result => rfl
  | log event rest ih => exact ih s
  | findSecrets names next ih =>
    simp only [run, exchanges, Run.after, List.map_cons, Exchange.call, ih]
  | findNetworks label next ih =>
    simp only [run, exchanges, Run.after, List.map_cons, Exchange.call, ih]
  | create spec options next ih =>
    simp only [run, exchanges, Run.after, List.map_cons, Exchange.call, ih]

/-- A plan can go through these exchanges and end with this result. -/
inductive Plan.Yields : Plan α → List Exchange → α → Prop
  | done {result : α} : Yields (.done result) [] result
  | log {event : Event} {rest : Plan α} {trace : List Exchange} {result : α} :
    Yields rest trace result → Yields (.log event rest) trace result
  | findSecrets {names : List String} {next : Reply (List SecretSummary) → Plan α}
    {reply : Reply (List SecretSummary)} {trace : List Exchange} {result : α} :
    Yields (next reply) trace result →
      Yields (.findSecrets names next) (.findSecrets names reply :: trace) result
  | findNetworks {label : String} {next : Reply (List NetworkSummary) → Plan α}
    {reply : Reply (List NetworkSummary)} {trace : List Exchange} {result : α} :
    Yields (next reply) trace result →
      Yields (.findNetworks label next) (.findNetworks label reply :: trace) result
  | create {spec : ServiceSpec} {options : CreateOptions} {next : Reply Created → Plan α}
    {reply : Reply Created} {trace : List Exchange} {result : α} :
    Yields (next reply) trace result →
      Yields (.create spec options next) (.create spec options reply :: trace) result

theorem Plan.yields_exchanges (o : Orchestrator σ) (p : Plan α) (s : σ) :
    p.Yields (p.exchanges o s) (p.run o s).result := by
  induction p generalizing s with
  | done result => exact .done
  | log event rest ih => exact .log (ih s)
  | findSecrets names next ih => exact .findSecrets (ih _ _)
  | findNetworks label next ih => exact .findNetworks (ih _ _)
  | create spec options next ih => exact .create (ih _ _)

theorem Plan.yields_logAll {events : List Event} {rest : Plan α} {trace : List Exchange}
    {result : α} : (Plan.logAll events rest).Yields trace result ↔ rest.Yields trace result := by
  induction events with
  | nil => exact Iff.rfl
  | cons event events ih =>
    refine Iff.trans ⟨fun yields => ?_, .log⟩ ih
    cases yields with
    | log yields => exact yields

end SwarmDeploy.Orchestrator
