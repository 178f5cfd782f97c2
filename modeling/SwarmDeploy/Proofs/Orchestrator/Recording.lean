import SwarmDeploy.Orchestrator.Simulated
import SwarmDeploy.Proofs.Orchestrator.Exchange

/-! Runs over a simulated orchestrator.
Its replies do not depend on what it has recorded, so a run adds to every record what it adds to
the empty one. A service is recorded just if its creation is accepted, and the options of a
creation change nothing but their own entry. -/

namespace SwarmDeploy.Orchestrator
open Service

variable {α : Type} {setup : Setup}

def Record.append (s t : Record) : Record :=
  ⟨s.created ++ t.created, s.queries ++ t.queries⟩

theorem Record.append_empty (s : Record) : s.append {} = s := by
  simp only [append, List.append_nil]

theorem findNetworks_append (label : String) (s t : Record) :
    (simulated setup).findNetworks label (s.append t) =
      { (simulated setup).findNetworks label t with
        state := s.append ((simulated setup).findNetworks label t).state } := by
  simp only [simulated, Record.append, List.append_assoc]

def Record.afterCreation (s : Record) (spec : ServiceSpec) (options : CreateOptions) :
    Reply Created → Record
  | .error _ => s
  | .ok _ => { s with created := s.created ++ [(spec, options)] }

theorem create_simulated (spec : ServiceSpec) (options : CreateOptions) (s : Record) :
    (simulated setup).create spec options s =
      ⟨setup.creation spec, [], s.afterCreation spec options (setup.creation spec)⟩ := by
  unfold simulated Setup.creation
  cases setup.failCreate <;> rfl

theorem Record.afterCreation_append (spec : ServiceSpec) (options : CreateOptions) (s t : Record)
    (reply : Reply Created) :
    (s.append t).afterCreation spec options reply =
      s.append (t.afterCreation spec options reply) := by
  cases reply with
  | error failure => rfl
  | ok created => simp only [afterCreation, append, List.append_assoc]

theorem Plan.run_append (p : Plan α) (s t : Record) :
    p.run (simulated setup) (s.append t) =
      { p.run (simulated setup) t with state := s.append (p.run (simulated setup) t).state } := by
  induction p generalizing t with
  | done result => rfl
  | log event rest ih =>
    rw [run, ih]
    rfl
  | findSecrets names next ih =>
    rw [run]
    exact congrArg (Run.after (.findSecrets names) []) (ih _ t)
  | findNetworks label next ih =>
    rw [run, findNetworks_append]
    exact congrArg (Run.after (.findNetworks label) []) (ih _ _)
  | create spec options next ih =>
    simp only [run, create_simulated, Record.afterCreation_append]
    exact congrArg (Run.after (.create spec options) []) (ih _ _)

/-- A run adds to every record what it adds to the empty one. -/
theorem Plan.run_simulated (p : Plan α) (s : Record) :
    p.run (simulated setup) s =
      { p.run (simulated setup) {} with state := s.append (p.run (simulated setup) {}).state } := by
  rw [← p.run_append, s.append_empty]

def Exchange.creation : Exchange → Option (ServiceSpec × CreateOptions)
  | .create spec options (.ok _) => some (spec, options)
  | _ => none

theorem Plan.created_run (p : Plan α) (s : Record) :
    (p.run (simulated setup) s).state.created =
      s.created ++ (p.exchanges (simulated setup) s).filterMap Exchange.creation := by
  induction p generalizing s with
  | done result => exact (List.append_nil _).symm
  | log event rest ih => exact ih s
  | findSecrets names next ih => exact ih _ s
  | findNetworks label next ih => exact ih _ _
  | create spec options next ih =>
    simp only [run, exchanges, Run.after, create_simulated, ih]
    cases setup.creation spec with
    | error failure => rfl
    | ok created => exact List.append_assoc _ _ _

/-- Plans that differ at most in the options that they hand over. -/
inductive Plan.Alike : Plan α → Plan α → Prop
  | done (result : α) : Alike (.done result) (.done result)
  | log (event : Event) {rest rest' : Plan α} :
    Alike rest rest' → Alike (.log event rest) (.log event rest')
  | findSecrets (names : List String) {next next' : Reply (List SecretSummary) → Plan α} :
    (∀ reply, Alike (next reply) (next' reply)) →
      Alike (.findSecrets names next) (.findSecrets names next')
  | findNetworks (label : String) {next next' : Reply (List NetworkSummary) → Plan α} :
    (∀ reply, Alike (next reply) (next' reply)) →
      Alike (.findNetworks label next) (.findNetworks label next')
  | create (spec : ServiceSpec) (options options' : CreateOptions)
    {next next' : Reply Created → Plan α} :
    (∀ reply, Alike (next reply) (next' reply)) →
      Alike (.create spec options next) (.create spec options' next')

theorem Plan.alike_refl (p : Plan α) : p.Alike p := by
  induction p with
  | done result => exact .done result
  | log event rest ih => exact .log event ih
  | findSecrets names next ih => exact .findSecrets names ih
  | findNetworks label next ih => exact .findNetworks label ih
  | create spec options next ih => exact .create spec options options ih

theorem Plan.alike_logAll {p q : Plan α} (events : List Event) (alike : p.Alike q) :
    (Plan.logAll events p).Alike (Plan.logAll events q) := by
  induction events with
  | nil => exact alike
  | cons event events ih => exact .log event ih

def Record.specs (s : Record) : List ServiceSpec :=
  s.created.map (·.1)

structure SameView (a b : Run Record α) : Prop where
  result : a.result = b.result
  log : a.log = b.log
  specs : a.state.specs = b.state.specs
  queries : a.state.queries = b.state.queries

theorem SameView.after {a b : Run Record α} (same : SameView a b) (call call' : Call)
    (log : List Event) : SameView (a.after call log) (b.after call' log) where
  result := same.result
  log := congrArg (log ++ ·) same.log
  specs := same.specs
  queries := same.queries

theorem Plan.Alike.sameView {p q : Plan α} (alike : p.Alike q) {s t : Record}
    (specs : s.specs = t.specs) (queries : s.queries = t.queries) :
    SameView (p.run (simulated setup) s) (q.run (simulated setup) t) := by
  induction alike generalizing s t with
  | done result => exact ⟨rfl, rfl, specs, queries⟩
  | log event alike ih =>
    have same := ih specs queries
    exact ⟨same.result, congrArg (event :: ·) same.log, same.specs, same.queries⟩
  | findSecrets names alike ih => exact (ih _ specs queries).after _ _ []
  | findNetworks label alike ih =>
    refine (ih _ ?_ ?_).after _ _ []
    · exact specs
    · exact congrArg (· ++ [label]) queries
  | create spec options options' alike ih =>
    simp only [run, create_simulated]
    refine (ih _ ?_ ?_).after _ _ []
    · cases setup.creation spec with
      | error failure => exact specs
      | ok created =>
        simp only [Record.specs, Record.afterCreation, List.map_append, List.map_cons, List.map_nil]
        exact congrArg (· ++ [spec]) specs
    · cases setup.creation spec <;> exact queries

end SwarmDeploy.Orchestrator
