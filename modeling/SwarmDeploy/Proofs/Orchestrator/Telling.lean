import SwarmDeploy.Orchestrator.Simulated

/-! What plans tell.
A plan has events of its own to log, whichever replies it gets. The log of a run holds also what
the orchestrator logs; over a quiet one it is what the plan tells. -/

namespace SwarmDeploy.Orchestrator

variable {σ α : Type} {log : List Event} {result : α}

/-- A plan can log these events and end with this result. -/
inductive Plan.Tells : Plan α → List Event → α → Prop
  | done {result : α} : Tells (.done result) [] result
  | log {event : Event} {rest : Plan α} {log : List Event} {result : α} :
    Tells rest log result → Tells (.log event rest) (event :: log) result
  | findSecrets {names : List String} {next : Reply (List SecretSummary) → Plan α}
    (reply : Reply (List SecretSummary)) {log : List Event} {result : α} :
    Tells (next reply) log result → Tells (.findSecrets names next) log result
  | findNetworks {label : String} {next : Reply (List NetworkSummary) → Plan α}
    (reply : Reply (List NetworkSummary)) {log : List Event} {result : α} :
    Tells (next reply) log result → Tells (.findNetworks label next) log result
  | create {spec : Service.ServiceSpec} {options : CreateOptions} {next : Reply Created → Plan α}
    (reply : Reply Created) {log : List Event} {result : α} :
    Tells (next reply) log result → Tells (.create spec options next) log result

theorem Plan.tells_done {ended : α} :
    (Plan.done ended).Tells log result ↔ log = [] ∧ result = ended := by
  constructor
  · rintro ⟨⟩
    exact ⟨rfl, rfl⟩
  · rintro ⟨rfl, rfl⟩
    exact .done

theorem Plan.tells_logAll {events : List Event} {rest : Plan α} :
    (Plan.logAll events rest).Tells log result ↔
      ∃ later, log = events ++ later ∧ rest.Tells later result := by
  induction events generalizing log with
  | nil => exact ⟨fun told => ⟨log, rfl, told⟩, fun ⟨later, eq, told⟩ => eq ▸ told⟩
  | cons event events ih =>
    constructor
    · intro told
      cases told with
      | log rests =>
        obtain ⟨later, rfl, told⟩ := ih.1 rests
        exact ⟨later, rfl, told⟩
    · rintro ⟨later, rfl, told⟩
      exact .log (ih.2 ⟨later, rfl, told⟩)

structure Quiet (o : Orchestrator σ) : Prop where
  findSecrets : ∀ names s, (o.findSecrets names s).log = []
  findNetworks : ∀ label s, (o.findNetworks label s).log = []
  create : ∀ spec options s, (o.create spec options s).log = []

theorem quiet_simulated (setup : Setup) : Quiet (simulated setup) where
  findSecrets _ _ := rfl
  findNetworks _ _ := rfl
  create _ _ _ := rfl

theorem Plan.tells_run {o : Orchestrator σ} (quiet : Quiet o) (p : Plan α) (s : σ) :
    p.Tells (p.run o s).log (p.run o s).result := by
  induction p generalizing s with
  | done result => exact .done
  | log event rest ih => exact .log (ih s)
  | findSecrets names next ih =>
    simp only [run, Run.after, quiet.findSecrets, List.nil_append]
    exact .findSecrets _ (ih _ _)
  | findNetworks label next ih =>
    simp only [run, Run.after, quiet.findNetworks, List.nil_append]
    exact .findNetworks _ (ih _ _)
  | create spec options next ih =>
    simp only [run, Run.after, quiet.create, List.nil_append]
    exact .create _ (ih _ _)

end SwarmDeploy.Orchestrator
