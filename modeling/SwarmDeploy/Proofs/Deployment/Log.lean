import SwarmDeploy.Deployment
import SwarmDeploy.Proofs.Compile.Findings
import SwarmDeploy.Proofs.Orchestrator.Telling

/-! The log of a deployment.
A deployment that succeeds logs its diagnostics in their order, then the warnings of the
orchestrator and then one line about the service. -/

namespace SwarmDeploy.Deployment
open Orchestrator Compile Service

variable {settings : DeploySettings} {r : Request} {log : List Event}

section
variable {α : Type} {result : α}

theorem tells_withSecrets {next : Except SecretsFault (List SecretReference) → Plan α}
    (told : (withSecrets settings r next).Tells log result) :
    ∃ bound, (next bound).Tells log result := by
  unfold withSecrets at told
  split at told
  · exact ⟨_, told⟩
  · cases told with
    | findSecrets reply told =>
      cases reply with
      | error failure => exact ⟨_, told⟩
      | ok found => exact ⟨_, told⟩

inductive LookupFindings : List Diagnostic → Prop
  | nothing : LookupFindings []
  | failed (reason : String) : LookupFindings [.networkLookupFailed reason]

theorem tells_withNetwork {next : Option String → Notes → Plan α}
    (told : (withNetwork settings r next).Tells log result) :
    ∃ network lookup later, LookupFindings lookup ∧ log = lookup.map Diagnostic.event ++ later ∧
      (next network (({} : Notes).record lookup)).Tells later result := by
  unfold withNetwork at told
  split at told
  · exact ⟨_, [], log, .nothing, rfl, told⟩
  · cases told with
    | findNetworks reply told =>
      cases reply with
      | ok networks => exact ⟨_, [], log, .nothing, rfl, told⟩
      | error failure =>
        obtain ⟨later, eq, told⟩ := Plan.tells_logAll.1 told
        exact ⟨_, _, later, .failed failure.message, eq, told⟩

end

theorem tells_submit {compiled : Compiled} {options : CreateOptions} {lookup : Notes}
    {outcome : Outcome} (told : (submit compiled options lookup).Tells log (.ok outcome)) :
    ∃ created : Created, log = creationLog compiled.spec.name created outcome.warnings ∧
      outcome.serviceId = created.id ∧
      outcome.diagnostics = lookup.diagnostics ++ compiled.notes.diagnostics := by
  unfold submit at told
  cases told with
  | create reply told =>
    cases reply with
    | error failure => cases told
    | ok created =>
      obtain ⟨later, rfl, ended⟩ := Plan.tells_logAll.1 told
      obtain ⟨rfl, same⟩ := Plan.tells_done.1 ended
      cases same
      exact ⟨created, List.append_nil _, rfl, rfl⟩

theorem tells_plan {outcome : Outcome} (told : (plan settings r).Tells log (.ok outcome)) :
    ∃ lookup, LookupFindings lookup ∧ outcome.diagnostics = lookup ++ findings settings r ∧
      ∃ created : Created, outcome.serviceId = created.id ∧
        log = outcome.diagnostics.map Diagnostic.event ++
          creationLog r.service created outcome.warnings := by
  unfold plan at told
  split at told
  · cases (Plan.tells_done.1 told).2
  · rename_i auth authenticated
    obtain ⟨bound, bind⟩ := tells_withSecrets told
    cases bound with
    | error fault => cases (Plan.tells_done.1 bind).2
    | ok secrets =>
      obtain ⟨network, lookup, later, found, rfl, compiling⟩ := tells_withNetwork bind
      split at compiling
      · cases (Plan.tells_done.1 compiling).2
      · rename_i compiled compiles
        obtain ⟨labels, merged, rfl⟩ := compile_eq_ok_iff.1 compiles
        obtain ⟨last, rfl, submitting⟩ := Plan.tells_logAll.1 compiling
        obtain ⟨created, rfl, id, diagnostics⟩ := tells_submit submitting
        refine ⟨lookup, found, diagnostics, created, id, ?_⟩
        change outcome.diagnostics = lookup ++ findings settings r at diagnostics
        rw [diagnostics, List.map_append, List.append_assoc]
        rfl

/-- How the message of a diagnostic begins; what follows is not fixed. -/
def opening : Diagnostic → String
  | .invalidQuantity field _ _ => "error parsing " ++ field ++ " '"
  | .networkLookupFailed _ => "error querying networks: "
  | .invalidScaleLabel _ _ => "invalid scale label '"

theorem toList_begins (s t : String) : s.toList <+: (s ++ t).toList := by
  rw [String.toList_append]
  exact List.prefix_append _ _

theorem message_begins (d : Diagnostic) : (opening d).toList <+: d.message.toList := by
  have quoted (s value mark reason : String) :
      s.toList <+: (s ++ value ++ mark ++ reason).toList :=
    ((toList_begins s value).trans (toList_begins _ mark)).trans (toList_begins _ reason)
  cases d with
  | invalidQuantity field value reason => exact quoted _ value "': " reason
  | networkLookupFailed reason => exact toList_begins _ reason
  | invalidScaleLabel value reason => exact quoted _ value "': " reason

def openings : List String :=
  ["error querying networks: "] ++
    HintPlace.all.map (fun p => "error parsing " ++ p.field ++ " '") ++ ["invalid scale label '"]

theorem openings_apart :
    openings.Pairwise fun a b => ¬a.toList <+: b.toList ∧ ¬b.toList <+: a.toList := by
  decide +kernel

theorem map_opening_hints {limits requests : Option ResourceHints} (places : List HintPlace) :
    ((places.flatMap (HintPlace.findings limits requests)).map opening).Sublist
      (places.map fun p => "error parsing " ++ p.field ++ " '") := by
  induction places with
  | nil => exact List.Sublist.refl _
  | cons p places ih =>
    rw [List.flatMap_cons, List.map_append, List.map_cons]
    unfold HintPlace.findings
    cases p.fate limits requests with
    | absent => exact ih.cons _
    | read n => exact ih.cons _
    | unreadable text fault => exact ih.cons_cons _

theorem map_opening_scale (text : Option String) :
    ((scaleFindings text).map opening).Sublist ["invalid scale label '"] := by
  unfold scaleFindings
  split
  · exact List.nil_sublist _
  · split
    · exact List.nil_sublist _
    · exact List.Sublist.refl _

theorem map_opening_sublist (settings : DeploySettings) (r : Request) {lookup : List Diagnostic}
    (found : LookupFindings lookup) :
    ((lookup ++ findings settings r).map opening).Sublist openings := by
  have network : (lookup.map opening).Sublist ["error querying networks: "] := by
    cases found with
    | nothing => exact List.nil_sublist _
    | failed reason => exact List.Sublist.refl _
  rw [findings, hintFindings, openings, List.append_assoc, List.map_append, List.map_append]
  exact network.append ((map_opening_hints _).append (map_opening_scale _))

theorem nodup_messages {lookup : List Diagnostic} (found : LookupFindings lookup) :
    ((lookup ++ findings settings r).map Diagnostic.message).Nodup := by
  have apart := openings_apart.sublist (map_opening_sublist settings r found)
  rw [List.pairwise_map] at apart
  refine List.pairwise_map.2 (apart.imp fun {d e} differ same => ?_)
  have own := message_begins d
  rw [same] at own
  obtain before | after := List.prefix_or_prefix_of_prefix own (message_begins e)
  · exact differ.1 before
  · exact differ.2 after

/-- A compilation logs just its diagnostics. A deployment over a simulated orchestrator that
succeeds logs its diagnostics, the warnings that it returns and its service, in this order; and
no two of its diagnostics read alike. -/
theorem log_agrees_with_diagnostics :
    (∀ settings r secrets network compiled, compile settings r secrets network = .ok compiled →
      compiled.notes.log =
        compiled.notes.diagnostics.map fun d => ⟨.warn, .diagnostics, d.message⟩) ∧
    ∀ settings r setup s outcome,
      ((plan settings r).run (simulated setup) s).result = .ok outcome →
      ((plan settings r).run (simulated setup) s).log =
        outcome.diagnostics.map (fun d => ⟨.warn, .diagnostics, d.message⟩) ++
        outcome.warnings.map (fun w =>
          ⟨.warn, .deployment, "Service " ++ r.service ++ " created with warning: " ++ w⟩) ++
        [⟨.info, .deployment, "Deployed service " ++ r.service ++ " (" ++ outcome.serviceId ++
          ")"⟩] ∧
      (outcome.diagnostics.map Diagnostic.message).Nodup := by
  constructor
  · intro settings r secrets network compiled compiles
    obtain ⟨labels, merged, rfl⟩ := compile_eq_ok_iff.1 compiles
    rfl
  · intro settings r setup s outcome succeeded
    have told := Plan.tells_run (quiet_simulated setup) (plan settings r) s
    rw [succeeded] at told
    obtain ⟨lookup, found, diagnostics, created, id, log⟩ := tells_plan told
    constructor
    · rw [log, id, List.append_assoc]
      rfl
    · rw [diagnostics]
      exact nodup_messages found

def troubled : Request :=
  { Request.plain "fn" "alpine" with
    labels := some ⟨[("com.openfaas.scale.min", "few")], by decide⟩
    limits := some ⟨none, some "half"⟩ }

theorem troubled_log :
    (∃ compiled, compile {} troubled [] none = .ok compiled ∧ compiled.notes.log =
      [⟨.warn, .diagnostics, "error parsing limits.cpu 'half': invalid digit found in string"⟩,
        ⟨.warn, .diagnostics, "invalid scale label 'few': invalid digit found in string"⟩]) ∧
    ((plan {} troubled).run (simulated { warnings := ["slow"], failNetworks := true }) {}).log =
      [⟨.warn, .diagnostics, "error querying networks: HTTP error: connection refused"⟩,
        ⟨.warn, .diagnostics, "error parsing limits.cpu 'half': invalid digit found in string"⟩,
        ⟨.warn, .diagnostics, "invalid scale label 'few': invalid digit found in string"⟩,
        ⟨.warn, .deployment, "Service fn created with warning: slow"⟩,
        ⟨.info, .deployment, "Deployed service fn (svc-fn)"⟩] := by
  have succeeded : ((plan {} troubled).run
      (simulated { warnings := ["slow"], failNetworks := true }) {}).result =
        .ok ⟨"svc-fn", ["slow"],
          [.networkLookupFailed "HTTP error: connection refused",
            .invalidQuantity "limits.cpu" "half" "invalid digit found in string",
            .invalidScaleLabel "few" "invalid digit found in string"]⟩ := by
    decide +kernel
  have merged : labels "fn" troubled.labels none {} = .ok ⟨[("com.openfaas.function", "fn"),
      ("com.openfaas.scale.min", "few"), ("function", "true")], by decide⟩ := by
    decide +kernel
  have compiles : ∃ compiled, compile {} troubled [] none = .ok compiled ∧
      compiled.notes.diagnostics =
        [.invalidQuantity "limits.cpu" "half" "invalid digit found in string",
          .invalidScaleLabel "few" "invalid digit found in string"] :=
    ⟨_, compile_eq_ok_iff.2 ⟨_, merged, rfl⟩, by decide +kernel⟩
  obtain ⟨compiled, compiles, found⟩ := compiles
  refine ⟨⟨compiled, compiles, ?_⟩, ?_⟩
  · rw [log_agrees_with_diagnostics.1 _ _ _ _ _ compiles, found]
    decide +kernel
  · exact (log_agrees_with_diagnostics.2 _ _ _ _ _ succeeded).1.trans (by decide +kernel)

end SwarmDeploy.Deployment
