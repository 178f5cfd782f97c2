import SwarmDeploy.Proofs.Compile.Findings

/-! What becomes of resource hints.
Every hint is absent, read or unreadable, whatever the others are. An unreadable one leaves one
diagnostic behind, and a request without it compiles to the same spec. -/

namespace SwarmDeploy.Compile
open Service

variable {limits requests limits' requests' : Option ResourceHints} {settings : DeploySettings}
  {r : Request}

namespace Fate

variable {text : Option String} {parse : String → Except QuantityFault Int} {fate : Fate}

def Applies (text : Option String) (parse : String → Except QuantityFault Int) : Fate → Prop
  | absent => text = none ∨ text = some ""
  | read n => ∃ t, text = some t ∧ t ≠ "" ∧ parse t = .ok n
  | unreadable t fault => text = some t ∧ t ≠ "" ∧ parse t = .error fault

section
variable {t : String} (given : text = some t) (full : t ≠ "")
include given full

theorem nonEmpty_given : nonEmpty text = some t := by
  rw [given, nonEmpty, Option.filter_some, if_pos (decide_eq_true full)]

theorem of_eq_read {n : Int} (parsed : parse t = .ok n) : of text parse = read n := by
  simp only [of, nonEmpty_given given full, parsed]

theorem of_eq_unreadable {fault : QuantityFault} (parsed : parse t = .error fault) :
    of text parse = unreadable t fault := by
  simp only [of, nonEmpty_given given full, parsed]

end

theorem of_eq_of_applies (applies : fate.Applies text parse) : of text parse = fate := by
  cases fate with
  | absent =>
    obtain rfl | rfl := applies
    · rfl
    · rfl
  | read n =>
    obtain ⟨t, given, full, parsed⟩ := applies
    exact of_eq_read given full parsed
  | unreadable t fault =>
    obtain ⟨given, full, parsed⟩ := applies
    exact of_eq_unreadable given full parsed

theorem of_applies (text : Option String) (parse : String → Except QuantityFault Int) :
    (of text parse).Applies text parse := by
  cases text with
  | none => exact .inl rfl
  | some t =>
    by_cases full : t = ""
    · rw [full]
      exact .inr rfl
    · cases parsed : parse t with
      | ok n =>
        rw [of_eq_read rfl full parsed]
        exact ⟨t, rfl, full, parsed⟩
      | error fault =>
        rw [of_eq_unreadable rfl full parsed]
        exact ⟨rfl, full, parsed⟩

theorem exists_parse {n : Int} (kept : (of text parse).value = some n) :
    ∃ t, parse t = .ok n := by
  have applies := of_applies text parse
  cases fate : of text parse with
  | read m =>
    rw [fate] at kept applies
    cases kept
    obtain ⟨t, -, -, parsed⟩ := applies
    exact ⟨t, parsed⟩
  | absent =>
    rw [fate] at kept
    cases kept
  | unreadable t fault =>
    rw [fate] at kept
    cases kept

end Fate

namespace HintPlace

theorem mem_all (p : HintPlace) : p ∈ all := by
  cases p <;> decide

theorem nodup_all : all.Nodup := by
  decide

theorem parse_within {p : HintPlace} {t : String} {n : Int} (parsed : p.parse t = .ok n) :
    -0x8000000000000000 ≤ n ∧ n ≤ 0x7FFFFFFFFFFFFFFF := by
  have memory (parsed : Memory.parse t = .ok n) :
      -0x8000000000000000 ≤ n ∧ n ≤ 0x7FFFFFFFFFFFFFFF := by
    have within := Memory.parse_within parsed
    omega
  cases p with
  | limitsMemory => exact memory parsed
  | limitsCpu => exact Cpu.parse_within parsed
  | requestsMemory => exact memory parsed
  | requestsCpu => exact Cpu.parse_within parsed

theorem toInt_value (p : HintPlace) (limits requests : Option ResourceHints) :
    ((p.fate limits requests).value.map Int64.ofInt).map Int64.toInt =
      (p.fate limits requests).value := by
  cases kept : (p.fate limits requests).value with
  | none => rfl
  | some n =>
    obtain ⟨t, parsed⟩ := Fate.exists_parse kept
    have within := parse_within parsed
    simp only [Option.map_some, Option.some.injEq]
    exact Int64.toInt_ofInt_of_le within.1 (by omega)

end HintPlace

structure Holds (group : Option Resources) (memory cpu : Fate) : Prop where
  appears : group ≠ none ↔ memory.value ≠ none ∨ cpu.value ≠ none
  memoryBytes : ∀ g, group = some g → g.memoryBytes.map Int64.toInt = memory.value
  nanoCpus : ∀ g, group = some g → g.nanoCpus.map Int64.toInt = cpu.value

theorem groupOf_ne_none_iff {memory cpu : Fate} :
    groupOf memory cpu ≠ none ↔ memory.value ≠ none ∨ cpu.value ≠ none := by
  unfold groupOf
  cases memory.value <;> cases cpu.value <;> simp

theorem eq_of_groupOf_eq_some {memory cpu : Fate} {g : Resources}
    (group : groupOf memory cpu = some g) :
    g = ⟨cpu.value.map Int64.ofInt, memory.value.map Int64.ofInt⟩ := by
  unfold groupOf at group
  split at group
  · cases group
    rfl
  · cases group

theorem groupOf_holds (m c : HintPlace) (limits requests : Option ResourceHints) :
    Holds (groupOf (m.fate limits requests) (c.fate limits requests)) (m.fate limits requests)
      (c.fate limits requests) where
  appears := groupOf_ne_none_iff
  memoryBytes g group := by
    rw [eq_of_groupOf_eq_some group]
    exact m.toInt_value limits requests
  nanoCpus g group := by
    rw [eq_of_groupOf_eq_some group]
    exact c.toInt_value limits requests

theorem requirements_eq_none_iff :
    requirements limits requests = none ↔ limits = none ∧ requests = none := by
  unfold requirements
  split
  · rename_i neither
    exact iff_of_true rfl neither
  · rename_i given
    exact iff_of_false (fun absurd => by cases absurd) given

structure Accounted (limits requests : Option ResourceHints) (fate : HintPlace → Fate)
    (before : Notes) (result : Option ResourceRequirements × Notes) : Prop where
  applies : ∀ p, (fate p).Applies (p.text limits requests) p.parse
  only : ∀ p other, other.Applies (p.text limits requests) p.parse → other = fate p
  absent : result.1 = none ↔ limits = none ∧ requests = none
  limits : ∀ built, result.1 = some built →
    Holds built.limits (fate .limitsMemory) (fate .limitsCpu)
  reservations : ∀ built, result.1 = some built →
    Holds built.reservations (fate .requestsMemory) (fate .requestsCpu)
  diagnostics : result.2.diagnostics =
    before.diagnostics ++ HintPlace.all.flatMap fun p => (fate p).findings p.field

theorem resources_accounted (limits requests : Option ResourceHints) (before : Notes) :
    Accounted limits requests (fun p => p.fate limits requests) before
      ((resources limits requests).run before) := by
  have run := records_resources limits requests before
  have built {q : ResourceRequirements} (given : requirements limits requests = some q) :
      q = ⟨groupOf (HintPlace.limitsMemory.fate limits requests)
          (HintPlace.limitsCpu.fate limits requests),
        groupOf (HintPlace.requestsMemory.fate limits requests)
          (HintPlace.requestsCpu.fate limits requests)⟩ := by
    unfold requirements at given
    split at given
    · cases given
    · cases given
      rfl
  rw [run]
  exact {
    applies := fun p => Fate.of_applies _ _
    only := fun p other applies => (Fate.of_eq_of_applies applies).symm
    absent := requirements_eq_none_iff
    limits := fun q given => by
      rw [built given]
      exact groupOf_holds _ _ limits requests
    reservations := fun q given => by
      rw [built given]
      exact groupOf_holds _ _ limits requests
    diagnostics := rfl }

namespace HintPlace

def put (text : Option String) (r : Request) : HintPlace → Request
  | limitsMemory => { r with limits := r.limits.map fun h => { h with memory := text } }
  | limitsCpu => { r with limits := r.limits.map fun h => { h with cpu := text } }
  | requestsMemory => { r with requests := r.requests.map fun h => { h with memory := text } }
  | requestsCpu => { r with requests := r.requests.map fun h => { h with cpu := text } }

variable {p q : HintPlace} {blank : Option String}

theorem text_put_of_ne (other : q ≠ p) : q.text (p.put blank r).limits (p.put blank r).requests =
    q.text r.limits r.requests := by
  cases p <;> cases q <;> first
    | exact absurd rfl other
    | rfl
    | (simp only [text, put, Option.bind_map]; rfl)

theorem text_put_self {t : String} (given : p.text r.limits r.requests = some t) :
    p.text (p.put blank r).limits (p.put blank r).requests = blank := by
  cases p <;>
    simp only [text, put, Option.bind_eq_some_iff] at given ⊢ <;>
    obtain ⟨h, group, -⟩ := given <;> rw [group] <;> rfl

theorem groups_put (p : HintPlace) (blank : Option String) (r : Request) :
    ((p.put blank r).limits = none ∧ (p.put blank r).requests = none) ↔
      (r.limits = none ∧ r.requests = none) := by
  cases p <;> simp only [put, Option.map_eq_none_iff]

end HintPlace

theorem requirements_congr
    (groups : (limits = none ∧ requests = none) ↔ (limits' = none ∧ requests' = none))
    (values : ∀ p : HintPlace,
      (p.fate limits requests).value = (p.fate limits' requests').value) :
    requirements limits requests = requirements limits' requests' := by
  unfold requirements groupOf
  simp only [groups, values]

section
variable {p : HintPlace} {t : String} {fault : QuantityFault} {blank : Option String}

theorem fate_put_self
    (bad : (Fate.unreadable t fault).Applies (p.text r.limits r.requests) p.parse)
    (gone : Fate.absent.Applies blank p.parse) :
    p.fate (p.put blank r).limits (p.put blank r).requests = .absent := by
  rw [HintPlace.fate, HintPlace.text_put_self bad.1]
  exact Fate.of_eq_of_applies gone

theorem requirements_put
    (bad : (Fate.unreadable t fault).Applies (p.text r.limits r.requests) p.parse)
    (gone : Fate.absent.Applies blank p.parse) :
    requirements (p.put blank r).limits (p.put blank r).requests =
      requirements r.limits r.requests := by
  refine requirements_congr (p.groups_put blank r) fun q => ?_
  by_cases here : q = p
  · subst here
    have fate : q.fate r.limits r.requests = .unreadable t fault := Fate.of_eq_of_applies bad
    rw [fate_put_self bad gone, fate]
    rfl
  · rw [HintPlace.fate, HintPlace.text_put_of_ne here, HintPlace.fate]

theorem hintFindings_put
    (bad : (Fate.unreadable t fault).Applies (p.text r.limits r.requests) p.parse)
    (gone : Fate.absent.Applies blank p.parse) :
    ∃ before after, hintFindings r.limits r.requests =
        before ++ .invalidQuantity p.field t fault.reason :: after ∧
      hintFindings (p.put blank r).limits (p.put blank r).requests = before ++ after := by
  obtain ⟨left, right, split⟩ := List.append_of_mem p.mem_all
  have distinct : (left ++ p :: right).Nodup := split ▸ HintPlace.nodup_all
  have elsewhere {places : List HintPlace} (apart : p ∉ places) :
      places.flatMap (HintPlace.findings (p.put blank r).limits (p.put blank r).requests) =
        places.flatMap (HintPlace.findings r.limits r.requests) := by
    refine List.flatMap_congr fun q mem => ?_
    have other : q ≠ p := fun same => apart (same ▸ mem)
    rw [HintPlace.findings, HintPlace.fate, HintPlace.text_put_of_ne other]
    rfl
  have fate : p.fate r.limits r.requests = .unreadable t fault := Fate.of_eq_of_applies bad
  have before : p ∉ left := fun mem =>
    (List.nodup_append.1 distinct).2.2 p mem p List.mem_cons_self rfl
  have after : p ∉ right := (List.nodup_cons.1 (List.nodup_append.1 distinct).2.1).1
  refine ⟨left.flatMap (HintPlace.findings r.limits r.requests),
    right.flatMap (HintPlace.findings r.limits r.requests), ?_, ?_⟩
  · rw [hintFindings, split, List.flatMap_append, List.flatMap_cons, HintPlace.findings, fate]
    rfl
  · rw [hintFindings, split, List.flatMap_append, List.flatMap_cons, elsewhere before,
      elsewhere after, HintPlace.findings, fate_put_self bad gone]
    rfl

end

theorem labels_put (p : HintPlace) (blank : Option String) (r : Request)
    (settings : DeploySettings) :
    labels (p.put blank r).service (p.put blank r).labels (p.put blank r).annotations settings =
      labels r.service r.labels r.annotations settings := by
  cases p <;> rfl

theorem specOf_put (settings : DeploySettings) {p : HintPlace} {blank : Option String}
    (same : requirements (p.put blank r).limits (p.put blank r).requests =
      requirements r.limits r.requests) (set : LabelSet) (secrets : List SecretReference)
    (network : Option String) :
    specOf settings (p.put blank r) set secrets network =
      specOf settings r set secrets network := by
  have others : specOf settings (p.put blank r) set secrets network =
      { specOf settings r set secrets network with
        task := { (specOf settings r set secrets network).task with
          resources := requirements (p.put blank r).limits (p.put blank r).requests } } := by
    cases p <;> rfl
  rw [others, same]
  rfl

theorem scaleText_put (p : HintPlace) (blank : Option String) (r : Request) :
    scaleText (p.put blank r).labels settings = scaleText r.labels settings := by
  cases p <;> rfl

/-- A request that compiles also does without one of its unreadable hints: to the same spec, and
without the diagnostic of that hint. -/
theorem compile_put {p : HintPlace} {t : String} {fault : QuantityFault} {blank : Option String}
    {secrets : List SecretReference} {network : Option String} {compiled : Compiled}
    (given : compile settings r secrets network = .ok compiled)
    (bad : (Fate.unreadable t fault).Applies (p.text r.limits r.requests) p.parse)
    (gone : Fate.absent.Applies blank p.parse) :
    ∃ before after, compiled.notes.diagnostics =
        before ++ .invalidQuantity p.field t fault.reason :: after ∧
      ∃ without, compile settings (p.put blank r) secrets network = .ok without ∧
        without.spec = compiled.spec ∧ without.notes.diagnostics = before ++ after := by
  obtain ⟨set, merged, rfl⟩ := compile_eq_ok_iff.1 given
  obtain ⟨before, after, kept, left⟩ := hintFindings_put bad gone
  have same := specOf_put settings (requirements_put bad gone) set secrets network
  refine ⟨before, after ++ scaleFindings (scaleText r.labels settings), ?_,
    ⟨specOf settings r set secrets network,
      ({} : Notes).record (findings settings (p.put blank r))⟩, ?_, rfl, ?_⟩
  · change findings settings r = _
    rw [findings, kept, List.append_assoc, List.cons_append]
  · exact compile_eq_ok_iff.2 ⟨set, by rw [labels_put, merged], by rw [same]⟩
  · change findings settings (p.put blank r) = _
    rw [findings, left, scaleText_put, List.append_assoc]

/-- Building requirements accounts for every hint; and a request that compiles also does with any
unreadable hint replaced by an absent one, to the same spec and with one diagnostic less. -/
theorem hints_are_accounted_for :
    (∀ limits requests before, ∃ fate,
      Accounted limits requests fate before ((resources limits requests).run before)) ∧
    ∀ settings r secrets network compiled, compile settings r secrets network = .ok compiled →
      ∀ (p : HintPlace) t fault blank,
        (Fate.unreadable t fault).Applies (p.text r.limits r.requests) p.parse →
        Fate.absent.Applies blank p.parse →
        ∃ before after, compiled.notes.diagnostics =
            before ++ .invalidQuantity p.field t fault.reason :: after ∧
          ∃ without, compile settings (p.put blank r) secrets network = .ok without ∧
            without.spec = compiled.spec ∧ without.notes.diagnostics = before ++ after := by
  refine ⟨fun limits requests before => ⟨_, resources_accounted limits requests before⟩, ?_⟩
  intro settings r secrets network compiled given p t fault blank bad gone
  exact compile_put given bad gone

def wishful : Request :=
  { Request.plain "fn" "alpine" with
    limits := some ⟨some "64Mi", some "half"⟩
    requests := some ⟨some "lots", none⟩ }

theorem wishful_without_cpu : ∃ full without,
    compile {} wishful [] none = .ok full ∧
    compile {} (HintPlace.limitsCpu.put none wishful) [] none = .ok without ∧
    without.spec = full.spec ∧
    full.notes.diagnostics =
      .invalidQuantity "limits.cpu" "half" "invalid digit found in string" ::
        without.notes.diagnostics := by
  have merged : labels "fn" none none {} =
      .ok ⟨[("com.openfaas.function", "fn"), ("function", "true")], by decide⟩ := by
    decide +kernel
  have full : ∃ compiled, compile {} wishful [] none = .ok compiled ∧
      compiled.notes.diagnostics =
        [.invalidQuantity "limits.cpu" "half" "invalid digit found in string",
          .invalidQuantity "requests.memory" "lots"
            "expected a number with an optional unit"] :=
    ⟨_, compile_eq_ok_iff.2 ⟨_, merged, rfl⟩, by decide +kernel⟩
  obtain ⟨compiled, given, found⟩ := full
  obtain ⟨before, after, split, without, left, spec, rest⟩ :=
    hints_are_accounted_for.2 {} wishful [] none compiled given .limitsCpu "half"
      (.notAnInteger .badDigit) none ⟨rfl, by decide, by decide +kernel⟩ (.inl rfl)
  refine ⟨compiled, without, given, left, spec, ?_⟩
  rw [rest, split]
  cases before with
  | nil => rfl
  | cons first others =>
    -- only one of the diagnostics names this hint, and it stands first
    rw [found, List.cons_append, List.cons.injEq, eq_comm (b := others ++ _),
      List.append_eq_singleton_iff] at split
    simp [HintPlace.field] at split

end SwarmDeploy.Compile
