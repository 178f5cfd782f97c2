import SwarmDeploy.Proofs.Json.Settled
import SwarmDeploy.Proofs.Service.Wire

/-! Service specs that are written and read again.
A spec comes back as it was, but for a delay that no word of nanoseconds holds, which comes back
as the largest one. A spec that was read has no such delay, so it comes back exactly. -/

namespace SwarmDeploy.Service
open SwarmDeploy.Json SwarmDeploy.Text

def ServiceSpec.decode (document : List UInt8) : Except Fault ServiceSpec :=
  (ServiceSpec.shape.readDocument document).map ServiceSpec.ofJson

theorem MountKind.ofName_name (k : MountKind) : ofName k.name = k := by
  cases k <;> rfl

theorem RestartCondition.ofName_name (c : RestartCondition) : ofName c.name = c := by
  cases c <;> rfl

theorem Mount.ofJson_toJson (m : Mount) : ofJson m.toJson = m :=
  congrArg (fun kind => (⟨kind, m.target⟩ : Mount)) m.kind.ofName_name

theorem SecretFile.ofJson_toJson (f : SecretFile) : ofJson f.toJson = f :=
  congrArg (fun mode => (⟨f.name, f.uid, f.gid, mode⟩ : SecretFile)) UInt32.ofNat_toNat

theorem SecretReference.ofJson_toJson (s : SecretReference) : ofJson s.toJson = s :=
  congrArg (fun file => (⟨file, s.id, s.name⟩ : SecretReference)) s.file.ofJson_toJson

theorem NetworkAttachment.ofJson_toJson (n : NetworkAttachment) : ofJson n.toJson = n := rfl

theorem modeOfJson_modeToJson (replicas : UInt64) : modeOfJson (modeToJson replicas) = replicas :=
  UInt64.ofNat_toNat

theorem RestartPolicy.ofJson_toJson (p : RestartPolicy) :
    ofJson p.toJson = { p with delay := p.writtenDelay } := by
  have fields : ofJson p.toJson =
      ⟨.ofName p.condition.name, p.writtenDelay, .ofNat p.maxAttempts.toNat⟩ := rfl
  rw [fields, p.condition.ofName_name, UInt64.ofNat_toNat]

theorem Resources.ofJson_viewed (r : Resources) : ofJson r.viewed = r := by
  have number : ∀ n : Option Int64,
      ((n.elim .null fun n => .int n.toInt : Value).optional fun n => .ofInt n.intOf) = n :=
    Value.optional_elim nofun Int64.ofInt_toInt
  exact congrArg₂ Resources.mk (number r.nanoCpus) (number r.memoryBytes)

theorem ResourceRequirements.ofJson_viewed (r : ResourceRequirements) : ofJson r.viewed = r := by
  have group : ∀ g : Option Resources,
      ((g.elim .null Resources.viewed).optional Resources.ofJson) = g :=
    Value.optional_elim nofun Resources.ofJson_viewed
  exact congrArg₂ ResourceRequirements.mk (group r.limits) (group r.reservations)

theorem Placement.ofJson_viewed (p : Placement) : ofJson p.viewed = p :=
  congrArg Placement.mk (Value.textsOf_texts p.constraints)

theorem ofList_pairsOf_pairs (labels : LabelSet) :
    LabelSet.ofList (Value.pairs labels.toList).pairsOf = labels := by
  rw [Value.pairsOf_pairs, LabelSet.ofList_toList]

theorem ContainerSpec.ofJson_viewed (c : ContainerSpec) : ofJson c.viewed = c := by
  have fields : ofJson c.viewed =
      { image := c.image
        labels := .ofList (Value.pairs c.labels.toList).pairsOf
        env := (Value.texts c.env).textsOf
        mounts := (Value.list (c.mounts.map Mount.toJson)).itemsOf.map Mount.ofJson
        secrets := (Value.list (c.secrets.map SecretReference.toJson)).itemsOf.map
          SecretReference.ofJson
        readOnly := c.readOnly } := rfl
  rw [fields, ofList_pairsOf_pairs, Value.textsOf_texts, Value.itemsOf_map Mount.ofJson_toJson,
    Value.itemsOf_map SecretReference.ofJson_toJson]

theorem TaskSpec.ofJson_viewed (t : TaskSpec) :
    ofJson t.viewed =
      { t with restartPolicy :=
          { t.restartPolicy with delay := t.restartPolicy.writtenDelay } } := by
  have fields : ofJson t.viewed =
      { container := .ofJson t.container.viewed
        resources := (t.resources.elim .null ResourceRequirements.viewed).optional
          ResourceRequirements.ofJson
        restartPolicy := .ofJson t.restartPolicy.toJson
        placement := .ofJson t.placement.viewed
        networks := (Value.list (t.networks.map NetworkAttachment.toJson)).itemsOf.map
          NetworkAttachment.ofJson } := rfl
  rw [fields, ContainerSpec.ofJson_viewed, RestartPolicy.ofJson_toJson, Placement.ofJson_viewed,
    Value.optional_elim nofun ResourceRequirements.ofJson_viewed,
    Value.itemsOf_map NetworkAttachment.ofJson_toJson]

def ServiceSpec.withDelay (s : ServiceSpec) (delay : Nat) : ServiceSpec :=
  { s with task := { s.task with restartPolicy := { s.task.restartPolicy with delay } } }

theorem ServiceSpec.ofJson_viewed (s : ServiceSpec) :
    ofJson s.viewed = s.withDelay s.task.restartPolicy.writtenDelay := by
  have fields : ofJson s.viewed =
      { name := s.name
        labels := .ofList (Value.pairs s.labels.toList).pairsOf
        task := .ofJson s.task.viewed
        replicas := modeOfJson (modeToJson s.replicas) } := rfl
  rw [fields, ofList_pairsOf_pairs, TaskSpec.ofJson_viewed, modeOfJson_modeToJson, withDelay]

theorem ServiceSpec.decode_text (s : ServiceSpec) :
    decode (Utf8.ofString s.text) = .ok (s.withDelay s.task.restartPolicy.writtenDelay) := by
  rw [decode, s.readDocument_text]
  exact congrArg Except.ok s.ofJson_viewed

theorem Mount.shape_proper : Mount.shape.Proper :=
  ⟨by decide, trivial, trivial, trivial, trivial, trivial⟩

theorem SecretFile.shape_proper : SecretFile.shape.Proper :=
  ⟨by decide, trivial, trivial, trivial, trivial, trivial, trivial, trivial, trivial, trivial⟩

theorem SecretReference.shape_proper : SecretReference.shape.Proper :=
  ⟨by decide, SecretFile.shape_proper, trivial, trivial, trivial, trivial, trivial, trivial⟩

theorem Resources.shape_proper : Resources.shape.Proper :=
  ⟨by decide, trivial, rfl, trivial, rfl, trivial⟩

theorem ResourceRequirements.shape_proper : ResourceRequirements.shape.Proper :=
  ⟨by decide, Resources.shape_proper, rfl, Resources.shape_proper, rfl, trivial⟩

theorem ContainerSpec.shape_proper : ContainerSpec.shape.Proper :=
  ⟨by decide, trivial, trivial, trivial, rfl, trivial, rfl, Mount.shape_proper, rfl,
    SecretReference.shape_proper, rfl, trivial, rfl, trivial⟩

theorem RestartPolicy.shape_proper : RestartPolicy.shape.Proper :=
  ⟨by decide, trivial, trivial, trivial, trivial, trivial, trivial, trivial⟩

theorem Placement.shape_proper : Placement.shape.Proper :=
  ⟨by decide, trivial, rfl, trivial⟩

theorem NetworkAttachment.shape_proper : NetworkAttachment.shape.Proper :=
  ⟨by decide, trivial, trivial, trivial⟩

theorem TaskSpec.shape_proper : TaskSpec.shape.Proper :=
  ⟨by decide, ContainerSpec.shape_proper, trivial, ResourceRequirements.shape_proper, rfl,
    RestartPolicy.shape_proper, trivial, Placement.shape_proper, trivial,
    NetworkAttachment.shape_proper, rfl, trivial⟩

theorem modeShape_proper : modeShape.Proper :=
  ⟨by decide, ⟨by decide, trivial, trivial, trivial⟩, trivial, trivial⟩

theorem ServiceSpec.shape_proper : ServiceSpec.shape.Proper :=
  ⟨by decide, trivial, trivial, trivial, rfl, TaskSpec.shape_proper, trivial, modeShape_proper,
    trivial, trivial⟩

theorem le_maxWord_of_settled {v : Value} (settled : Settled (Shape.integer .word).view v) :
    v.intOf.toNat ≤ Number.maxWord := by
  rw [Settled, Shape.view] at settled
  unfold viewInteger at settled
  split at settled
  · split at settled
    · rename_i within
      have bounds := bounds_of_contains within
      simp only [Value.intOf, Number.maxWord]
      omega
    · cases settled
  · cases settled

theorem ServiceSpec.delay_le_maxWord {document : List UInt8} {s : ServiceSpec}
    (ok : decode document = .ok s) : s.task.restartPolicy.delay ≤ Number.maxWord := by
  obtain ⟨v, read, rfl⟩ := map_eq_ok_iff.1 ok
  have spec : Settled ServiceSpec.shape.view v :=
    Shape.settled_of_readDocument ServiceSpec.shape_proper read
  have task : Settled TaskSpec.shape.view (v.field "TaskTemplate") :=
    settled_field spec (.tail _ (.tail _ (.head _)))
  have policy : Settled RestartPolicy.shape.view ((v.field "TaskTemplate").field "RestartPolicy") :=
    settled_field task (.tail _ (.tail _ (.head _)))
  exact le_maxWord_of_settled (settled_field policy (.tail _ (.head _)))

theorem ServiceSpec.decode_text_of_decode {document : List UInt8} {s : ServiceSpec}
    (ok : decode document = .ok s) : decode (Utf8.ofString s.text) = .ok s := by
  rw [decode_text, RestartPolicy.writtenDelay, Nat.min_eq_left (delay_le_maxWord ok)]
  rfl

/-- Nothing but an oversized delay is lost when a spec is written, and nothing at all of a spec
that was read. -/
theorem spec_survives_wire :
    (∀ s : ServiceSpec, ServiceSpec.decode (Utf8.ofString s.text) =
      .ok (s.withDelay (min s.task.restartPolicy.delay Number.maxWord))) ∧
    ∀ document s, ServiceSpec.decode document = .ok s →
      ServiceSpec.decode (Utf8.ofString s.text) = .ok s :=
  ⟨ServiceSpec.decode_text, fun _ _ => ServiceSpec.decode_text_of_decode⟩

/-- A document with lists for records, with `null` for a group, with repeated labels and with a
member that nobody knows. -/
def foreignDocument : List UInt8 :=
  ["[\"f\\u006e\", \x7b\"b\": \"1\", \"a\": \"2\", \"b\": \"3\"\x7d, ",
    "\x7b\"Platform\": 7, \"Placement\": [], \"ContainerSpec\": [\"a/b\"], ",
    "\"Resources\": [\x7b\x7d, null], \"RestartPolicy\": [\"any\", 18446744073709551615, 0]\x7d, ",
    "[[2]]]"].flatMap Utf8.ofString

def foreignSpec : ServiceSpec where
  name := "fn"
  labels := ⟨[("a", "2"), ("b", "3")], by decide⟩
  task := {
    container := ⟨"a/b", .empty, [], [], [], false⟩
    resources := some ⟨some ⟨none, none⟩, none⟩
    restartPolicy := ⟨.any, Number.maxWord, 0⟩
    placement := ⟨[]⟩
    networks := [] }
  replicas := 2

theorem foreignDocument_survives_wire :
    ServiceSpec.decode foreignDocument = .ok foreignSpec ∧
      ServiceSpec.decode (Utf8.ofString foreignSpec.text) = .ok foreignSpec := by
  have ok : ServiceSpec.decode foreignDocument = .ok foreignSpec := by decide +kernel
  exact ⟨ok, spec_survives_wire.2 _ _ ok⟩

end SwarmDeploy.Service
