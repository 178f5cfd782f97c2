import SwarmDeploy.Proofs.Json.Record
import SwarmDeploy.Service.Wire

/-! What a written service spec is read as.
Every value of the JSON form is seen under its shape, with the members that were left out. So the
text of a spec is a document of the shape of specs. -/

namespace SwarmDeploy.Service
open SwarmDeploy.Json

theorem view_word (n : UInt64) :
    (Shape.integer .word).view (.int n.toNat) = some (.int n.toNat) := by
  have below := n.toNat_lt
  apply view_integer
  simp only [IntegerRange.contains, Bool.and_eq_true, decide_eq_true_eq]
  omega

theorem view_halfWord (n : UInt32) :
    (Shape.integer .halfWord).view (.int n.toNat) = some (.int n.toNat) := by
  have below := n.toNat_lt
  apply view_integer
  simp only [IntegerRange.contains, Bool.and_eq_true, decide_eq_true_eq]
  omega

theorem view_signedWord (n : Int64) :
    (Shape.integer .signedWord).view (.int n.toInt) = some (.int n.toInt) := by
  have below := n.toInt_lt
  have above := n.le_toInt
  apply view_integer
  simp only [IntegerRange.contains, Bool.and_eq_true, decide_eq_true_eq]
  omega

theorem view_writtenDelay (p : RestartPolicy) :
    (Shape.integer .word).view (.int p.writtenDelay) = some (.int p.writtenDelay) := by
  have below : p.writtenDelay ≤ Number.maxWord := Nat.min_le_right _ _
  simp only [Number.maxWord] at below
  apply view_integer
  simp only [IntegerRange.contains, Bool.and_eq_true, decide_eq_true_eq]
  omega

theorem MountKind.view_name (k : MountKind) :
    MountKind.shape.view (.text k.name) = some (.text k.name) := by
  cases k <;> rfl

theorem RestartCondition.view_name (c : RestartCondition) :
    RestartCondition.shape.view (.text c.name) = some (.text c.name) := by
  cases c <;> rfl

theorem Mount.view_toJson (m : Mount) : Mount.shape.view m.toJson = some m.toJson :=
  viewRecord_of_forall₂ (known_of_sublist (by decide) (List.Sublist.refl _))
    (.cons (take_of_lookup rfl m.kind.view_name) (.cons (take_of_lookup rfl rfl) .nil))

theorem SecretFile.view_toJson (f : SecretFile) : SecretFile.shape.view f.toJson = some f.toJson :=
  viewRecord_of_forall₂ (known_of_sublist (by decide) (List.Sublist.refl _))
    (.cons (take_of_lookup rfl rfl) (.cons (take_of_lookup rfl rfl)
      (.cons (take_of_lookup rfl rfl) (.cons (take_of_lookup rfl (view_halfWord f.mode)) .nil))))

theorem SecretReference.view_toJson (s : SecretReference) :
    SecretReference.shape.view s.toJson = some s.toJson :=
  viewRecord_of_forall₂ (known_of_sublist (by decide) (List.Sublist.refl _))
    (.cons (take_of_lookup rfl s.file.view_toJson) (.cons (take_of_lookup rfl rfl)
      (.cons (take_of_lookup rfl rfl) .nil)))

theorem RestartPolicy.view_toJson (p : RestartPolicy) :
    RestartPolicy.shape.view p.toJson = some p.toJson :=
  viewRecord_of_forall₂ (known_of_sublist (by decide) (List.Sublist.refl _))
    (.cons (take_of_lookup rfl p.condition.view_name)
      (.cons (take_of_lookup rfl (view_writtenDelay p))
        (.cons (take_of_lookup rfl (view_word p.maxAttempts)) .nil)))

theorem NetworkAttachment.view_toJson (n : NetworkAttachment) :
    NetworkAttachment.shape.view n.toJson = some n.toJson :=
  viewRecord_of_forall₂ (known_of_sublist (by decide) (List.Sublist.refl _))
    (.cons (take_of_lookup rfl rfl) .nil)

theorem view_modeToJson (replicas : UInt64) :
    modeShape.view (modeToJson replicas) = some (modeToJson replicas) := by
  refine viewRecord_of_forall₂ (known_of_sublist (by decide) (List.Sublist.refl _))
    (.cons (take_of_lookup rfl ?_) .nil)
  exact viewRecord_of_forall₂ (known_of_sublist (by decide) (List.Sublist.refl _))
    (.cons (take_of_lookup rfl (view_word replicas)) .nil)

def Resources.viewed (r : Resources) : Value :=
  .object [("NanoCPUs", r.nanoCpus.elim .null fun n => .int n.toInt),
    ("MemoryBytes", r.memoryBytes.elim .null fun n => .int n.toInt)]

theorem Resources.view_toJson (r : Resources) : Resources.shape.view r.toJson = some r.viewed := by
  have known : Known ["NanoCPUs", "MemoryBytes"]
      (optionalMember "NanoCPUs" (r.nanoCpus.map fun n => .int n.toInt) ++
        optionalMember "MemoryBytes" (r.memoryBytes.map fun n => .int n.toInt)) := by
    apply known_of_sublist (by decide)
    rw [List.map_append]
    exact (keys_optionalMember _ _).append (keys_optionalMember _ _)
  refine viewRecord_of_forall₂ known (.cons ?_ (.cons ?_ .nil))
  · exact take_optionalMember view_signedWord nofun
      (by simp [List.lookup_append])
  · exact take_optionalMember view_signedWord nofun
      (by simp [List.lookup_append])

def ResourceRequirements.viewed (r : ResourceRequirements) : Value :=
  .object [("Limits", r.limits.elim .null Resources.viewed),
    ("Reservations", r.reservations.elim .null Resources.viewed)]

theorem ResourceRequirements.view_toJson (r : ResourceRequirements) :
    ResourceRequirements.shape.view r.toJson = some r.viewed := by
  have known : Known ["Limits", "Reservations"]
      (optionalMember "Limits" (r.limits.map Resources.toJson) ++
        optionalMember "Reservations" (r.reservations.map Resources.toJson)) := by
    apply known_of_sublist (by decide)
    rw [List.map_append]
    exact (keys_optionalMember _ _).append (keys_optionalMember _ _)
  refine viewRecord_of_forall₂ known (.cons ?_ (.cons ?_ .nil))
  · exact take_optionalMember Resources.view_toJson nofun
      (by simp [List.lookup_append])
  · exact take_optionalMember Resources.view_toJson nofun
      (by simp [List.lookup_append])

def Placement.viewed (p : Placement) : Value :=
  .object [("Constraints", .texts p.constraints)]

theorem Placement.view_toJson (p : Placement) : Placement.shape.view p.toJson = some p.viewed := by
  have known : Known ["Constraints"] (listMember "Constraints" (p.constraints.map .text)) :=
    known_of_sublist (by decide) (keys_listMember _ _)
  refine viewRecord_of_forall₂ known (.cons ?_ .nil)
  exact take_listMember view_text (by simp)

def ContainerSpec.viewed (c : ContainerSpec) : Value :=
  .object [("Image", .text c.image), ("Labels", .pairs c.labels.toList), ("Env", .texts c.env),
    ("Mounts", .list (c.mounts.map Mount.toJson)),
    ("Secrets", .list (c.secrets.map SecretReference.toJson)), ("ReadOnly", .bool c.readOnly)]

theorem ContainerSpec.view_toJson (c : ContainerSpec) :
    ContainerSpec.shape.view c.toJson = some c.viewed := by
  have known : Known ["Image", "Labels", "Env", "Mounts", "Secrets", "ReadOnly"]
      ([("Image", .text c.image)] ++ pairsMember "Labels" c.labels.toList ++
        listMember "Env" (c.env.map .text) ++ listMember "Mounts" (c.mounts.map Mount.toJson) ++
          listMember "Secrets" (c.secrets.map SecretReference.toJson) ++
            [("ReadOnly", .bool c.readOnly)]) := by
    apply known_of_sublist (by decide)
    simp only [List.map_append]
    exact (((((List.Sublist.refl _).append (keys_pairsMember _ _)).append
      (keys_listMember _ _)).append (keys_listMember _ _)).append (keys_listMember _ _)).append
        (List.Sublist.refl _)
  refine viewRecord_of_forall₂ known
    (.cons ?_ (.cons ?_ (.cons ?_ (.cons ?_ (.cons ?_ (.cons ?_ .nil))))))
  · exact take_of_lookup rfl rfl
  · exact take_pairsMember c.labels.nodup_names (by simp [List.lookup_append, List.lookup_cons])
  · exact take_listMember view_text (by simp [List.lookup_append, List.lookup_cons])
  · exact take_listMember Mount.view_toJson (by simp [List.lookup_append, List.lookup_cons])
  · exact take_listMember SecretReference.view_toJson
      (by simp [List.lookup_append, List.lookup_cons])
  · exact take_of_lookup (by simp [List.lookup_append, List.lookup_cons]) (view_flag c.readOnly)

def TaskSpec.viewed (t : TaskSpec) : Value :=
  .object [("ContainerSpec", t.container.viewed),
    ("Resources", t.resources.elim .null ResourceRequirements.viewed),
    ("RestartPolicy", t.restartPolicy.toJson), ("Placement", t.placement.viewed),
    ("Networks", .list (t.networks.map NetworkAttachment.toJson))]

theorem TaskSpec.view_toJson (t : TaskSpec) : TaskSpec.shape.view t.toJson = some t.viewed := by
  have known : Known ["ContainerSpec", "Resources", "RestartPolicy", "Placement", "Networks"]
      ([("ContainerSpec", t.container.toJson)] ++
        optionalMember "Resources" (t.resources.map ResourceRequirements.toJson) ++
          [("RestartPolicy", t.restartPolicy.toJson), ("Placement", t.placement.toJson)] ++
            listMember "Networks" (t.networks.map NetworkAttachment.toJson)) := by
    apply known_of_sublist (by decide)
    simp only [List.map_append]
    exact (((List.Sublist.refl _).append (keys_optionalMember _ _)).append
      (List.Sublist.refl _)).append (keys_listMember _ _)
  refine viewRecord_of_forall₂ known
    (.cons ?_ (.cons ?_ (.cons ?_ (.cons ?_ (.cons ?_ .nil)))))
  · exact take_of_lookup rfl t.container.view_toJson
  · exact take_optionalMember ResourceRequirements.view_toJson nofun
      (by simp [List.lookup_append, List.lookup_cons])
  · exact take_of_lookup (by simp [List.lookup_append, List.lookup_cons])
      t.restartPolicy.view_toJson
  · exact take_of_lookup (by simp [List.lookup_append, List.lookup_cons]) t.placement.view_toJson
  · exact take_listMember NetworkAttachment.view_toJson
      (by simp [List.lookup_append, List.lookup_cons])

def ServiceSpec.viewed (s : ServiceSpec) : Value :=
  .object [("Name", .text s.name), ("Labels", .pairs s.labels.toList),
    ("TaskTemplate", s.task.viewed), ("Mode", modeToJson s.replicas)]

theorem ServiceSpec.view_toJson (s : ServiceSpec) :
    ServiceSpec.shape.view s.toJson = some s.viewed := by
  have known : Known ["Name", "Labels", "TaskTemplate", "Mode"]
      ([("Name", .text s.name)] ++ pairsMember "Labels" s.labels.toList ++
        [("TaskTemplate", s.task.toJson), ("Mode", modeToJson s.replicas)]) := by
    apply known_of_sublist (by decide)
    simp only [List.map_append]
    exact ((List.Sublist.refl _).append (keys_pairsMember _ _)).append (List.Sublist.refl _)
  refine viewRecord_of_forall₂ known (.cons ?_ (.cons ?_ (.cons ?_ (.cons ?_ .nil))))
  · exact take_of_lookup rfl rfl
  · exact take_pairsMember s.labels.nodup_names (by simp [List.lookup_append, List.lookup_cons])
  · exact take_of_lookup (by simp [List.lookup_append, List.lookup_cons])
      s.task.view_toJson
  · exact take_of_lookup (by simp [List.lookup_append, List.lookup_cons])
      (view_modeToJson s.replicas)

theorem ServiceSpec.readDocument_text (s : ServiceSpec) :
    ServiceSpec.shape.readDocument (Text.Utf8.ofString s.text) = .ok s.viewed :=
  ServiceSpec.shape.readDocument_written (written_toText s.toJson) s.view_toJson

end SwarmDeploy.Service
