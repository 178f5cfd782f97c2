import SwarmDeploy.Deployment
import SwarmDeploy.Proofs.Json.Record

/-! Requests that are written and read again.
What is not given is left out and read as not given; a list, a map or a group that is given is
written even if it is empty. Maps keep their order, since their names are distinct. -/

namespace SwarmDeploy
open Json Text

theorem Bindings.view_toJson (b : Bindings) :
    (Shape.dictionary .text).view b.toJson = some b.toJson :=
  view_pairs b.nodup

theorem Bindings.toJson_ne_null (b : Bindings) : b.toJson ≠ .null :=
  Value.noConfusion

theorem view_texts (items : List String) :
    (Shape.many .text).view (.texts items) = some (.texts items) :=
  view_many view_text items

def ResourceHints.viewed (h : ResourceHints) : Value :=
  .object [("memory", h.memory.elim .null .text), ("cpu", h.cpu.elim .null .text)]

theorem ResourceHints.toJson_ne_null (h : ResourceHints) : h.toJson ≠ .null :=
  Value.noConfusion

theorem ResourceHints.view_toJson (h : ResourceHints) :
    ResourceHints.shape.view h.toJson = some h.viewed := by
  have known : Known ["memory", "cpu"] (optionalMember "memory" (h.memory.map .text) ++
      optionalMember "cpu" (h.cpu.map .text)) := by
    apply known_of_sublist (by decide)
    rw [List.map_append]
    exact (keys_optionalMember _ _).append (keys_optionalMember _ _)
  refine viewRecord_of_forall₂ known (.cons ?_ (.cons ?_ .nil))
  · exact take_optionalMember view_text Value.text_ne_null (by simp [List.lookup_append])
  · exact take_optionalMember view_text Value.text_ne_null (by simp [List.lookup_append])

namespace Request

def viewed (r : Request) : Value :=
  .object [("service", .text r.service), ("image", .text r.image),
    ("network", r.network.elim .null .text), ("envProcess", r.envProcess.elim .null .text),
    ("envVars", r.envVars.elim .null Bindings.toJson),
    ("constraints", r.constraints.elim .null Value.texts),
    ("secrets", r.secrets.elim .null Value.texts), ("labels", r.labels.elim .null Bindings.toJson),
    ("annotations", r.annotations.elim .null Bindings.toJson),
    ("limits", r.limits.elim .null ResourceHints.viewed),
    ("requests", r.requests.elim .null ResourceHints.viewed),
    ("readOnlyRootFilesystem", .bool r.readOnlyRootFilesystem),
    ("registryAuth", r.registryAuth.elim .null .text)]

theorem view_toJson (r : Request) : Request.shape.view r.toJson = some r.viewed := by
  have known : Known ["service", "image", "network", "envProcess", "envVars", "constraints",
      "secrets", "labels", "annotations", "limits", "requests", "readOnlyRootFilesystem",
      "registryAuth"] r.toJson.membersOf := by
    apply known_of_sublist (by decide)
    simp only [toJson, Value.membersOf, List.map_append]
    exact (((((((((((List.Sublist.refl _).append (keys_optionalMember _ _)).append
      (keys_optionalMember _ _)).append (keys_optionalMember _ _)).append
        (keys_optionalMember _ _)).append (keys_optionalMember _ _)).append
          (keys_optionalMember _ _)).append (keys_optionalMember _ _)).append
            (keys_optionalMember _ _)).append (keys_optionalMember _ _)).append
              (List.Sublist.refl _)).append (keys_optionalMember _ _)
  refine viewRecord_of_forall₂ known (.cons ?_ (.cons ?_ (.cons ?_ (.cons ?_ (.cons ?_ (.cons ?_
    (.cons ?_ (.cons ?_ (.cons ?_ (.cons ?_ (.cons ?_ (.cons ?_ (.cons ?_ .nil)))))))))))))
  · exact take_of_lookup rfl rfl
  · exact take_of_lookup rfl rfl
  · exact take_optionalMember view_text Value.text_ne_null
      (by simp [List.lookup_append, List.lookup_cons])
  · exact take_optionalMember view_text Value.text_ne_null
      (by simp [List.lookup_append, List.lookup_cons])
  · exact take_optionalMember Bindings.view_toJson Bindings.toJson_ne_null
      (by simp [List.lookup_append, List.lookup_cons])
  · exact take_optionalMember view_texts Value.texts_ne_null
      (by simp [List.lookup_append, List.lookup_cons])
  · exact take_optionalMember view_texts Value.texts_ne_null
      (by simp [List.lookup_append, List.lookup_cons])
  · exact take_optionalMember Bindings.view_toJson Bindings.toJson_ne_null
      (by simp [List.lookup_append, List.lookup_cons])
  · exact take_optionalMember Bindings.view_toJson Bindings.toJson_ne_null
      (by simp [List.lookup_append, List.lookup_cons])
  · exact take_optionalMember ResourceHints.view_toJson ResourceHints.toJson_ne_null
      (by simp [List.lookup_append, List.lookup_cons])
  · exact take_optionalMember ResourceHints.view_toJson ResourceHints.toJson_ne_null
      (by simp [List.lookup_append, List.lookup_cons])
  · exact take_of_lookup (by simp [List.lookup_append, List.lookup_cons])
      (view_flag r.readOnlyRootFilesystem)
  · exact take_optionalMember view_text Value.text_ne_null
      (by simp [List.lookup_append, List.lookup_cons])

theorem readDocument_text (r : Request) :
    Request.shape.readDocument (Utf8.ofString r.toJson.toText) = .ok r.viewed :=
  Request.shape.readDocument_written (written_toText r.toJson) r.view_toJson

end Request

theorem optional_text (t : Option String) : (t.elim .null Value.text).optional Value.textOf = t :=
  Value.optional_elim Value.text_ne_null (fun _ => rfl) t

theorem optional_texts (items : Option (List String)) :
    (items.elim .null Value.texts).optional Value.textsOf = items :=
  Value.optional_elim Value.texts_ne_null Value.textsOf_texts items

theorem Bindings.ofJson_toJson (b : Bindings) : ofJson b.toJson = b := by
  rw [ofJson, toJson, Value.pairsOf_pairs, ofList_toList]

theorem optional_bindings (b : Option Bindings) :
    (b.elim .null Bindings.toJson).optional Bindings.ofJson = b :=
  Value.optional_elim Bindings.toJson_ne_null Bindings.ofJson_toJson b

theorem ResourceHints.ofJson_viewed (h : ResourceHints) : ofJson h.viewed = h :=
  congrArg₂ ResourceHints.mk (optional_text h.memory) (optional_text h.cpu)

theorem optional_hints (h : Option ResourceHints) :
    (h.elim .null ResourceHints.viewed).optional ResourceHints.ofJson = h :=
  Value.optional_elim nofun ResourceHints.ofJson_viewed h

namespace Request

theorem ofJson_viewed (r : Request) : ofJson r.viewed = r := by
  have fields : ofJson r.viewed =
      { service := r.service
        image := r.image
        network := (r.network.elim .null Value.text).optional Value.textOf
        envProcess := (r.envProcess.elim .null Value.text).optional Value.textOf
        envVars := (r.envVars.elim .null Bindings.toJson).optional Bindings.ofJson
        constraints := (r.constraints.elim .null Value.texts).optional Value.textsOf
        secrets := (r.secrets.elim .null Value.texts).optional Value.textsOf
        labels := (r.labels.elim .null Bindings.toJson).optional Bindings.ofJson
        annotations := (r.annotations.elim .null Bindings.toJson).optional Bindings.ofJson
        limits := (r.limits.elim .null ResourceHints.viewed).optional ResourceHints.ofJson
        requests := (r.requests.elim .null ResourceHints.viewed).optional ResourceHints.ofJson
        readOnlyRootFilesystem := r.readOnlyRootFilesystem
        registryAuth := (r.registryAuth.elim .null Value.text).optional Value.textOf } := rfl
  simp only [fields, optional_text, optional_texts, optional_bindings, optional_hints]

theorem readRequest_text (r : Request) :
    Deployment.readRequest (Utf8.ofString r.toJson.toText) = .ok r := by
  have parsed : parse (Utf8.ofString r.toJson.toText) = .ok (ofJson r.viewed) := by
    simp only [parse, r.readDocument_text]
  rw [Deployment.readRequest, parsed, r.ofJson_viewed]
  rfl

/-- A request that is written and read again is the same, whatever it gives and leaves out, and so
is one that was read before, from whatever body. -/
theorem request_survives_writing :
    (∀ r : Request, Deployment.readRequest (Utf8.ofString r.toJson.toText) = .ok r) ∧
    ∀ body r, Deployment.readRequest body = .ok r →
      Deployment.readRequest (Utf8.ofString r.toJson.toText) = .ok r :=
  ⟨readRequest_text, fun _ r _ => r.readRequest_text⟩

/-- A body with `null` for what is not given, with an empty map, an empty list and an empty group,
and with a map that binds a name twice. -/
def foreignBody : List UInt8 :=
  ["\x7b\"image\": \"a/b\", \"service\": \"f\\u006e\", \"network\": null, ",
    "\"envVars\": \x7b\"B\": \"1\", \"A\": \"2\", \"B\": \"3\"\x7d, \"labels\": \x7b\x7d, ",
    "\"secrets\": [], \"limits\": \x7b\x7d\x7d"].flatMap Utf8.ofString

def foreignRequest : Request where
  service := "fn"
  image := "a/b"
  network := none
  envProcess := none
  envVars := some ⟨[("B", "3"), ("A", "2")], by decide⟩
  constraints := none
  secrets := some []
  labels := some .empty
  annotations := none
  limits := some ⟨none, none⟩
  requests := none
  readOnlyRootFilesystem := false
  registryAuth := none

theorem foreignBody_survives_writing :
    Deployment.readRequest foreignBody = .ok foreignRequest ∧
      Deployment.readRequest (Utf8.ofString foreignRequest.toJson.toText) =
        .ok foreignRequest := by
  have ok : Deployment.readRequest foreignBody = .ok foreignRequest := by decide +kernel
  exact ⟨ok, request_survives_writing.2 _ _ ok⟩

end Request
end SwarmDeploy
