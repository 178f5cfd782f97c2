import SwarmDeploy.Proofs.Base64
import SwarmDeploy.Proofs.Json.Record
import SwarmDeploy.Registry.Credentials

/-! An encoded login gives back the login.
What an orchestrator does with an encoded login is to take off the base64 and to read the JSON
object under the shape of a login. Nothing is lost on this way. The registry in it is the domain
of the qualified image. -/

namespace SwarmDeploy.Registry
open SwarmDeploy.Json SwarmDeploy.Text

def Login.decode (encoded : String) : Option Login :=
  match Base64.decode .urlSafe (Utf8.ofString encoded) with
  | .error _ => none
  | .ok bytes =>
    match Login.shape.readDocument bytes with
    | .error _ => none
    | .ok v => some (Login.ofJson v)

def Login.members (l : Login) : List (String × Value) :=
  [("username", .text l.username), ("password", .text l.password),
    ("serveraddress", .text l.serverAddress)]

theorem Login.view_toJson (l : Login) : Login.shape.view l.toJson = some (.object l.members) := by
  have known : Known ["username", "password", "serveraddress"]
      (textMember "username" l.username ++ textMember "password" l.password ++
        textMember "serveraddress" l.serverAddress) := by
    apply known_of_sublist (by decide)
    rw [List.map_append, List.map_append]
    exact ((keys_textMember _ _).append (keys_textMember _ _)).append (keys_textMember _ _)
  refine viewRecord_of_forall₂ known (.cons ?_ (.cons ?_ (.cons ?_ .nil)))
  · exact take_textMember (by simp [List.lookup_append])
  · exact take_textMember (by simp [List.lookup_append])
  · exact take_textMember (by simp [List.lookup_append])

theorem Login.ofJson_members (l : Login) : Login.ofJson (.object l.members) = l := rfl

theorem Login.decode_encode (l : Login) : Login.decode l.encode = some l := by
  have document :
      Login.shape.readDocument (Utf8.encode l.toJson.compact) = .ok (.object l.members) :=
    Login.shape.readDocument_written (written_compact l.toJson) l.view_toJson
  unfold Login.decode Login.encode
  rw [Utf8.ofString, String.toList_ofList, Base64.decode_encode]
  simp only [document, Login.ofJson_members]

theorem Index.eq_of_resolve {r : Image.Reference} {index : Index}
    (resolved : resolve r = some index) :
    index = ⟨r.domain, r.domain == Image.defaultDomain⟩ := by
  unfold resolve at resolved
  split at resolved
  · cases resolved
    rfl
  · split at resolved
    · cases resolved
      rfl
    · cases resolved

theorem Index.name_of_resolve {r : Image.Reference} {index : Index}
    (resolved : resolve r = some index) : index.name = r.domain := by
  rw [eq_of_resolve resolved]

theorem userPassword_error {basic : String} {error : AuthError}
    (failed : userPassword basic = .error error) :
    (∃ fault, error = .invalidEncoding fault) ∨ error = .malformedCredentials := by
  unfold userPassword at failed
  split at failed
  · cases failed
    exact .inl ⟨_, rfl⟩
  · split at failed
    · cases failed
      exact .inr rfl
    · cases failed

theorem encodedLogin_eq_map {image defaultNamespace : String} {r : Image.Reference}
    (canonical : Image.Reference.parseCanonical (qualify image defaultNamespace) = .ok r)
    (resolved : (Index.resolve r).isSome = true) (basic : String) :
    encodedLogin basic image defaultNamespace =
      (userPassword basic).map fun parts => Login.encode ⟨parts.1, parts.2, r.domain⟩ := by
  obtain ⟨index, some⟩ := Option.isSome_iff_exists.1 resolved
  simp only [encodedLogin, canonical, some, Index.name_of_resolve some]
  cases userPassword basic <;> rfl

theorem encodedLogin_eq_invalidReference_iff {basic image defaultNamespace : String}
    {error : Image.ReferenceError} :
    encodedLogin basic image defaultNamespace = .error (.invalidReference error) ↔
      Image.Reference.parseCanonical (qualify image defaultNamespace) = .error error := by
  cases canonical : Image.Reference.parseCanonical (qualify image defaultNamespace) with
  | error first => simp [encodedLogin, canonical]
  | ok r =>
    cases resolved : Index.resolve r with
    | none => simp [encodedLogin, canonical, resolved]
    | some index =>
      rw [encodedLogin_eq_map canonical (Option.isSome_iff_exists.2 ⟨index, resolved⟩),
        map_eq_error_iff]
      refine iff_of_false (fun failed => ?_) (fun failed => by cases failed)
      rcases userPassword_error failed with ⟨fault, other⟩ | other <;> cases other

theorem encodedLogin_eq_ok {basic image defaultNamespace encoded : String}
    (ok : encodedLogin basic image defaultNamespace = .ok encoded) :
    ∃ r user password, Image.Reference.parseCanonical (qualify image defaultNamespace) = .ok r ∧
      encoded = Login.encode ⟨user, password, r.domain⟩ := by
  unfold encodedLogin at ok
  split at ok
  · cases ok
  · rename_i r canonical
    split at ok
    · cases ok
    · rename_i index resolved
      cases credentials : userPassword basic with
      | error error =>
        rw [credentials] at ok
        cases ok
      | ok parts =>
        rw [credentials] at ok
        cases ok
        exact ⟨r, parts.1, parts.2, canonical, by rw [Index.name_of_resolve resolved]⟩

end SwarmDeploy.Registry
