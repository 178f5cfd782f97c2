import SwarmDeploy.Proofs.Registry.Login

/-! Credentials on their way into an encoded login.
The image and its registry are judged before the credentials. Credentials of a user and a password
come out as they went in, in a text that can stand in a URL or a header. -/

namespace SwarmDeploy.Registry
open SwarmDeploy.Image SwarmDeploy.Text

def basicCredentials (user password : String) : String :=
  String.ofList (Base64.encode .standard (Utf8.ofString (user ++ ":" ++ password)))

def isUrlSafe (c : Char) : Bool :=
  isLetterOrDigit c || c == '-' || c == '_' || c == '='

theorem isUrlSafe_symbol : ∀ value < 64,
    isUrlSafe (Base64.Alphabet.urlSafe.symbol value) = true := by
  decide

theorem Login.isUrlSafe_of_mem_encode {l : Login} {c : Char} (mem : c ∈ l.encode.toList) :
    isUrlSafe c = true := by
  rw [Login.encode, String.toList_ofList] at mem
  rcases Base64.mem_encode _ mem with rfl | ⟨value, small, rfl⟩
  · rfl
  · exact isUrlSafe_symbol value small

theorem userPassword_basicCredentials {user : String} (noColon : ':' ∉ user.toList)
    (password : String) :
    userPassword (basicCredentials user password) = .ok (user, password) := by
  have decoded : decodeBasic (basicCredentials user password) =
      .ok (user.toList ++ ':' :: password.toList) := by
    simp only [decodeBasic, basicCredentials, Utf8.ofString, String.toList_ofList,
      Base64.decode_encode, Utf8.decode_encode, String.toList_append]
    simp [Except.mapError]
  have cut : cutFirst ':' (user.toList ++ ':' :: password.toList) =
      some (user.toList, password.toList) := cutFirst_eq_some_iff.2 ⟨noColon, rfl⟩
  simp only [userPassword, decoded, cut, String.ofList_toList]

/-- What becomes of credentials: a fault of the image is reported first, then one of its registry,
and only then one of the credentials; without faults an orchestrator gets back the user and the
password, with the domain of the image. -/
theorem credentials_survive_encoding (image defaultNamespace : String) :
    (∀ error, Reference.parseCanonical (qualify image defaultNamespace) = .error error →
      ∀ basic, encodedLogin basic image defaultNamespace = .error (.invalidReference error)) ∧
    ∀ r, Reference.parseCanonical (qualify image defaultNamespace) = .ok r →
      (Index.resolve r = none → ∀ basic,
        encodedLogin basic image defaultNamespace = .error (.unresolvableRegistry r.domain)) ∧
      ((Index.resolve r).isSome = true →
        (∀ basic fault, userPassword basic = .error fault →
          encodedLogin basic image defaultNamespace = .error fault) ∧
        ∀ user password, ':' ∉ user.toList → ∃ encoded,
          encodedLogin (basicCredentials user password) image defaultNamespace = .ok encoded ∧
            (∀ c ∈ encoded.toList, isUrlSafe c = true) ∧
              Login.decode encoded = some ⟨user, password, r.domain⟩) := by
  refine ⟨fun error refused basic => ?_, fun r canonical => ⟨fun unresolved basic => ?_,
    fun resolved => ⟨fun basic fault failed => ?_, fun user password noColon => ?_⟩⟩⟩
  · simp only [encodedLogin, refused]
  · simp only [encodedLogin, canonical, unresolved]
  · rw [encodedLogin_eq_map canonical resolved, failed]
    rfl
  · refine ⟨Login.encode ⟨user, password, r.domain⟩, ?_, fun c => Login.isUrlSafe_of_mem_encode,
      Login.decode_encode _⟩
    rw [encodedLogin_eq_map canonical resolved, userPassword_basicCredentials noColon]
    rfl

/-- No user and a password with a colon, a quote and a control: nothing is lost. -/
theorem oddPassword_survives_encoding :
    Reference.parseCanonical (qualify "registry.local:5000/team/fn" "docker.io") =
        .ok ⟨"registry.local:5000", "team/fn", none, none⟩ ∧
      (Index.resolve ⟨"registry.local:5000", "team/fn", none, none⟩).isSome = true ∧
      ':' ∉ "".toList ∧ ∃ encoded,
        encodedLogin (basicCredentials "" "a:\"\n") "registry.local:5000/team/fn" "docker.io" =
            .ok encoded ∧
          (∀ c ∈ encoded.toList, isUrlSafe c = true) ∧
            Login.decode encoded = some ⟨"", "a:\"\n", "registry.local:5000"⟩ := by
  have canonical : Reference.parseCanonical (qualify "registry.local:5000/team/fn" "docker.io") =
      .ok ⟨"registry.local:5000", "team/fn", none, none⟩ := by rfl
  have resolved :
      (Index.resolve ⟨"registry.local:5000", "team/fn", none, none⟩).isSome = true := by rfl
  have noColon : ':' ∉ "".toList := by decide
  exact ⟨canonical, resolved, noColon, (((credentials_survive_encoding _ _).2 _ canonical).2
    resolved).2 "" "a:\"\n" noColon⟩

end SwarmDeploy.Registry
