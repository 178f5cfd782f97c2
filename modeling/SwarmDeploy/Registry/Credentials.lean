import SwarmDeploy.Base64
import SwarmDeploy.Json.Access
import SwarmDeploy.Json.Shape
import SwarmDeploy.Registry.Index
import SwarmDeploy.Text.Utf8

/-! Credentials for private registries.
A client sends them as base64 of `user:password`; the orchestrator takes URL-safe base64 of a JSON
object that also names the registry of the image. -/

namespace SwarmDeploy.Registry
open SwarmDeploy.Text SwarmDeploy.Json

inductive EncodingFault where
  | base64 (fault : Base64.Fault)
  | utf8 (fault : Utf8.Fault)
  deriving DecidableEq, Repr

def EncodingFault.message : EncodingFault → String
  | .base64 fault => fault.message
  | .utf8 fault => fault.message

inductive AuthError where
  | invalidReference (error : Image.ReferenceError)
  | unresolvableRegistry (domain : String)
  | invalidEncoding (fault : EncodingFault)
  | malformedCredentials
  deriving DecidableEq, Repr

def AuthError.message : AuthError → String
  | .invalidReference error => "invalid image reference: " ++ error.message
  | .unresolvableRegistry domain => "cannot resolve registry for '" ++ domain ++ "'"
  | .invalidEncoding fault => "invalid base64 in basic auth: " ++ fault.message
  | .malformedCredentials => "invalid basic auth: expected 'user:password'"

/-- Credentials and the registry they are for. -/
structure Login where
  username : String
  password : String
  serverAddress : String
  deriving DecidableEq, Repr

def Login.shape : Shape :=
  .recordOf "AuthConfig" [("username", .text, .default (.text "")),
    ("password", .text, .default (.text "")), ("serveraddress", .text, .default (.text ""))]

def Login.toJson (l : Login) : Value :=
  .object (textMember "username" l.username ++ textMember "password" l.password ++
    textMember "serveraddress" l.serverAddress)

def Login.ofJson (v : Value) : Login :=
  ⟨(v.field "username").textOf, (v.field "password").textOf, (v.field "serveraddress").textOf⟩

def Login.encode (l : Login) : String :=
  String.ofList (Base64.encode .urlSafe (Utf8.encode l.toJson.compact))

def decodeBasic (basic : String) : Except EncodingFault (List Char) :=
  match Base64.decode .standard (Utf8.ofString basic) with
  | .error fault => .error (.base64 fault)
  | .ok bytes => (Utf8.decode bytes).mapError .utf8

def userPassword (basic : String) : Except AuthError (String × String) :=
  match decodeBasic basic with
  | .error fault => .error (.invalidEncoding fault)
  | .ok cs =>
    match cutFirst ':' cs with
    | none => .error .malformedCredentials
    | some (user, password) => .ok (String.ofList user, String.ofList password)

/-- The image with a namespace in front, unless it has three components or more. -/
def qualify (image defaultNamespace : String) : String :=
  if (pieces '/' image.toList).length < 3 then defaultNamespace ++ "/" ++ image else image

def encodedLogin (basic image defaultNamespace : String) : Except AuthError String :=
  match Image.Reference.parseCanonical (qualify image defaultNamespace) with
  | .error error => .error (.invalidReference error)
  | .ok reference =>
    match Index.resolve reference with
    | none => .error (.unresolvableRegistry reference.domain)
    | some index => do
      let (user, password) ← userPassword basic
      pure (Login.encode ⟨user, password, index.name⟩)

end SwarmDeploy.Registry
