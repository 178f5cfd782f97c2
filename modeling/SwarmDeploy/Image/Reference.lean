import SwarmDeploy.Image.Grammar
import SwarmDeploy.Text.Lowercase

/-! Image references with the default registry filled in.
The first component of a text counts as the registry host only if it looks like one; without a
host the image belongs to the default domain, and there a single component to the official
namespace. -/

namespace SwarmDeploy.Image
open SwarmDeploy.Text

def defaultDomain : String := "docker.io"

def legacyDomain : String := "index.docker.io"

def officialNamespace : String := "library/"

def maxNameLength : Nat := 255

inductive ReferenceError where
  | invalidFormat (text : String)
  | nameNotLowercase (text : String)
  | nameTooLong
  | nameNotCanonical (text : String)
  | hexName (text : String)
  deriving DecidableEq, Repr

def ReferenceError.message : ReferenceError → String
  | .invalidFormat text => "invalid reference format: '" ++ text ++ "'"
  | .nameNotLowercase text => "repository name must be lowercase: '" ++ text ++ "'"
  | .nameTooLong => "repository name must not be more than 255 characters"
  | .nameNotCanonical text => "repository name must be canonical: '" ++ text ++ "'"
  | .hexName text =>
    "invalid repository name '" ++ text ++ "': cannot be a 64-byte hexadecimal string"

structure Reference where
  domain : String
  path : String
  tag : Option String
  digest : Option String
  deriving DecidableEq, Repr

def Reference.name (r : Reference) : String :=
  r.domain ++ "/" ++ r.path

def Reference.display (r : Reference) : String :=
  r.name ++ (r.tag.elim "" fun t => ":" ++ t) ++ (r.digest.elim "" fun d => "@" ++ d)

/-- The first component of a text reads as a host: it has a dot, a colon or a character with a
lower-case form, or is the local host. -/
def looksLikeHost (first : List Char) : Bool :=
  first.contains '.' || first.contains ':' || first == "localhost".toList ||
    lowercase first != first

def hostAndRest (cs : List Char) : List Char × List Char :=
  match cutFirst '/' cs with
  | some (first, rest) =>
    if looksLikeHost first then (first, rest) else (defaultDomain.toList, cs)
  | none => (defaultDomain.toList, cs)

def splitDomain (cs : List Char) : List Char × List Char :=
  let found := hostAndRest cs
  let domain := if found.1 = legacyDomain.toList then defaultDomain.toList else found.1
  if domain = defaultDomain.toList ∧ '/' ∉ found.2 then
    (domain, officialNamespace.toList ++ found.2)
  else (domain, found.2)

namespace Reference

def parseNormalized (text : String) : Except ReferenceError Reference :=
  let cs := text.toList
  if isHexId cs then .error (.hexName text)
  else
    let (domain, remainder) := splitDomain cs
    let remote := beforeFirst ':' remainder
    if lowercase remote ≠ remote then .error (.nameNotLowercase text)
    else
      match takeApart (domain ++ '/' :: remainder) with
      | none => .error (.invalidFormat text)
      | some parts =>
        if maxNameLength < parts.name.length then .error .nameTooLong
        else
          match dropStart (domain ++ ['/']) parts.name with
          | none => .error (.invalidFormat text)
          | some path =>
            .ok ⟨String.ofList domain, String.ofList path, parts.tag.map String.ofList,
              parts.digest.map String.ofList⟩

def parseCanonical (text : String) : Except ReferenceError Reference := do
  let reference ← parseNormalized text
  if reference.display = text then pure reference else throw (.nameNotCanonical text)

end Reference
end SwarmDeploy.Image
