import SwarmDeploy.Image.Reference
import SwarmDeploy.Number.IntegerText

/-! The registry index that an image belongs to. -/

namespace SwarmDeploy.Registry
open SwarmDeploy.Text

/-- A registry index; the official one is that of the default domain. -/
structure Index where
  name : String
  official : Bool
  deriving DecidableEq, Repr

def maxPort : Nat := 65535

def isUsablePort (port : List Char) : Bool :=
  match Number.readNatural maxPort port with
  | .ok n => 0 < n
  | .error _ => false

/-- The index of a reference, unless its domain has a port outside 1 to 65535. -/
def Index.resolve (r : Image.Reference) : Option Index :=
  let index : Index := ⟨r.domain, r.domain == Image.defaultDomain⟩
  match cutLast ':' r.domain.toList with
  | none => some index
  | some (_, port) => if isUsablePort port then some index else none

end SwarmDeploy.Registry
