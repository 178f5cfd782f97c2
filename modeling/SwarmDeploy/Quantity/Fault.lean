import SwarmDeploy.Number.IntegerText

/-! Why the text of a resource quantity is refused. -/

namespace SwarmDeploy

inductive QuantityFault where
  | malformed
  | notANumber (number : List Char)
  | tooLarge
  | notAnInteger (fault : Number.IntegerFault)
  deriving DecidableEq, Repr

def QuantityFault.reason : QuantityFault → String
  | .malformed => "expected a number with an optional unit"
  | .notANumber number => "'" ++ String.ofList number ++ "' is not a number"
  | .tooLarge => "size does not fit in 64 bits"
  | .notAnInteger fault => fault.message

def QuantityFault.message (text : String) (fault : QuantityFault) : String :=
  "invalid quantity '" ++ text ++ "': " ++ fault.reason

end SwarmDeploy
