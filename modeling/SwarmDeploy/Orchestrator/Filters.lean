import SwarmDeploy.Json.Value
import SwarmDeploy.LabelSet
import SwarmDeploy.Text.Utf8

/-! Filters of an engine's listings and their form in a URL. -/

namespace SwarmDeploy.Orchestrator
open Json

/-- A set of texts as an object: a member for each one, in ascending order, with the value true. -/
def setJson (values : List String) : Value :=
  .object ((LabelSet.ofList (values.map fun v => (v, ""))).toList.map fun m => (m.1, .bool true))

def filtersJson (key : String) (values : List String) : Value :=
  .object [(key, setJson values)]

def filtersText (key : String) (values : List String) : String :=
  (filtersJson key values).toText

def upperHexDigit (n : Nat) : Char :=
  if n < 10 then Char.ofNat (48 + n) else Char.ofNat (55 + n)

def isFormSafe (b : UInt8) : Bool :=
  let n := b.toNat
  (48 ≤ n && n ≤ 57) || (65 ≤ n && n ≤ 90) || (97 ≤ n && n ≤ 122) ||
    n == 0x2A || n == 0x2D || n == 0x2E || n == 0x5F

def formByte (b : UInt8) : List Char :=
  if isFormSafe b then [Char.ofNat b.toNat]
  else if b = 0x20 then ['+']
  else ['%', upperHexDigit (b.toNat / 16), upperHexDigit (b.toNat % 16)]

def formEncode (text : String) : String :=
  String.ofList ((Text.Utf8.ofString text).flatMap formByte)

end SwarmDeploy.Orchestrator
