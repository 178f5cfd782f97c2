import SwarmDeploy.Quantity.Fault

/-! CPU shares: signed integers of 64 bits that count billionths of one CPU. -/

namespace SwarmDeploy.Cpu

def parse (text : String) : Except QuantityFault Int :=
  (Number.readSignedWord text).mapError .notAnInteger

end SwarmDeploy.Cpu
