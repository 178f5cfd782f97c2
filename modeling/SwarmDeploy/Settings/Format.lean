import SwarmDeploy.Number.IntegerText

/-! Formats of documents, as far as settings are read from them. -/

namespace SwarmDeploy
open Number

/-- How texts are read as documents, and what the parts of documents stand for. -/
structure Format where
  Part : Type
  /-- The document of a text; there may be none in it, as in an empty one. -/
  document? : String → Option (Option Part)
  entries? : Part → Option (List (Part × Part))
  items? : Part → Option (List Part)
  text? : Part → Option String
  natural? : Part → Option Nat

namespace Format

variable (format : Format)

def texts? (part : format.Part) : Option (List String) :=
  (format.items? part).bind (·.mapM format.text?)

def word? (part : format.Part) : Option UInt64 :=
  ((format.natural? part).filter (· ≤ maxWord)).map UInt64.ofNat

def short? (part : format.Part) : Option UInt16 :=
  ((format.natural? part).filter (· ≤ 0xFFFF)).map UInt16.ofNat

end Format
end SwarmDeploy
