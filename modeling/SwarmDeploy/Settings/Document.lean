import SwarmDeploy.Json.Value
import SwarmDeploy.Settings
import SwarmDeploy.Text.Blank
import SwarmDeploy.Text.Split
import SwarmDeploy.Yaml.Format

/-! Settings as documents: read from a format, which is YAML for the program, and written as JSON.
A document need not name every setting, and what it does not name keeps its default. Names that are
no settings are passed over, but a setting must not be given twice. -/

namespace SwarmDeploy
open Json (Value)
open Text

/-- A field of settings, as documents name it. -/
structure Field (α : Type) where
  name : String
  write : α → Value
  read (format : Format) : format.Part → α → Option α

namespace Field

variable {α : Type}

def text (name : String) (get : α → String) (set : String → α → α) : Field α where
  name := name
  write a := .text (get a)
  read format part a := (format.text? part).map (set · a)

def texts (name : String) (get : α → List String) (set : List String → α → α) : Field α where
  name := name
  write a := .list ((get a).map .text)
  read format part a := (format.texts? part).map (set · a)

def word (name : String) (get : α → UInt64) (set : UInt64 → α → α) : Field α where
  name := name
  write a := .int (get a).toNat
  read format part a := (format.word? part).map (set · a)

def short (name : String) (get : α → UInt16) (set : UInt16 → α → α) : Field α where
  name := name
  write a := .int (get a).toNat
  read format part a := (format.short? part).map (set · a)

end Field

section
variable {α : Type} (fields : List (Field α))

def writeFields (a : α) : Value :=
  .object (fields.map fun f => (f.name, f.write a))

variable (format : Format)

/-- Reads the entries of a mapping over `a`; `seen` holds the fields that have been read. -/
def readEntries : List String → List (format.Part × format.Part) → α → Option α
  | _, [], a => some a
  | seen, (key, value) :: rest, a => do
    let key ← format.text? key
    match fields.find? (·.name == key) with
    | none => readEntries seen rest a
    | some f =>
      if seen.contains key then none
      else readEntries (key :: seen) rest (← f.read format value a)

def readFields (a : α) (part : format.Part) : Option α :=
  (format.entries? part).bind fun entries => readEntries fields format [] entries a

end

def ServerSettings.fields : List (Field ServerSettings) :=
  [.text "bind-addr" bindAddr fun v s => { s with bindAddr := v },
    .short "port" port fun v s => { s with port := v },
    .text "docker-host" dockerHost fun v s => { s with dockerHost := v },
    .text "docker-api-version" dockerApiVersion fun v s => { s with dockerApiVersion := v },
    .word "request-timeout-secs" requestTimeoutSecs
      fun v s => { s with requestTimeoutSecs := v },
    .word "max-concurrent" maxConcurrent fun v s => { s with maxConcurrent := v }]

def DeploySettings.fields : List (Field DeploySettings) :=
  [.word "max-restarts" maxRestarts fun v s => { s with maxRestarts := v },
    .word "restart-delay-secs" restartDelaySecs fun v s => { s with restartDelaySecs := v },
    .text "default-registry-namespace" defaultRegistryNamespace
      fun v s => { s with defaultRegistryNamespace := v },
    .text "annotation-prefix" annotationPrefix fun v s => { s with annotationPrefix := v },
    .text "function-label" functionLabel fun v s => { s with functionLabel := v },
    .text "scale-min-label" scaleMinLabel fun v s => { s with scaleMinLabel := v },
    .text "network-label" networkLabel fun v s => { s with networkLabel := v },
    .texts "fallback-constraints" fallbackConstraints
      fun v s => { s with fallbackConstraints := v },
    .text "read-only-tmpfs-target" readOnlyTmpfsTarget
      fun v s => { s with readOnlyTmpfsTarget := v },
    .text "env-process-key" envProcessKey fun v s => { s with envProcessKey := v },
    .text "secret-mount-dir" secretMountDir fun v s => { s with secretMountDir := v }]

namespace Settings

def fields : List (Field Settings) :=
  [{ name := "server"
     write s := writeFields ServerSettings.fields s.server
     read format part s :=
      (readFields ServerSettings.fields format {} part).map fun v => { s with server := v } },
   { name := "deploy"
     write s := writeFields DeploySettings.fields s.deploy
     read format part s :=
      (readFields DeploySettings.fields format {} part).map fun v => { s with deploy := v } }]

def toJson (s : Settings) : Value :=
  writeFields fields s

def ofDocument (format : Format) : Option format.Part → Option Settings
  | none => some {}
  | some part => readFields fields format {} part

/-- The settings of a text; blanks alone are the defaults. -/
def parse (text : String) (format : Format := Yaml.format) : Option Settings :=
  if (trim text.toList).isEmpty then some {}
  else (format.document? text).bind (ofDocument format)

end Settings
end SwarmDeploy
