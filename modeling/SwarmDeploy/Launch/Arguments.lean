import SwarmDeploy.Log
import SwarmDeploy.Number.IntegerText
import SwarmDeploy.Settings
import SwarmDeploy.Text.Split

/-! The arguments of a start: switches, and flags with one value each.
A value is joined to its flag or is the argument behind it, and it is read when the next argument
that is known starts. A flag that is not given may take its value from the environment. -/

namespace SwarmDeploy.Launch
open Number Text

inductive Flag where
  | config
  | dryRun
  | bindAddr
  | port
  | dockerHost
  | maxRestarts
  | restartDelay
  | envFile
  | timeout
  | maxConcurrent
  deriving DecidableEq, Repr

inductive Switch where
  | verbose
  | help
  | version
  deriving DecidableEq, Repr

inductive Item where
  | flag (f : Flag)
  | switch (s : Switch)
  deriving DecidableEq, Repr

def longNames : List (String × Item) :=
  [("config", .flag .config), ("verbose", .switch .verbose), ("dry-run", .flag .dryRun),
    ("bind-addr", .flag .bindAddr), ("port", .flag .port), ("docker-host", .flag .dockerHost),
    ("max-restarts", .flag .maxRestarts), ("restart-delay", .flag .restartDelay),
    ("env-file", .flag .envFile), ("timeout", .flag .timeout),
    ("max-concurrent", .flag .maxConcurrent), ("help", .switch .help),
    ("version", .switch .version)]

def shortNames : List (Char × Item) :=
  [('c', .flag .config), ('v', .switch .verbose), ('p', .flag .port), ('h', .switch .help),
    ('V', .switch .version)]

def fallBacks : List (Flag × String) :=
  [(.dockerHost, "DOCKER_HOST"), (.maxRestarts, "MAX_RESTARTS"),
    (.restartDelay, "RESTART_DELAY")]

inductive UsageFault where
  | unknown
  /-- A flag without its value, or with an empty path. -/
  | missingValue
  | badNumber
  | repeated
  | surplusValue
  deriving DecidableEq, Repr

inductive Stop where
  | help
  | version
  | refused (fault : UsageFault)
  deriving DecidableEq, Repr

/-- The exit code; asking for help or for the version is no error. -/
def Stop.exitCode : Stop → Nat
  | .help => 0
  | .version => 0
  | .refused _ => 2

structure Arguments where
  config : Option String := none
  /-- How often more detail is asked for, up to 255. -/
  verbose : Nat := 0
  dryRun : Option String := none
  bindAddr : Option String := none
  port : Option UInt16 := none
  dockerHost : Option String := none
  maxRestarts : Option UInt64 := none
  restartDelay : Option UInt64 := none
  envFile : Option String := none
  timeout : Option UInt64 := none
  maxConcurrent : Option UInt64 := none
  deriving DecidableEq, Repr

def pathOf (value : String) : Except Stop String :=
  if value = "" then .error (.refused .missingValue) else .ok value

def wordOf (value : String) : Except Stop UInt64 :=
  match readWord value with
  | .ok n => .ok (UInt64.ofNat n)
  | .error _ => .error (.refused .badNumber)

/-- A port may have a minus sign as long as it is zero. -/
def portOf (value : String) : Except Stop UInt16 :=
  match readSignedWord value with
  | .ok n =>
    if 0 ≤ n ∧ n < 0x10000 then .ok (UInt16.ofNat n.toNat) else .error (.refused .badNumber)
  | .error _ => .error (.refused .badNumber)

def once {α : Type} (old : Option α) (value : Except Stop α) : Except Stop (Option α) :=
  if old.isSome then .error (.refused .repeated) else value.map some

namespace Arguments

def assign (a : Arguments) (f : Flag) (value : String) : Except Stop Arguments :=
  match f with
  | .config => (once a.config (pathOf value)).map fun v => { a with config := v }
  | .dryRun => (once a.dryRun (pathOf value)).map fun v => { a with dryRun := v }
  | .bindAddr => (once a.bindAddr (.ok value)).map fun v => { a with bindAddr := v }
  | .port => (once a.port (portOf value)).map fun v => { a with port := v }
  | .dockerHost => (once a.dockerHost (.ok value)).map fun v => { a with dockerHost := v }
  | .maxRestarts => (once a.maxRestarts (wordOf value)).map fun v => { a with maxRestarts := v }
  | .restartDelay => (once a.restartDelay (wordOf value)).map fun v => { a with restartDelay := v }
  | .envFile => (once a.envFile (pathOf value)).map fun v => { a with envFile := v }
  | .timeout => (once a.timeout (wordOf value)).map fun v => { a with timeout := v }
  | .maxConcurrent =>
    (once a.maxConcurrent (wordOf value)).map fun v => { a with maxConcurrent := v }

def has (a : Arguments) : Flag → Bool
  | .config => a.config.isSome
  | .dryRun => a.dryRun.isSome
  | .bindAddr => a.bindAddr.isSome
  | .port => a.port.isSome
  | .dockerHost => a.dockerHost.isSome
  | .maxRestarts => a.maxRestarts.isSome
  | .restartDelay => a.restartDelay.isSome
  | .envFile => a.envFile.isSome
  | .timeout => a.timeout.isSome
  | .maxConcurrent => a.maxConcurrent.isSome

def turn (a : Arguments) : Switch → Except Stop Arguments
  | .verbose => .ok { a with verbose := min 255 (a.verbose + 1) }
  | .help => .error .help
  | .version => .error .version

end Arguments

inductive Pending where
  | nothing
  | awaiting (f : Flag)
  | holding (f : Flag) (value : String)
  deriving DecidableEq, Repr

structure Reading where
  arguments : Arguments := {}
  pending : Pending := .nothing
  deriving Repr

namespace Reading

def settle (r : Reading) : Except Stop Arguments :=
  match r.pending with
  | .nothing => .ok r.arguments
  | .awaiting _ => .error (.refused .missingValue)
  | .holding f value => r.arguments.assign f value

def flag (r : Reading) (f : Flag) (value : Option (List Char)) : Except Stop Reading := do
  let a ← r.settle
  match value with
  | none => .ok ⟨a, .awaiting f⟩
  | some value => (a.assign f (String.ofList value)).map fun a => ⟨a, .nothing⟩

def switch (r : Reading) (s : Switch) : Except Stop Reading := do
  let a ← r.settle
  (a.turn s).map fun a => ⟨a, .nothing⟩

def long (r : Reading) (cs : List Char) : Except Stop Reading :=
  let (name, value) :=
    match cutFirst '=' cs with
    | some (name, value) => (name, some value)
    | none => (cs, none)
  match longNames.lookup (String.ofList name) with
  | none => .error (.refused .unknown)
  | some (.flag f) => r.flag f value
  | some (.switch s) => if value.isSome then .error (.refused .surplusValue) else r.switch s

def joinedValue : List Char → Option (List Char)
  | [] => none
  | '=' :: value => some value
  | value => some value

def shorts (r : Reading) : List Char → Except Stop Reading
  | [] => .ok r
  | c :: rest =>
    match shortNames.lookup c with
    | none => .error (.refused .unknown)
    | some (.flag f) => r.flag f (joinedValue rest)
    | some (.switch s) =>
      match r.switch s with
      | .ok r => shorts r rest
      | .error stop => .error stop

def bare (r : Reading) (cs : List Char) : Except Stop Reading :=
  match r.pending with
  | .awaiting f => .ok { r with pending := .holding f (String.ofList cs) }
  | _ => .error (.refused .unknown)

def argument (r : Reading) : List Char → Except Stop Reading
  | '-' :: '-' :: cs => r.long cs
  | ['-'] => r.bare ['-']
  | '-' :: cs => r.shorts cs
  | cs => r.bare cs

/-- All arguments. Nothing may follow two hyphens that stand alone. -/
def all (r : Reading) : List String → Except Stop Arguments
  | [] => r.settle
  | text :: rest =>
    if text = "--" then
      if rest.isEmpty then r.settle else .error (.refused .unknown)
    else
      match r.argument text.toList with
      | .ok r => all r rest
      | .error stop => .error stop

end Reading

namespace Arguments

def fallBack (lookup : String → Option String) :
    List (Flag × String) → Arguments → Except Stop Arguments
  | [], a => .ok a
  | (f, name) :: rest, a =>
    match lookup name with
    | some value =>
      if a.has f then fallBack lookup rest a
      else
        match a.assign f value with
        | .ok a => fallBack lookup rest a
        | .error stop => .error stop
    | none => fallBack lookup rest a

def parse (lookup : String → Option String) (texts : List String) : Except Stop Arguments :=
  match Reading.all {} texts with
  | .ok a => fallBack lookup fallBacks a
  | .error stop => .error stop

def logLevel (a : Arguments) : Level :=
  match a.verbose with
  | 0 => .warn
  | 1 => .info
  | 2 => .debug
  | _ => .trace

def override (a : Arguments) (s : Settings) : Settings where
  server :=
    { s.server with
      bindAddr := a.bindAddr.getD s.server.bindAddr
      port := a.port.getD s.server.port
      dockerHost := a.dockerHost.getD s.server.dockerHost
      requestTimeoutSecs := a.timeout.getD s.server.requestTimeoutSecs
      maxConcurrent := a.maxConcurrent.getD s.server.maxConcurrent }
  deploy :=
    { s.deploy with
      maxRestarts := a.maxRestarts.getD s.deploy.maxRestarts
      restartDelaySecs := a.restartDelay.getD s.deploy.restartDelaySecs }

end Arguments
end SwarmDeploy.Launch
