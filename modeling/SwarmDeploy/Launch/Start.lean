import SwarmDeploy.Launch.Arguments
import SwarmDeploy.Launch.DryRun
import SwarmDeploy.Launch.EnvFile
import SwarmDeploy.Launch.LogFilter
import SwarmDeploy.Launch.Machine
import SwarmDeploy.Orchestrator.Engine
import SwarmDeploy.Server.Router
import SwarmDeploy.Settings.Document

/-! The start of the program: its settings come from arguments, variables and files, and then it
either compiles one request and reports, or serves. -/

namespace SwarmDeploy

def Registry.AuthError.causes : Registry.AuthError → List String
  | .invalidReference error => [error.message]
  | _ => []

def DeployError.causes : DeployError → List String
  | .registryAuth error => error.message :: error.causes
  | .labels conflict => [conflict.message]
  | .serviceCreate failure => [failure.message]
  | _ => []

def DeployError.account (error : DeployError) : String :=
  ": ".intercalate (error.message :: error.causes)

namespace Launch

inductive EnvFileFault where
  | unreadable (fault : FileFault)
  | malformed (fault : EnvFault)
  deriving DecidableEq, Repr

def EnvFileFault.message : EnvFileFault → String
  | .unreadable fault => fault.message
  | .malformed fault => fault.message

inductive SettingsFault where
  | unreadable (fault : FileFault)
  | malformed
  deriving DecidableEq, Repr

def SettingsFault.message : SettingsFault → String
  | .unreadable fault => "Failed to read file: " ++ fault.message
  | .malformed => "Config parse error: no settings in this form"

inductive DryRunFault where
  | unreadable (path : String) (fault : FileFault)
  | rejected (error : DeployError)
  deriving DecidableEq, Repr

def DryRunFault.message : DryRunFault → String
  | .unreadable path fault => "reading " ++ path ++ ": " ++ fault.message
  | .rejected error => error.account

inductive StartError where
  | stop (reason : Stop)
  | envFile (path : String) (fault : EnvFileFault)
  | notSettable (name : String)
  | settingsFile (path : String) (fault : SettingsFault)
  | dryRun (fault : DryRunFault)
  | engine (failure : Orchestrator.Failure)
  /-- More deployments at a time than a server can be built for. -/
  | tooConcurrent
  | listener (address reason : String)
  deriving DecidableEq, Repr

namespace StartError

def event (error : StartError) : Option Event :=
  let logged (text : String) : Option Event := some ⟨.error, .program, text⟩
  match error with
  | .stop _ | .notSettable _ | .tooConcurrent => none
  | .envFile path fault => logged ("Failed to load env file " ++ path ++ ": " ++ fault.message)
  | .settingsFile path fault =>
    logged ("Failed to load config file " ++ path ++ ": " ++ fault.message)
  | .dryRun fault => logged ("Dry run failed: " ++ fault.message)
  | .engine failure => logged ("creating Docker client: " ++ failure.message)
  | .listener address reason => logged ("Failed to bind to " ++ address ++ ": " ++ reason)

def printed : StartError → String
  | .stop Stop.version => line (programName ++ " " ++ version)
  | _ => ""

def exitCode : StartError → Nat
  | .stop reason => reason.exitCode
  | .notSettable _ | .tooConcurrent => 101
  | _ => 1

end StartError

def filterVariable : String := "RUST_LOG"

def logFilter (env : Environment) (a : Arguments) : LogFilter :=
  ((env.get? filterVariable).bind LogFilter.read).getD (.upTo a.logLevel)

/-- A path with the home directory, if there is one, in the place of a tilde in front. -/
def expandHome (home : Option String) (path : String) : String :=
  match path.toList, home with
  | ['~'], some home => home
  | '~' :: '/' :: rest, some home => home ++ String.ofList ('/' :: rest)
  | _, _ => path

section
variable {m : Type → Type} [Monad m]

/-- The home directory: the one that a variable gives, or else the one on record. -/
def homeDirectory (machine : Machine m) (env : Environment) : m (Option String) :=
  match (env.get? "HOME").filter (· ≠ "") with
  | some home => pure (some home)
  | none => machine.userHome

def withEnvFile (machine : Machine m) (env : Environment) (texts : List String) (a : Arguments) :
    m (Except StartError (Environment × Arguments)) :=
  match a.envFile with
  | none => pure (.ok (env, a))
  | some path => do
    match ← machine.readText path with
    | .error fault => pure (.error (.envFile path (.unreadable fault)))
    | .ok file =>
      match env.load file with
      | .error (.malformed fault) => pure (.error (.envFile path (.malformed fault)))
      | .error (.notSettable name) => pure (.error (.notSettable name))
      | .ok env =>
        match Arguments.parse env.get? texts with
        | .error stop => pure (.error (.stop stop))
        | .ok a => pure (.ok (env, a))

def fileSettings (machine : Machine m) (env : Environment) (a : Arguments)
    (format : Format := Yaml.format) : m (Except StartError Settings) :=
  match a.config with
  | none => pure (.ok {})
  | some path => do
    let home ← homeDirectory machine env
    match ← machine.readText (expandHome home path) with
    | .error fault => pure (.error (.settingsFile path (.unreadable fault)))
    | .ok file =>
      match Settings.parse (String.ofList file) format with
      | none => pure (.error (.settingsFile path .malformed))
      | some settings => pure (.ok settings)

def configure (machine : Machine m) (env : Environment) (texts : List String) (a : Arguments)
    (format : Format := Yaml.format) : m (Except StartError (Arguments × Settings)) := do
  match ← withEnvFile machine env texts a with
  | .error error => pure (.error error)
  | .ok (env, a) =>
    match ← fileSettings machine env a format with
    | .error error => pure (.error error)
    | .ok settings => pure (.ok (a, a.override settings))

/-- What came of some work: its log, what it printed, and the error that ended it, if any. -/
structure Work where
  log : List Event := []
  printed : String := ""
  error : Option StartError := none
  deriving Repr

def dryRun (machine : Machine m) (settings : DeploySettings) (path : String) : m Work := do
  match ← machine.readFile path with
  | .error fault => pure { error := some (.dryRun (.unreadable path fault)) }
  | .ok body =>
    match Deployment.readRequest body with
    | .error error => pure { error := some (.dryRun (.rejected error)) }
    | .ok r =>
      match Deployment.preview settings r with
      | .error error => pure { error := some (.dryRun (.rejected error)) }
      | .ok (compiled, options) =>
        pure { log := compiled.notes.log, printed := line (report r compiled options) }

def serve (machine : Machine m) (settings : ServerSettings) : m Work :=
  match Orchestrator.Engine.ofHost settings.dockerHost settings.dockerApiVersion with
  | .error failure => pure { error := some (.engine failure) }
  | .ok engine => do
    let log := [⟨.info, .program, "Using Docker Engine at " ++ engine.baseUrl⟩]
    if Server.maxConcurrency < Server.concurrencyLimit (some settings.maxConcurrent.toNat) then
      pure { log, error := some .tooConcurrent }
    else
      let address := settings.bindAddr ++ ":" ++ toString settings.port.toNat
      pure { log, error := some (.listener address (← machine.listen address)) }

def work (machine : Machine m) (a : Arguments) (settings : Settings) : m Work :=
  match a.dryRun with
  | some path => dryRun machine settings.deploy path
  | none => serve machine settings.server

structure Finish where
  output : String
  exitCode : Nat
  deriving DecidableEq, Repr

def Work.finish (filter : LogFilter) (w : Work) : Finish :=
  match w.error with
  | none => ⟨filter.lines w.log ++ w.printed, 0⟩
  | some error =>
    ⟨filter.lines (w.log ++ error.event.toList) ++ w.printed ++ error.printed, error.exitCode⟩

def start (machine : Machine m) (env : Environment) (texts : List String)
    (format : Format := Yaml.format) : m Finish :=
  match Arguments.parse env.get? texts with
  | .error stop => pure (Work.finish [] { error := some (.stop stop) })
  | .ok a => do
    let filter := logFilter env a
    match ← configure machine env texts a format with
    | .error error => pure (Work.finish filter { error := some error })
    | .ok (a, settings) => pure ((← work machine a settings).finish filter)

end
end Launch
end SwarmDeploy
