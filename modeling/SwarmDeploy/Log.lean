/-! Log events. -/

namespace SwarmDeploy

inductive Level where
  | error
  | warn
  | info
  | debug
  | trace
  deriving DecidableEq, Repr

def Level.name : Level → String
  | .error => "ERROR"
  | .warn => "WARN"
  | .info => "INFO"
  | .debug => "DEBUG"
  | .trace => "TRACE"

def Level.keyword : Level → String
  | .error => "error"
  | .warn => "warn"
  | .info => "info"
  | .debug => "debug"
  | .trace => "trace"

/-- How much detail a level adds; the most important level has the least. -/
def Level.detail : Level → Nat
  | .error => 1
  | .warn => 2
  | .info => 3
  | .debug => 4
  | .trace => 5

inductive Source where
  | program
  | diagnostics
  | deployment
  | engine
  | server
  deriving DecidableEq, Repr

def Source.name : Source → String
  | .program => "fnswarm"
  | .diagnostics => "fnswarm::deploy::diagnostics"
  | .deployment => "fnswarm::deploy::deployer"
  | .engine => "fnswarm::orchestrator::docker"
  | .server => "fnswarm::server::handlers"

structure Event where
  level : Level
  source : Source
  text : String
  deriving DecidableEq, Repr

def Event.line (e : Event) : String :=
  e.level.name ++ " " ++ e.text

end SwarmDeploy
