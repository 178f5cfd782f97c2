import SwarmDeploy.Launch.Start
import SwarmDeploy.Proofs.Launch.Arguments
import SwarmDeploy.Proofs.Launch.EnvFile
import SwarmDeploy.Proofs.Settings.Document

/-! The settings that a start is made with.
A flag counts before a variable of the process, this before one of the file of variables, and all
of them before the document. What none of them sets has its default. -/

namespace SwarmDeploy.Launch

variable {α : Type} {format : Format}

/-- What one source has for a setting: nothing, or something that may be no value for it. -/
abbrev Layer (α : Type) : Type := Option (Option α)

/-- What the first layer that is there has, or else the default. -/
def topmost : List (Layer α) → α → Option α
  | [], default => some default
  | layer :: layers, default => layer.getD (topmost layers default)

def textLayer (read : String → Except Stop α) (text : Option String) : Layer α :=
  text.map fun t => (read t).toOption

theorem topmost_given (given : Option α) {layer : Layer α} {default value : α}
    (below : topmost [layer] default = some value) :
    topmost [given.map some, layer] default = some (given.getD value) := by
  cases given with
  | none => exact below
  | some v => rfl

theorem topmost_filled {given filled : Option α} {read : String → Except Stop α}
    {process file : Option String} (fills : Filled given read (process.or file) filled)
    {layer : Layer α} {default value : α} (below : topmost [layer] default = some value) :
    topmost [given.map some, textLayer read process, textLayer read file, layer] default =
      some (filled.getD value) := by
  have only : topmost [given.map some, textLayer read process, textLayer read file, layer]
      default = topmost [filled.map some, layer] default := by
    rw [topmost, topmost, topmost, topmost, ← fills]
    cases given with
    | some v => rfl
    | none => cases process <;> rfl
  rw [only, topmost_given filled below]

structure Sources (format : Format) where
  flags : Arguments
  process : Environment
  file : Environment
  document : Option format.Part

namespace Sources

def server (src : Sources format) (name : String) (value : format.Part → Option α) : Layer α :=
  (format.written? src.document "server" name).map value

def deploy (src : Sources format) (name : String) (value : format.Part → Option α) : Layer α :=
  (format.written? src.document "deploy" name).map value

end Sources

/-- Each setting is the one of the topmost source that has it. -/
structure InEffect (src : Sources format) (s : Settings) : Prop where
  bindAddr : topmost [src.flags.bindAddr.map some, src.server "bind-addr" format.text?]
    ({} : ServerSettings).bindAddr = some s.server.bindAddr
  port : topmost [src.flags.port.map some, src.server "port" format.short?]
    ({} : ServerSettings).port = some s.server.port
  dockerHost : topmost [src.flags.dockerHost.map some,
      textLayer .ok (src.process.get? "DOCKER_HOST"), textLayer .ok (src.file.get? "DOCKER_HOST"),
      src.server "docker-host" format.text?]
    ({} : ServerSettings).dockerHost = some s.server.dockerHost
  dockerApiVersion : topmost [src.server "docker-api-version" format.text?]
    ({} : ServerSettings).dockerApiVersion = some s.server.dockerApiVersion
  requestTimeoutSecs : topmost [src.flags.timeout.map some,
      src.server "request-timeout-secs" format.word?]
    ({} : ServerSettings).requestTimeoutSecs = some s.server.requestTimeoutSecs
  maxConcurrent : topmost [src.flags.maxConcurrent.map some,
      src.server "max-concurrent" format.word?]
    ({} : ServerSettings).maxConcurrent = some s.server.maxConcurrent
  maxRestarts : topmost [src.flags.maxRestarts.map some,
      textLayer wordOf (src.process.get? "MAX_RESTARTS"),
      textLayer wordOf (src.file.get? "MAX_RESTARTS"), src.deploy "max-restarts" format.word?]
    ({} : DeploySettings).maxRestarts = some s.deploy.maxRestarts
  restartDelaySecs : topmost [src.flags.restartDelay.map some,
      textLayer wordOf (src.process.get? "RESTART_DELAY"),
      textLayer wordOf (src.file.get? "RESTART_DELAY"),
      src.deploy "restart-delay-secs" format.word?]
    ({} : DeploySettings).restartDelaySecs = some s.deploy.restartDelaySecs
  defaultRegistryNamespace : topmost [src.deploy "default-registry-namespace" format.text?]
    ({} : DeploySettings).defaultRegistryNamespace = some s.deploy.defaultRegistryNamespace
  annotationPrefix : topmost [src.deploy "annotation-prefix" format.text?]
    ({} : DeploySettings).annotationPrefix = some s.deploy.annotationPrefix
  functionLabel : topmost [src.deploy "function-label" format.text?]
    ({} : DeploySettings).functionLabel = some s.deploy.functionLabel
  scaleMinLabel : topmost [src.deploy "scale-min-label" format.text?]
    ({} : DeploySettings).scaleMinLabel = some s.deploy.scaleMinLabel
  networkLabel : topmost [src.deploy "network-label" format.text?]
    ({} : DeploySettings).networkLabel = some s.deploy.networkLabel
  fallbackConstraints : topmost [src.deploy "fallback-constraints" format.texts?]
    ({} : DeploySettings).fallbackConstraints = some s.deploy.fallbackConstraints
  readOnlyTmpfsTarget : topmost [src.deploy "read-only-tmpfs-target" format.text?]
    ({} : DeploySettings).readOnlyTmpfsTarget = some s.deploy.readOnlyTmpfsTarget
  envProcessKey : topmost [src.deploy "env-process-key" format.text?]
    ({} : DeploySettings).envProcessKey = some s.deploy.envProcessKey
  secretMountDir : topmost [src.deploy "secret-mount-dir" format.text?]
    ({} : DeploySettings).secretMountDir = some s.deploy.secretMountDir

section
variable {src : Sources format} {s : Settings}

theorem topmost_server (read : Settings.ofDocument format src.document = some s) {name : String}
    {value : format.Part → Option α} {get : ServerSettings → α}
    (owns : Owns ServerSettings.fields name value get := by
      constructor
      · decide
      · simp only [ServerSettings.fields, List.forall_mem_cons, Field.law_text, Field.law_word,
          Field.law_short, String.reduceEq, if_true, if_false, imp_self, implies_true, and_true,
          List.not_mem_nil, false_implies]) :
    topmost [src.server name value] (get {}) = some (get s.server) :=
  get_ofDocument owns_server rfl owns read

theorem topmost_deploy (read : Settings.ofDocument format src.document = some s) {name : String}
    {value : format.Part → Option α} {get : DeploySettings → α}
    (owns : Owns DeploySettings.fields name value get := by
      constructor
      · decide
      · simp only [DeploySettings.fields, List.forall_mem_cons, Field.law_text, Field.law_word,
          Field.law_texts, String.reduceEq, if_true, if_false, imp_self, implies_true, and_true,
          List.not_mem_nil, false_implies]) :
    topmost [src.deploy name value] (get {}) = some (get s.deploy) :=
  get_ofDocument owns_deploy rfl owns read

theorem inEffect_override {b : Arguments}
    (fallsBack : Arguments.FallsBack (src.process ++ src.file).get? src.flags b)
    (read : Settings.ofDocument format src.document = some s) : InEffect src (b.override s) := by
  obtain ⟨host, restarts, delay⟩ := fallsBack
  rw [Environment.get?_append] at host restarts delay
  exact {
    bindAddr := topmost_given _ (topmost_server read)
    port := topmost_given _ (topmost_server read)
    dockerHost := topmost_filled host (topmost_server read)
    dockerApiVersion := topmost_server read
    requestTimeoutSecs := topmost_given _ (topmost_server read)
    maxConcurrent := topmost_given _ (topmost_server read)
    maxRestarts := topmost_filled restarts (topmost_deploy read)
    restartDelaySecs := topmost_filled delay (topmost_deploy read)
    defaultRegistryNamespace := topmost_deploy read
    annotationPrefix := topmost_deploy read
    functionLabel := topmost_deploy read
    scaleMinLabel := topmost_deploy read
    networkLabel := topmost_deploy read
    fallbackConstraints := topmost_deploy read
    readOnlyTmpfsTarget := topmost_deploy read
    envProcessKey := topmost_deploy read
    secretMountDir := topmost_deploy read }

end

section
variable {machine : Machine Id} {process : Environment} {texts : List String} {a b : Arguments}
  {added : Environment} {document : Option format.Part} {s : Settings}

def Adds (machine : Machine Id) (process : Environment) (a : Arguments) (added : Environment) :
    Prop :=
  match a.envFile with
  | none => added = []
  | some path => ∃ file, machine.readText path = .ok file ∧
      EnvFile.assignments process (EnvFile.linesOf file) = .ok added

/-- The document of a text; blanks alone are none. -/
def documentOf (format : Format) (text : String) : Option (Option format.Part) :=
  if (Text.trim text.toList).isEmpty then some none else format.document? text

theorem parse_settings (text : String) :
    Settings.parse text format = (documentOf format text).bind (Settings.ofDocument format) := by
  unfold Settings.parse documentOf
  split <;> rfl

def Documents (machine : Machine Id) (env : Environment) (b : Arguments)
    (document : Option format.Part) : Prop :=
  match b.config with
  | none => document = none
  | some path => ∃ file,
      machine.readText (expandHome (homeDirectory machine env) path) = .ok file ∧
        documentOf format (String.ofList file) = some document

theorem withEnvFile_eq (first : Arguments.parse process.get? texts = .ok a)
    (adds : Adds machine process a added)
    (second : Arguments.parse (process ++ added).get? texts = .ok b) :
    withEnvFile machine process texts a = .ok (process ++ added, b) := by
  unfold Adds at adds
  unfold withEnvFile
  cases named : a.envFile with
  | none =>
    rw [named] at adds
    subst adds
    rw [List.append_nil] at second ⊢
    rw [first] at second
    cases second
    rfl
  | some path =>
    rw [named] at adds
    obtain ⟨file, read, assigned⟩ := adds
    have loads : process.load file = .ok (process ++ added) :=
      Environment.load_eq_ok_iff.2 ⟨added, assigned, rfl⟩
    simp only [bind, pure, read, loads, second]

theorem fileSettings_eq {env : Environment} (documents : Documents machine env b document)
    (settled : Settings.ofDocument format document = some s) :
    fileSettings machine env b format = .ok s := by
  unfold Documents at documents
  unfold fileSettings
  cases named : b.config with
  | none =>
    rw [named] at documents
    subst documents
    cases settled
    rfl
  | some path =>
    rw [named] at documents
    obtain ⟨file, read, document⟩ := documents
    have parsed : Settings.parse (String.ofList file) format = some s := by
      rw [parse_settings, document]
      exact settled
    simp only [bind, pure, read, parsed]

theorem configure_eq (first : Arguments.parse process.get? texts = .ok a)
    (adds : Adds machine process a added)
    (second : Arguments.parse (process ++ added).get? texts = .ok b)
    (documents : Documents machine (process ++ added) b document)
    (settled : Settings.ofDocument format document = some s) :
    configure machine process texts a format = .ok (b, b.override s) := by
  unfold configure
  simp only [bind, pure, withEnvFile_eq first adds second, fileSettings_eq documents settled]

/-- Where the files that are named can be used, a start is made with settings each of which is
that of the topmost source that has it. -/
theorem start_takes_settings_in_effect (first : Arguments.parse process.get? texts = .ok a)
    (adds : Adds machine process a added)
    (second : Arguments.parse (process ++ added).get? texts = .ok b)
    (documents : Documents machine (process ++ added) b document)
    (settled : Settings.ofDocument format document = some s) :
    ∃ flags settings, Arguments.parse (fun _ => none) texts = .ok flags ∧
      configure machine process texts a format = .ok (b, settings) ∧
      start machine process texts format =
        (work machine b settings).finish (logFilter process a) ∧
      InEffect ⟨flags, process, added, document⟩ settings := by
  obtain ⟨flags, given, fallsBack⟩ := Arguments.fallsBack_of_parse second
  have configured := configure_eq first adds second documents settled
  refine ⟨flags, b.override s, given, configured, ?_, inEffect_override fallsBack settled⟩
  unfold start
  simp only [first, bind, pure, configured]

end

def variablesText : String := "DOCKER_HOST=tcp://file:2375\nMAX_RESTARTS=7\n"

def documentText : String :=
  "%YAML 1.2\n---\nserver:\n  port: &port 9090\n  max-concurrent: *port\n" ++
    "deploy:\n  max-restarts: !!int 3\n"

def stockedMachine : Machine Id :=
  .ofFiles [("variables", Text.Utf8.ofString variablesText),
    ("settings", Text.Utf8.ofString documentText)] "no network"

def stockedTexts : List String := ["--env-file", "variables", "-c", "settings", "--timeout=9"]

def stocked : Sources Yaml.format where
  flags := { config := some "settings", envFile := some "variables", timeout := some 9 }
  process := [("DOCKER_HOST", "tcp://process:2375")]
  file := [("DOCKER_HOST", "tcp://file:2375"), ("MAX_RESTARTS", "7")]
  document := (documentOf Yaml.format documentText).getD none

def stockedArguments (restarts : Option UInt64) : Arguments :=
  { stocked.flags with dockerHost := some "tcp://process:2375", maxRestarts := restarts }

theorem stocked_adds :
    Adds stockedMachine stocked.process (stockedArguments none) stocked.file := by
  have read : @Eq (Except FileFault (List Char)) (stockedMachine.readText "variables")
      (.ok variablesText.toList) := by
    decide +kernel
  exact ⟨variablesText.toList, read, by decide +kernel⟩

theorem documentOf_documentText : documentOf Yaml.format documentText = some stocked.document := by
  have parses : (documentOf Yaml.format documentText).isSome = true := by decide +kernel
  obtain ⟨document, parsed⟩ := Option.isSome_iff_exists.1 parses
  rw [stocked, parsed, Option.getD_some]

theorem stocked_documents : Documents stockedMachine (stocked.process ++ stocked.file)
    (stockedArguments (some 7)) stocked.document := by
  have read : @Eq (Except FileFault (List Char)) (stockedMachine.readText "settings")
      (.ok documentText.toList) := by
    decide +kernel
  refine ⟨documentText.toList, read, ?_⟩
  rw [String.ofList_toList]
  exact documentOf_documentText

/-- The timeout is that of the flag, the host that of the process, the number of restarts that of
the file of variables, the port and what refers to it are those of the document, and the delay is
the default. -/
theorem stocked_start : ∃ a b settings,
    Arguments.parse stocked.process.get? stockedTexts = .ok a ∧
    configure stockedMachine stocked.process stockedTexts a = .ok (b, settings) ∧
    settings.server.requestTimeoutSecs = 9 ∧ settings.server.dockerHost = "tcp://process:2375" ∧
    settings.deploy.maxRestarts = 7 ∧ settings.server.port = 9090 ∧
    settings.server.maxConcurrent = 9090 ∧ settings.deploy.restartDelaySecs = 5 := by
  have first : Arguments.parse stocked.process.get? stockedTexts = .ok (stockedArguments none) := by
    decide +kernel
  have second : Arguments.parse (stocked.process ++ stocked.file).get? stockedTexts =
      .ok (stockedArguments (some 7)) := by
    decide +kernel
  have settled : Settings.ofDocument Yaml.format stocked.document =
      some { server := { port := 9090, maxConcurrent := 9090 },
             deploy := { maxRestarts := 3 } } := by
    decide +kernel
  obtain ⟨flags, settings, parsed, configured, -, effect⟩ :=
    start_takes_settings_in_effect first stocked_adds second stocked_documents settled
  have same : Arguments.parse (fun _ => none) stockedTexts = .ok stocked.flags := by
    decide +kernel
  rw [same] at parsed
  obtain rfl := Except.ok.inj parsed
  exact ⟨_, _, settings, first, configured,
    Option.some.inj (effect.requestTimeoutSecs.symm.trans (by decide +kernel)),
    Option.some.inj (effect.dockerHost.symm.trans (by decide +kernel)),
    Option.some.inj (effect.maxRestarts.symm.trans (by decide +kernel)),
    Option.some.inj (effect.port.symm.trans (by decide +kernel)),
    Option.some.inj (effect.maxConcurrent.symm.trans (by decide +kernel)),
    Option.some.inj (effect.restartDelaySecs.symm.trans (by decide +kernel))⟩

end SwarmDeploy.Launch
