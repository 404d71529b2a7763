import Conformance.Config.Source
import Conformance.Schema.Registry
import Conformance.Report.Audit
import Conformance.Run.Matrix
import Conformance.Run.Request
/-!
# Commands

What the program answers to its arguments, given its surroundings: the files, the environment, how targets
answer, and the clock. A command that ran exits with the status of its run; one that could not run
exits with 3 and says why. Arguments, settings, URLs, JSON texts and schemas are read by libraries.
-/

namespace Conformance

/-! ## What a run needs

The schemas a configuration names and the place its audit log goes to. Both are taken from the directory of
the configuration.
-/

section Schemas
variable [JsonLibrary] [SchemaLibrary]

/-- Adds the schemas of catalog entries to a registry, in catalog order. -/
def SchemaRegistry.addAll (disk : Disk) (c : Config) (r : SchemaRegistry) :
    List ResourceEntry → Except SchemaError SchemaRegistry
  | [] => .ok r
  | e :: rest =>
    match e.schema with
    | none => addAll disk c r rest
    | some schema => do
      let document ← load disk (c.resolve schema)
      let r ← r.insert e.path schema document
      addAll disk c r rest

/-- The schemas a configuration names, each under the name it is configured by. -/
def SchemaRegistry.ofConfig (disk : Disk) (c : Config) : Except SchemaError SchemaRegistry :=
  addAll disk c empty c.resources

end Schemas

/-- Where audit events go. -/
inductive AuditSink where
  | stderr
  | file (path : String)
  | off
deriving DecidableEq, Repr

/-- Opens the audit log of a configuration. -/
def AuditSink.ofConfig (disk : Disk) (c : Config) : Except FileError AuditSink :=
  match c.audit.mode, c.audit.path with
  | .stderr, _ => .ok .stderr
  | .off, _ => .ok .off
  | .file, none => .error (.other "audit.path is required in file mode")
  | .file, some path => (disk.appendable (c.resolve path)).map fun _ => .file (c.resolve path)

/-- Replays scenarios, each on a fresh page. -/
def Config.replayAll (c : Config) : List ScenarioVerdict := c.scenarios.map fun s => s.run c.roster

/-! ## Surroundings -/

/-- Asks a target for a path with a verb. -/
abbrev Transport := Verb → String → Exchange

/-- A library that reads the arguments of the program, or says what is wrong with them. No law is asked of it. -/
class ArgumentLibrary where
  read : List String → Except String Request

/-- What a program finds around it. -/
structure Surroundings where
  disk : Disk
  environment : Environment
  /-- how a target answers, given its base URL and the time an exchange may take -/
  transport : WebUrl → UInt64 → Transport
  /-- the time in milliseconds -/
  now : Nat

/-- What a program leaves behind. -/
structure Answer where
  exit : UInt8
  stdout : String
  stderr : String
  /-- a file with the text to be added to it -/
  appended : Option (String × String)
deriving DecidableEq, Repr

/-! ## Errors -/

/-- Why a command could not run. -/
inductive CommandError where
  | config (error : ConfigError)
  | environment (error : VariableError)
  | override (fault : ConfigFault)
  | schema (error : SchemaError)
  | audit (path : String) (error : FileError)
deriving DecidableEq, Repr

def CommandError.text : CommandError → String
  | .config error => Wording.translate "config.load_failed" [("error", error.text)]
  | .environment error =>
    Wording.translate "config.env_failed" [("error", (ConfigError.environment error).text)]
  | .override fault =>
    Wording.translate "config.override_failed" [("error", (ConfigError.invalid fault).text)]
  | .schema error => Wording.translate "schema.load_failed" [("error", error.text)]
  | .audit path error =>
    Wording.translate "audit.open_failed" [("path", path), ("error", error.text)]

namespace Program

/-- The exit code of a command that could not run. -/
def errorCode : UInt8 := 3

/-- The version of the program. -/
def version : String := "0.1.0"

/-- Prints one text as a line. -/
def printed (line : String) : Answer := ⟨0, line ++ "\n", "", none⟩

/-! ## Parts of commands -/

/-- The configuration: what the file says, overridden by the environment, overridden by the option. -/
def configuration [SettingsLibrary] [UrlLibrary] (s : Surroundings) (o : Options) : Except CommandError Config := do
  let c ← (Config.load s.disk o.config s.environment).mapError .config
  let overrides ← s.environment.overrides.mapError .environment
  let c := c.override overrides
  let c := match o.baseUrl with
    | none => c
    | some url => { c with target := { c.target with baseUrl := Text.trim url } }
  match c.fault? with
  | none => return c
  | some fault => throw (.override fault)

/-- Opens the audit log. -/
def openAudit (s : Surroundings) (c : Config) : Except CommandError AuditSink :=
  (AuditSink.ofConfig s.disk c).mapError (.audit (c.audit.path.getD ""))

/-- Ends a run: its events go to the audit log, its results are printed, and its status is the exit
code. -/
def finish (s : Surroundings) (sink : AuditSink) (label : String) (r : Results) (f : Format) : Answer :=
  let log := AuditEvent.log s.now (r.events label)
  { exit := r.summary.status.exitCode
    stdout := r.render f ++ "\n"
    stderr := if sink = .stderr then log else ""
    appended := match sink with
      | .file path => some (path, log)
      | _ => none }

/-! ## Commands -/

section Commands
variable [SettingsLibrary] [UrlLibrary]

/-- Prints the plan. -/
def plan (s : Surroundings) (o : Options) : Except CommandError Answer := do
  let c ← configuration s o
  return printed (renderPlan c.plan (o.format.getD .text))

/-- Exercises the target and judges its answers. -/
def run [JsonLibrary] [SchemaLibrary] (s : Surroundings) (o : Options) : Except CommandError Answer := do
  let c ← configuration s o
  let url ← c.target.url.mapError fun fault => .override (.baseUrl fault)
  let schemas ← (SchemaRegistry.ofConfig s.disk c).mapError .schema
  let sink ← openAudit s c
  let checks := c.plan.toArray
  let exchange (i : Nat) : Exchange :=
    match checks[i]? with
    | some check => s.transport url c.target.timeoutMs check.verb check.resource.path
    | none => .died
  let verdicts := Matrix.run c.target.maxConcurrency.toNat c.plan schemas.validator exchange
  return finish s sink "matrix run" ⟨verdicts, []⟩ (o.format.getD .text)

/-- Replays the scenarios. -/
def workflow (s : Surroundings) (o : Options) : Except CommandError Answer := do
  let c ← configuration s o
  let sink ← openAudit s c
  return finish s sink "workflow run" ⟨[], c.replayAll⟩ (o.format.getD .text)

/-- Says what a configuration holds. -/
def validate (s : Surroundings) (o : Options) : Except CommandError Answer := do
  let c ← configuration s o
  return printed (Wording.translate "config.validate.ok" [
    Wording.count "resources" c.catalog.length,
    Wording.count "checks" c.plan.length,
    Wording.count "scenarios" c.scenarios.length])

/-- Carries out a subcommand. -/
def perform [JsonLibrary] [SchemaLibrary] (s : Surroundings) (o : Options) :
    Subcommand → Except CommandError Answer
  | .plan => plan s o
  | .run => run s o
  | .workflow => workflow s o
  | .validate => validate s o

/-- The answer of the program to its arguments. -/
def answer [JsonLibrary] [SchemaLibrary] [ArgumentLibrary] (s : Surroundings) (arguments : List String) :
    Answer :=
  match ArgumentLibrary.read arguments with
  | .error message => ⟨errorCode, "", message, none⟩
  | .ok (.help text) => ⟨0, text, "", none⟩
  | .ok .version => printed (Wording.translate "main.version" [("version", version)])
  | .ok (.perform subcommand options) =>
    match perform s options subcommand with
    | .ok answer => answer
    | .error error => ⟨errorCode, "", error.text ++ "\n", none⟩

end Commands

end Program

end Conformance
