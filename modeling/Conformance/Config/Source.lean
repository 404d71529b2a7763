import Conformance.Config.Environment
import Conformance.Config.Validation
import Conformance.Record.Config
import Conformance.Storage.Disk
/-!
# Where a configuration comes from

A configuration is read from the file that is named explicitly, else from the file the environment names,
else from the default file if there is one; without any of them it is the built-in one. A file that is
named has to be there, readable and valid.
-/

namespace Conformance

/-- A library that reads settings documents. No law is asked of it. -/
class SettingsLibrary where
  /-- the document of a text, or why it is none -/
  read : String → Except String Json
  /-- what is said about a text whose document has not the shape that is asked for -/
  misfit : String → String

/-- Why there is no configuration. What a library says about it is kept. -/
inductive ConfigError where
  | unreadable (error : FileError)
  | malformed (message : String)
  /-- a settings document with an unknown key, without a required one, or with an ill-typed value -/
  | misfit (message : String)
  | tooLarge
  | notUtf8
  | path (excess : Path.Excess)
  | environment (error : VariableError)
  | invalid (fault : ConfigFault)
deriving DecidableEq, Repr

namespace ConfigError

def text : ConfigError → String
  | .unreadable error => "config io error: " ++ error.text
  | .malformed message | .misfit message => "config parse error: " ++ message
  | .tooLarge => "invalid config: config file exceeds size limit"
  | .notUtf8 => "invalid config: config file must be utf-8"
  | .path .total => "invalid config: config path exceeds max length"
  | .path .component => "invalid config: config path component too long"
  | .environment error => "invalid config: " ++ error.text
  | .invalid fault => "invalid config: " ++ fault.text

end ConfigError

namespace Config

/-! ## Texts -/

/-- The most bytes a settings document may have. -/
def maxSize : Nat := 1024 * 1024

/-- A configuration that keeps all limits. -/
def validated [UrlLibrary] (c : Config) : Except ConfigError Config :=
  match c.fault? with
  | none => .ok c
  | some fault => .error (.invalid fault)

theorem validated_of_none [UrlLibrary] {c : Config} (h : c.fault? = none) : c.validated = .ok c := by
  -- an equation for `validated` would have all checks evaluated
  delta validated
  simp only [h]

theorem validated_of_some [UrlLibrary] {c : Config} {f : ConfigFault} (h : c.fault? = some f) :
    c.validated = .error (.invalid f) := by
  delta validated
  simp only [h]

/-- The configuration of a settings document. -/
def decode [SettingsLibrary] (text : String) : Except ConfigError Config :=
  match SettingsLibrary.read text with
  | .error message => .error (.malformed message)
  | .ok document =>
    match Config.ofJson? document with
    | some c => .ok c
    | none => .error (.misfit (SettingsLibrary.misfit text))

/-- The valid configuration of a settings document. -/
def ofText [SettingsLibrary] [UrlLibrary] (text : String) : Except ConfigError Config :=
  if maxSize < text.utf8ByteSize then .error .tooLarge else (decode text).bind validated

/-! ## Files -/

/-- The name of the file that is read if none is named. -/
def defaultName : String := "compliance-harness.toml"

/-- The bytes of a file as a text of allowed size. -/
def content (bytes : ByteArray) : Except ConfigError String :=
  if maxSize < bytes.size then .error .tooLarge
  else
    match String.fromUTF8? bytes with
    | some text => .ok text
    | none => .error .notUtf8

/-- Reads a configuration from a file. -/
def ofFile [SettingsLibrary] [UrlLibrary] (disk : Disk) (path : String) : Except ConfigError Config :=
  match Path.excess? path with
  | some excess => .error (.path excess)
  | none =>
    match disk.read path with
    | .error error => .error (.unreadable error)
    | .ok bytes => do
      let text ← content bytes
      let c ← decode text
      validated { c with baseDir := Path.parent? path }

/-- The path of the file to read, given the path named explicitly and the one named by the environment. -/
def source (disk : Disk) (explicit named : Option String) : Except ConfigError (Option String) :=
  match explicit, named with
  | some path, _ => .ok (some path)
  | none, some path =>
    if Text.isBlankText path then .error (.environment ⟨.configPath, .blank⟩)
    else if Path.maxTotal < path.utf8ByteSize then .error (.path .total)
    else .ok (some path)
  | none, none => .ok (if disk.isFile defaultName then some defaultName else none)

/-- Loads the configuration. -/
def load [SettingsLibrary] [UrlLibrary] (disk : Disk) (explicit : Option String) (env : Environment) :
    Except ConfigError Config := do
  let named ← (env.text .configPath).mapError .environment
  match ← source disk explicit named with
  | some path => ofFile disk path
  | none => validated standard

end Config

end Conformance
