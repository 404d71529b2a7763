import Conformance.Matrix.Policy
import Conformance.Wizard.Scenario
import Conformance.Storage.Disk
import Conformance.Url.Basic
/-!
# Configurations

What a run is told: the target, the catalog of resources, the routing rules, the workflow and where the
audit log goes. Every part has defaults, which together describe a stock deployment. Relative paths
are taken from the directory of the file a configuration was read from.
-/

namespace Conformance

/-! ## Parts -/

/-- The service under test. -/
structure Target where
  baseUrl : String
  /-- the time one exchange may take -/
  timeoutMs : UInt64
  /-- how many exchanges may be under way at once -/
  maxConcurrency : UInt64
deriving DecidableEq, Repr

/-- The target of a stock deployment. -/
def Target.standard : Target := ⟨"http://127.0.0.1:8082", 10000, 4⟩

/-- An entry of the catalog. -/
structure ResourceEntry where
  path : String
  contentType : String
  status : UInt16
  /-- the file of the schema for the body -/
  schema : Option String
deriving DecidableEq, Repr

/-- The resource of an entry. -/
def ResourceEntry.resource (e : ResourceEntry) : Resource := ⟨e.path, e.contentType, e.status⟩

/-- The entries of the default catalog. -/
def ResourceEntry.standard : List ResourceEntry :=
  Resource.defaultCatalog.map fun r => ⟨r.path, r.contentType, r.status, none⟩

/-- The routing rules. -/
structure Routing where
  /-- characters that make a path malformed -/
  rejectedChars : String
  delete : DeleteRule
deriving DecidableEq, Repr

/-- The routing rules of a stock deployment. -/
def Routing.standard : Routing := ⟨Policy.defaultRejected, .likeGet⟩

/-- The submission workflow. -/
structure Workflow where
  recipients : List String
  /-- scenarios replayed after the built-in one -/
  scenarios : List Scenario
deriving DecidableEq, Repr

/-- The workflow of a stock deployment. -/
def Workflow.standard : Workflow := ⟨["receiver-0"], []⟩

/-- Where the audit log goes. -/
inductive AuditMode where
  | stderr
  | file
  | off
deriving DecidableEq, Repr

namespace AuditMode

def all : List AuditMode := [.stderr, .file, .off]

def label : AuditMode → String
  | .stderr => "stderr"
  | .file => "file"
  | .off => "off"

def ofLabel? (s : String) : Option AuditMode := all.find? fun m => m.label == s

end AuditMode

/-- The audit log. -/
structure AuditTarget where
  mode : AuditMode
  path : Option String
deriving DecidableEq, Repr

/-- The audit log when none is configured. -/
def AuditTarget.standard : AuditTarget := ⟨.stderr, none⟩

/-! ## The whole -/

/-- A configuration. -/
structure Config where
  target : Target
  resources : List ResourceEntry
  routing : Routing
  workflow : Workflow
  audit : AuditTarget
  /-- the directory of the file it was read from -/
  baseDir : Option String
deriving DecidableEq, Repr

namespace Config

/-- The configuration of a stock deployment. -/
def standard : Config :=
  ⟨.standard, ResourceEntry.standard, .standard, .standard, .standard, none⟩

/-- The resources to be checked. -/
def catalog (c : Config) : List Resource := c.resources.map ResourceEntry.resource

/-- The policy to check them by. -/
def policy (c : Config) : Policy := .ofText c.routing.rejectedChars c.routing.delete

/-- The planned checks. -/
def plan (c : Config) : List PlannedCheck := c.policy.plan c.catalog

/-- Who may be selected. -/
def roster (c : Config) : List Recipient := c.workflow.recipients.map Recipient.mk

/-- The scenarios to be replayed, the built-in one first. -/
def scenarios (c : Config) : List Scenario := .builtin :: c.workflow.scenarios

/-- A configured path, taken from the directory of the configuration. -/
def resolve (c : Config) (path : String) : String :=
  match c.baseDir with
  | none => path
  | some dir => Path.join dir path

end Config

/-! ## Base URLs -/

/-- Why a text is no base URL. -/
inductive BaseUrlFault where
  | notUrl (error : UrlError)
  | notHttp
  | noHost
  | hasQueryOrFragment
deriving DecidableEq, Repr

/-- The schemes a base URL may have. -/
def httpSchemes : List String := ["http", "https"]

/-- The base URL of a target: an absolute URL of the web, read without the blanks around it. -/
def Target.url [UrlLibrary] (t : Target) : Except BaseUrlFault WebUrl :=
  match UrlLibrary.parse (Text.trim t.baseUrl) with
  | .error error => .error (.notUrl error)
  | .ok url =>
    if url.scheme ∉ httpSchemes then .error .notHttp
    else
      match url with
      | .other _ => .error .noHost
      | .web url =>
        if url.authority.host.text.isEmpty then .error .noHost
        else if url.hasQuery || url.hasFragment then .error .hasQueryOrFragment
        else .ok url

/-- A text without the slashes at its end. -/
def trimSlashes (s : String) : String := String.ofList (s.toList.reverse.dropWhile (· == '/')).reverse

/-- The URL of a request: the path as it stands, behind the base URL. -/
def WebUrl.request (base : WebUrl) (path : String) : String := trimSlashes base.text ++ path

end Conformance
