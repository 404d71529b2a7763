import Conformance.Config.Basic
/-!
# Valid configurations

The limits a configuration has to keep. `fault?` finds the first one it breaks: target, resources, routing,
workflow and audit log are looked at in this order, and lists from their first entry on.
-/

namespace Conformance

/-! ## Faults -/

/-- What is wrong with a configured path. -/
inductive PathFault where
  | blank
  | excess (excess : Path.Excess)
deriving DecidableEq, Repr

/-- What is wrong with an entry of the catalog. -/
inductive ResourceFault where
  | noSlash
  | pathTooLong
  | pathControl
  | contentTypeLength
  | statusRange
  | schema (fault : PathFault)
  | schemaWithoutJson
  | repeated (path : String)
deriving DecidableEq, Repr

/-- What is wrong with a scenario. -/
inductive ScenarioFault where
  | blankName
  | stepCount
  | unknownElement (index : Nat) (id : String)
  | repeated
deriving DecidableEq, Repr

/-- What is wrong with a configuration. -/
inductive ConfigFault where
  | baseUrl (fault : BaseUrlFault)
  | timeout
  | concurrency
  | noResources
  | tooManyResources
  | resource (index : Nat) (fault : ResourceFault)
  | tooManyRejected
  | rejectedSlash
  | recipientCount
  | malformedRecipient (id : String)
  | repeatedRecipient (id : String)
  | tooManyScenarios
  | scenario (name : String) (fault : ScenarioFault)
  | noAuditPath
  | auditPath (fault : PathFault)
deriving DecidableEq, Repr

/-! ## Limits -/

namespace Limit

/-- The longest time an exchange may be given. -/
def timeoutMs : UInt64 := 300000

/-- The most exchanges under way at once. -/
def concurrency : UInt64 := 64

/-- The most entries of a catalog. -/
def resources : Nat := 256

/-- The most bytes of a resource path. -/
def resourcePath : Nat := 2048

/-- The most bytes of a content type. -/
def contentType : Nat := 256

/-- The most rejected characters. -/
def rejectedChars : Nat := 32

/-- The most recipients. -/
def recipients : Nat := 64

/-- The most configured scenarios. -/
def scenarios : Nat := 64

/-- The most steps of a scenario. -/
def steps : Nat := 256

end Limit

/-! ## Wording -/

def PathFault.text (field : String) : PathFault → String
  | .blank => field ++ " must be non-empty"
  | .excess .total => field ++ " exceeds max length"
  | .excess .component => field ++ " path component too long"

def BaseUrlFault.text : BaseUrlFault → String
  | .notUrl error => "target.base_url is not a valid url: " ++ error.text
  | .notHttp => "target.base_url must use http:// or https://"
  | .noHost => "target.base_url must include a host"
  | .hasQueryOrFragment => "target.base_url must not include a query or fragment"

def ResourceFault.text (field : String) : ResourceFault → String
  | .noSlash => field ++ ".path must start with '/'"
  | .pathTooLong => field ++ ".path exceeds max length"
  | .pathControl => field ++ ".path must not contain control characters"
  | .contentTypeLength =>
    field ++ ".content_type must be 1..=" ++ Decimal.text Limit.contentType ++ " characters"
  | .statusRange => field ++ ".status must be between 100 and 599"
  | .schema fault => fault.text (field ++ ".schema")
  | .schemaWithoutJson => field ++ ".schema requires a json content_type"
  | .repeated path => field ++ ".path " ++ path ++ " is duplicated"

def ScenarioFault.text (name : String) : ScenarioFault → String
  | .blankName => "workflow scenario name must be non-empty"
  | .stepCount =>
    "workflow scenario " ++ name ++ " must have 1..=" ++ Decimal.text Limit.steps ++ " steps"
  | .unknownElement index id =>
    "workflow scenario " ++ name ++ " step " ++ Decimal.text index ++ ": " ++ Element.unknownText id
  | .repeated => "workflow scenario " ++ name ++ " is duplicated"

def ConfigFault.text : ConfigFault → String
  | .baseUrl fault => fault.text
  | .timeout => "target.timeout_ms must be between 1 and " ++ Decimal.text Limit.timeoutMs.toNat
  | .concurrency =>
    "target.max_concurrency must be between 1 and " ++ Decimal.text Limit.concurrency.toNat
  | .noResources => "resources must not be empty"
  | .tooManyResources => "resources exceeds " ++ Decimal.text Limit.resources ++ " entries"
  | .resource index fault => fault.text ("resources[" ++ Decimal.text index ++ "]")
  | .tooManyRejected =>
    "routing.rejected_path_chars exceeds " ++ Decimal.text Limit.rejectedChars ++ " characters"
  | .rejectedSlash => "routing.rejected_path_chars must not contain '/'"
  | .recipientCount =>
    "workflow.recipients must list 1..=" ++ Decimal.text Limit.recipients ++ " recipients"
  | .malformedRecipient id => "workflow.recipients entry " ++ id ++ " must look like receiver-<n>"
  | .repeatedRecipient id => "workflow.recipients entry " ++ id ++ " is duplicated"
  | .tooManyScenarios => "workflow.scenarios exceeds " ++ Decimal.text Limit.scenarios ++ " entries"
  | .scenario name fault => fault.text name
  | .noAuditPath => "audit.path is required when mode is file"
  | .auditPath fault => fault.text "audit.path"

/-! ## The first fault -/

/-- A fault under a condition. -/
def faultIf (broken : Bool) (fault : α) : Option α := if broken then some fault else none

@[simp] theorem faultIf_eq_none_iff {broken : Bool} {fault : α} :
    faultIf broken fault = none ↔ broken = false := by
  cases broken <;> simp [faultIf]

/-- The first fault of a configured path, read without the blanks around it. -/
def pathFault? (path : String) : Option PathFault :=
  let path := Text.trim path
  faultIf path.isEmpty .blank <|> (Path.excess? path).map .excess

def Target.fault? [UrlLibrary] (t : Target) : Option ConfigFault :=
  (match t.url with
    | .ok _ => none
    | .error fault => some (.baseUrl fault)) <|>
  faultIf (t.timeoutMs == 0 || Limit.timeoutMs < t.timeoutMs) .timeout <|>
  faultIf (t.maxConcurrency == 0 || Limit.concurrency < t.maxConcurrency) .concurrency

/-- The first fault of the schema of an entry. -/
def ResourceEntry.schemaFault? (e : ResourceEntry) : Option ResourceFault :=
  e.schema.bind fun schema =>
    (pathFault? schema).map .schema <|> faultIf (!e.resource.declaresJson) .schemaWithoutJson

/-- The first fault of an entry taken alone. -/
def ResourceEntry.fault? (e : ResourceEntry) : Option ResourceFault :=
  let contentType := Text.trim e.contentType
  faultIf (e.path.toList.head? != some '/') .noSlash <|>
  faultIf (Limit.resourcePath < e.path.utf8ByteSize) .pathTooLong <|>
  faultIf (e.path.toList.any Text.isControl) .pathControl <|>
  faultIf (contentType.isEmpty || Limit.contentType < contentType.utf8ByteSize) .contentTypeLength <|>
  faultIf (e.status < 100 || 599 < e.status) .statusRange <|>
  e.schemaFault?

/-- The first fault of the entries from `index` on, given the paths before them. -/
def entriesFault? (index : Nat) (seen : List String) : List ResourceEntry → Option ConfigFault
  | [] => none
  | e :: rest =>
    (e.fault? <|> faultIf (seen.contains e.path) (ResourceFault.repeated e.path)).map (.resource index) <|>
    entriesFault? (index + 1) (e.path :: seen) rest

/-- The first fault of a catalog. -/
def resourcesFault? (entries : List ResourceEntry) : Option ConfigFault :=
  faultIf entries.isEmpty .noResources <|>
  faultIf (Limit.resources < entries.length) .tooManyResources <|>
  entriesFault? 0 [] entries

/-- The first fault of routing rules. -/
def Routing.fault? (r : Routing) : Option ConfigFault :=
  faultIf (Limit.rejectedChars < r.rejectedChars.length) .tooManyRejected <|>
  faultIf (r.rejectedChars.toList.contains '/') .rejectedSlash

/-- The first fault of recipients, given those before them. -/
def recipientsFault? (seen : List String) : List String → Option ConfigFault
  | [] => none
  | id :: rest =>
    faultIf (!Element.isRecipientId id) (.malformedRecipient id) <|>
    faultIf (seen.contains id) (.repeatedRecipient id) <|>
    recipientsFault? (id :: seen) rest

/-- The first fault of steps from `index` on. -/
def stepsFault? (index : Nat) : List ScenarioStep → Option ScenarioFault
  | [] => none
  | step :: rest =>
    faultIf (Element.parse? step.element).isNone (.unknownElement index step.element) <|>
    stepsFault? (index + 1) rest

/-- The first fault of a scenario taken alone. -/
def Scenario.fault? (s : Scenario) : Option ScenarioFault :=
  faultIf (Text.isBlankText s.name) .blankName <|>
  faultIf (s.steps.isEmpty || Limit.steps < s.steps.length) .stepCount <|>
  stepsFault? 0 s.steps

/-- The first fault of scenarios, given the names of those before them. -/
def scenariosFault? (seen : List String) : List Scenario → Option ConfigFault
  | [] => none
  | s :: rest =>
    (s.fault? <|> faultIf (seen.contains s.name) ScenarioFault.repeated).map (.scenario s.name) <|>
    scenariosFault? (s.name :: seen) rest

def Workflow.fault? (w : Workflow) : Option ConfigFault :=
  faultIf (w.recipients.isEmpty || Limit.recipients < w.recipients.length) .recipientCount <|>
  recipientsFault? [] w.recipients <|>
  faultIf (Limit.scenarios < w.scenarios.length) .tooManyScenarios <|>
  scenariosFault? [] w.scenarios

def AuditTarget.fault? (a : AuditTarget) : Option ConfigFault :=
  faultIf (a.mode == .file && a.path.isNone) .noAuditPath <|>
  (a.path.bind pathFault?).map .auditPath

def Config.fault? [UrlLibrary] (c : Config) : Option ConfigFault :=
  c.target.fault? <|> resourcesFault? c.resources <|> c.routing.fault? <|> c.workflow.fault? <|>
    c.audit.fault?

end Conformance
