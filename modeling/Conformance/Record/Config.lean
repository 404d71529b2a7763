import Conformance.Record.Wizard
import Conformance.Config.Basic
/-!
# Records of configurations

How a settings document is read as a configuration. Every table is closed: a key it does not know is an
error, and so is a value of the wrong type. A key that is left out takes its default.
-/

namespace Conformance

def Target.ofJson? (v : Json) : Option Target := do
  let ms ← Record.fields? ["base_url", "timeout_ms", "max_concurrency"] true .ignored v
  let baseUrl ← Record.withDefault? ms "base_url" Json.string? standard.baseUrl
  let timeoutMs ← Record.withDefault? ms "timeout_ms" Record.word64? standard.timeoutMs
  let maxConcurrency ← Record.withDefault? ms "max_concurrency" Record.word64? standard.maxConcurrency
  return ⟨baseUrl, timeoutMs, maxConcurrency⟩

def ResourceEntry.ofJson? (v : Json) : Option ResourceEntry := do
  let ms ← Record.fields? ["path", "content_type", "status", "schema"] true .ignored v
  let path ← Record.required? ms "path" Json.string?
  let contentType ← Record.required? ms "content_type" Json.string?
  let status ← Record.required? ms "status" Record.word16?
  let schema ← Record.optional? ms "schema" Json.string?
  return ⟨path, contentType, status, schema⟩

/-- Reads routing rules. -/
def Routing.ofJson? (v : Json) : Option Routing := do
  let ms ← Record.fields? ["rejected_path_chars", "delete_policy"] true .ignored v
  let rejectedChars ← Record.withDefault? ms "rejected_path_chars" Json.string? standard.rejectedChars
  let delete ← Record.withDefault? ms "delete_policy" (Record.word? Record.isVoid DeleteRule.ofLabel?)
    standard.delete
  return ⟨rejectedChars, delete⟩

def Workflow.ofJson? (v : Json) : Option Workflow := do
  let ms ← Record.fields? ["recipients", "scenarios"] true .ignored v
  let recipients ← Record.withDefault? ms "recipients" (Record.list? Json.string?) standard.recipients
  let scenarios ← Record.withDefault? ms "scenarios" (Record.list? (Scenario.ofJson? .ignored))
    standard.scenarios
  return ⟨recipients, scenarios⟩

def AuditTarget.ofJson? (v : Json) : Option AuditTarget := do
  let ms ← Record.fields? ["mode", "path"] true .ignored v
  let mode ← Record.withDefault? ms "mode" (Record.word? Record.isVoid AuditMode.ofLabel?) standard.mode
  let path ← Record.optional? ms "path" Json.string?
  return ⟨mode, path⟩

def Config.ofJson? (v : Json) : Option Config := do
  let ms ← Record.fields? ["target", "resources", "routing", "workflow", "audit"] true .ignored v
  let target ← Record.withDefault? ms "target" Target.ofJson? .standard
  let resources ← Record.withDefault? ms "resources" (Record.list? ResourceEntry.ofJson?)
    ResourceEntry.standard
  let routing ← Record.withDefault? ms "routing" Routing.ofJson? .standard
  let workflow ← Record.withDefault? ms "workflow" Workflow.ofJson? .standard
  let audit ← Record.withDefault? ms "audit" AuditTarget.ofJson? .standard
  return ⟨target, resources, routing, workflow, audit, none⟩

end Conformance
