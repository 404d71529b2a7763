import Conformance.Record.Fields
import Conformance.Verdict.Comparison
/-!
# Records of checks and verdicts

The JSON forms of resources, verbs, expectations and planned checks, and of violations, notes, transport failures,
outcomes and verdicts. Each form that is read has its reader. A form with several shapes has its kind as first member.
-/

namespace Conformance

/-! ## Planned checks -/

/-- The JSON form of a status. -/
def Record.status (s : UInt16) : Json := .nat s.toNat

def Resource.toJson (r : Resource) : Json := .object [
  ("path", .string r.path),
  ("expected_content_type", .string r.contentType),
  ("expected_success_status", Record.status r.status)]

def Verb.toJson (v : Verb) : Json := .string v.label

def ContentTypeRule.toJson : ContentTypeRule → Json
  | .exact value => .object [("kind", .string "exact"), ("value", .string value)]
  | .unconstrained => .object [("kind", .string "unconstrained")]

def Expectation.toJson (e : Expectation) : Json := .object [
  ("expected_status", Record.status e.status),
  ("expected_content_type", e.contentType.toJson)]

def PlannedCheck.toJson (c : PlannedCheck) : Json := .object [
  ("descriptor", c.resource.toJson),
  ("verb", c.verb.toJson),
  ("expected", c.expected.toJson)]

/-- Reads a resource; keys it does not know are passed over. -/
def Resource.ofJson? (v : Json) : Option Resource := do
  let ms ← Record.fields? ["path", "expected_content_type", "expected_success_status"] false .refused v
  let path ← Record.required? ms "path" Json.string?
  let contentType ← Record.required? ms "expected_content_type" Json.string?
  let status ← Record.required? ms "expected_success_status" Record.word16?
  return ⟨path, contentType, status⟩

def Verb.ofJson? : Json → Option Verb := Record.word? Record.isNull ofLabel?

def DeleteRule.ofJson? : Json → Option DeleteRule := Record.word? Record.isNull ofLabel?

/-- Reads a content type rule. In array form an open rule is followed by `null`. -/
def ContentTypeRule.ofJson? (v : Json) : Option ContentTypeRule := do
  let ms ← Record.fields? ["kind", "value"] false .refused v
  let kind ← Record.required? ms "kind" Json.string?
  match kind, Json.lookup "value" ms, v with
  | "exact", some (.string value), _ => some (.exact value)
  | "unconstrained", none, .object _ | "unconstrained", some .null, _ => some .unconstrained
  | _, _, _ => none

/-- Reads an expectation; keys it does not know are passed over. -/
def Expectation.ofJson? (v : Json) : Option Expectation := do
  let ms ← Record.fields? ["expected_status", "expected_content_type"] false .refused v
  let status ← Record.required? ms "expected_status" Record.word16?
  let contentType ← Record.required? ms "expected_content_type" ContentTypeRule.ofJson?
  return ⟨status, contentType⟩

def PlannedCheck.ofJson? (v : Json) : Option PlannedCheck := do
  let ms ← Record.fields? ["descriptor", "verb", "expected"] false .refused v
  let resource ← Record.required? ms "descriptor" Resource.ofJson?
  let verb ← Record.required? ms "verb" Verb.ofJson?
  let expected ← Record.required? ms "expected" Expectation.ofJson?
  return ⟨resource, verb, expected⟩

/-! ## Verdicts -/

def Violation.toJson : Violation → Json
  | .status expected actual => .object [
    ("kind", .string "status"),
    ("expected", Record.status expected),
    ("actual", Record.status actual)]
  | .contentType expected actual => .object [
    ("kind", .string "content_type"),
    ("expected", .string expected),
    ("actual", .optional .string actual)]
  | .missingHeader name expected => .object [
    ("kind", .string "missing_header"),
    ("name", .string name),
    ("expected", .string expected)]
  | .headerValue name expected actual => .object [
    ("kind", .string "header_value"),
    ("name", .string name),
    ("expected", .string expected),
    ("actual", .string actual)]
  | .bodySchema schema detail => .object [
    ("kind", .string "body_schema"),
    ("schema", .string schema),
    ("detail", .string detail)]

def Violation.ofJson? : Json → Option Violation
  | .object ms => do
    match ← Record.required? ms "kind" Json.string? with
    | "status" =>
      let expected ← Record.required? ms "expected" Record.word16?
      let actual ← Record.required? ms "actual" Record.word16?
      return .status expected actual
    | "content_type" =>
      let expected ← Record.required? ms "expected" Json.string?
      let actual ← Record.required? ms "actual" (Record.nullable? Json.string?)
      return .contentType expected actual
    | "missing_header" =>
      let name ← Record.required? ms "name" Json.string?
      let expected ← Record.required? ms "expected" Json.string?
      return .missingHeader name expected
    | "header_value" =>
      let name ← Record.required? ms "name" Json.string?
      let expected ← Record.required? ms "expected" Json.string?
      let actual ← Record.required? ms "actual" Json.string?
      return .headerValue name expected actual
    | "body_schema" =>
      let schema ← Record.required? ms "schema" Json.string?
      let detail ← Record.required? ms "detail" Json.string?
      return .bodySchema schema detail
    | _ => none
  | _ => none

def Note.toJson : Note → Json
  | .notValidated contentType => .object [
    ("kind", .string "schema_validation_not_performed"),
    ("content_type", .string contentType)]
  | .validated schema => .object [
    ("kind", .string "schema_validated"),
    ("schema", .string schema)]

def Note.ofJson? : Json → Option Note
  | .object ms => do
    match ← Record.required? ms "kind" Json.string? with
    | "schema_validation_not_performed" =>
      (Record.required? ms "content_type" Json.string?).map .notValidated
    | "schema_validated" => (Record.required? ms "schema" Json.string?).map .validated
    | _ => none
  | _ => none

def TransportFailure.toJson (f : TransportFailure) : Json := .object [
  ("kind", .string f.kind.label),
  ("message", .string f.message)]

def TransportFailure.ofJson? : Json → Option TransportFailure
  | .object ms => do
    let kind ← Record.required? ms "kind" fun v => v.string?.bind Kind.ofLabel?
    let message ← Record.required? ms "message" Json.string?
    return ⟨kind, message⟩
  | _ => none

def Outcome.toJson : Outcome → Json
  | .pass => .object [("status", .string "pass")]
  | .fail violations => .object [
    ("status", .string "fail"),
    ("violations", .array (violations.map Violation.toJson))]
  | .inconclusive failure => .object [
    ("status", .string "inconclusive"),
    ("failure", failure.toJson)]

def Outcome.ofJson? : Json → Option Outcome
  | .object ms => do
    match ← Record.required? ms "status" Json.string? with
    | "pass" => return .pass
    | "fail" => (Record.required? ms "violations" (Record.list? Violation.ofJson?)).map .fail
    | "inconclusive" => (Record.required? ms "failure" TransportFailure.ofJson?).map .inconclusive
    | _ => none
  | _ => none

def Verdict.toJson (v : Verdict) : Json := .object [
  ("resource", v.resource.toJson),
  ("verb", v.verb.toJson),
  ("expected", v.expected.toJson),
  ("observed_status", .optional Record.status v.observedStatus),
  ("outcome", v.outcome.toJson),
  ("annotations", .array (v.notes.map Note.toJson))]

def Verdict.ofJson? : Json → Option Verdict
  | .object ms => do
    let resource ← Record.required? ms "resource" Resource.ofJson?
    let verb ← Record.required? ms "verb" Verb.ofJson?
    let expected ← Record.required? ms "expected" Expectation.ofJson?
    let observedStatus ← Record.required? ms "observed_status" (Record.nullable? Record.word16?)
    let outcome ← Record.required? ms "outcome" Outcome.ofJson?
    let notes ← Record.required? ms "annotations" (Record.list? Note.ofJson?)
    return ⟨resource, verb, expected, observedStatus, outcome, notes⟩
  | _ => none

end Conformance
