import Conformance.Report.Summary
import Conformance.Report.Wording
import Conformance.Record.Verdict
import Conformance.Record.Wizard
import Conformance.Json.Printer
/-!
# Rendering plans and runs

A plan or a run is shown as lines of text or as pretty JSON. In text a run has one line for every verdict,
followed by one for each of its notes, then one line for every scenario, and the summary last.
-/

namespace Conformance

/-- How output is written. -/
inductive Format where
  | text
  | json
deriving DecidableEq, Repr

namespace Format

def all : List Format := [.text, .json]

def label : Format → String
  | .text => "text"
  | .json => "json"

def ofLabel? (s : String) : Option Format := all.find? fun f => f.label == s

end Format

/-! ## Plans -/

/-- A number as an argument of a template. -/
def Wording.count (name : String) (n : Nat) : Wording.Argument := (name, Decimal.text n)

/-- The line of a planned check. -/
def PlannedCheck.line (c : PlannedCheck) : String :=
  Wording.translate "report.plan.entry" [
    ("verb", c.verb.label),
    ("path", c.resource.path),
    Wording.count "status" c.expected.status.toNat,
    ("content_type",
      c.expected.contentType.exact?.getD (Wording.translate "report.plan.unconstrained" []))]

/-- A plan as output. -/
def renderPlan (checks : List PlannedCheck) : Format → String
  | .json => (Json.array (checks.map PlannedCheck.toJson)).pretty
  | .text =>
    Text.join "\n" (Wording.translate "report.plan.header" [Wording.count "count" checks.length] ::
      checks.map PlannedCheck.line)

/-! ## Runs -/

/-- What a run found. -/
structure Results where
  verdicts : List Verdict
  scenarios : List ScenarioVerdict
deriving DecidableEq, Repr

/-- The counts of a run. -/
def Results.summary (r : Results) : Summary := .ofResults r.verdicts r.scenarios

def Summary.toJson (s : Summary) : Json := .object [
  ("checks", .nat s.checks),
  ("passed", .nat s.passed),
  ("failed", .nat s.failed),
  ("inconclusive", .nat s.inconclusive),
  ("schema_not_performed", .nat s.notValidated),
  ("scenarios", .nat s.scenarios),
  ("scenarios_failed", .nat s.scenariosFailed)]

def Summary.ofJson? : Json → Option Summary
  | .object ms => do
    let checks ← Record.required? ms "checks" Record.natural?
    let passed ← Record.required? ms "passed" Record.natural?
    let failed ← Record.required? ms "failed" Record.natural?
    let inconclusive ← Record.required? ms "inconclusive" Record.natural?
    let notValidated ← Record.required? ms "schema_not_performed" Record.natural?
    let scenarios ← Record.required? ms "scenarios" Record.natural?
    let scenariosFailed ← Record.required? ms "scenarios_failed" Record.natural?
    return ⟨checks, passed, failed, inconclusive, notValidated, scenarios, scenariosFailed⟩
  | _ => none

def Results.toJson (r : Results) : Json := .object [
  ("status", .string r.summary.status.label),
  ("summary", r.summary.toJson),
  ("verdicts", .array (r.verdicts.map Verdict.toJson)),
  ("scenarios", .array (r.scenarios.map ScenarioVerdict.toJson))]

/-- Reads a run; its status and its summary follow from what it lists. -/
def Results.ofJson? : Json → Option Results
  | .object ms => do
    let verdicts ← Record.required? ms "verdicts" (Record.list? Verdict.ofJson?)
    let scenarios ← Record.required? ms "scenarios" (Record.list? ScenarioVerdict.ofJson?)
    return ⟨verdicts, scenarios⟩
  | _ => none

/-- The line of a verdict. A failure names its first violation and counts the others. -/
def Verdict.line (v : Verdict) : String :=
  let check : List Wording.Argument := [("verb", v.verb.label), ("path", v.resource.path)]
  match v.outcome with
  | .pass =>
    Wording.translate "report.verdict.pass"
      (check ++ [Wording.count "status" (v.observedStatus.getD v.expected.status).toNat])
  | .fail violations =>
    let check := check ++ [("violation", (violations.head?.map Violation.text).getD "")]
    if violations.length ≤ 1 then Wording.translate "report.verdict.fail" check
    else
      Wording.translate "report.verdict.fail_more"
        (check ++ [Wording.count "more" (violations.length - 1)])
  | .inconclusive failure =>
    Wording.translate "report.verdict.inconclusive" (check ++ [("failure", failure.text)])

/-- The line of a note. -/
def Note.line (n : Note) : String :=
  Wording.translate "report.annotation" [("label", n.label), ("detail", n.detail)]

/-- The line of a scenario. -/
def ScenarioVerdict.line (v : ScenarioVerdict) : String :=
  match v.failure with
  | none =>
    Wording.translate "report.scenario.pass" [
      ("name", v.scenario),
      ("phase", v.finalPhase.label),
      Wording.count "transitions" v.transitions.length]
  | some f =>
    Wording.translate "report.scenario.fail" [
      ("name", v.scenario),
      Wording.count "step" f.index,
      ("action", f.action.label),
      ("element", f.element),
      ("reason", f.reason)]

/-- The line of a summary. -/
def Summary.line (s : Summary) : String :=
  Wording.translate "report.summary" [
    ("status", s.status.label),
    Wording.count "checks" s.checks,
    Wording.count "passed" s.passed,
    Wording.count "failed" s.failed,
    Wording.count "inconclusive" s.inconclusive,
    Wording.count "schema" s.notValidated,
    Wording.count "scenarios" s.scenarios,
    Wording.count "scenarios_failed" s.scenariosFailed]

/-- The lines of a run. -/
def Results.lines (r : Results) : List String :=
  r.verdicts.flatMap (fun v => v.line :: v.notes.map Note.line) ++
    r.scenarios.map ScenarioVerdict.line ++ [r.summary.line]

/-- A run as output. -/
def Results.render (r : Results) : Format → String
  | .json => r.toJson.pretty
  | .text => Text.join "\n" r.lines

end Conformance
