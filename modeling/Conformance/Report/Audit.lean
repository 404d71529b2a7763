import Conformance.Report.Rendering
/-!
# Audit events

Every verdict, every scenario and every finished run leaves one event. An audit log holds the events as
compact JSON, one to a line; the clock is read by whoever writes the log.
-/

namespace Conformance

/-- One event of an audit log. -/
inductive AuditEvent where
  /-- a check of the matrix was judged -/
  | verdict (resource : String) (verb : Verb) (expectedStatus : UInt16)
      (observedStatus : Option UInt16) (outcome : String) (detail : Option String)
      (notes : List String)
  /-- a scenario was replayed -/
  | scenario (name outcome : String) (finalPhase : PhaseName) (failedStep : Option Nat)
      (reason : Option String) (transitions : Nat)
  /-- a command finished -/
  | run (command : String) (status : Status) (summary : Summary)
deriving DecidableEq, Repr

namespace AuditEvent

/-- The event of a verdict. -/
def ofVerdict (v : Verdict) : AuditEvent :=
  .verdict v.resource.path v.verb v.expected.status v.observedStatus v.outcome.label v.outcome.detail?
    (v.notes.map Note.label)

/-- The event of a replayed scenario. -/
def ofScenario (v : ScenarioVerdict) : AuditEvent :=
  .scenario v.scenario v.label v.finalPhase (v.failure.map (·.index)) (v.failure.map (·.reason))
    v.transitions.length

/-- The event of a finished command. -/
def ofRun (command : String) (summary : Summary) : AuditEvent := .run command summary.status summary

/-- The JSON form of an event at a time. -/
def toJson (time : Nat) : AuditEvent → Json
  | .verdict resource verb expectedStatus observedStatus outcome detail notes => .object [
    ("event", .string "matrix_verdict"),
    ("timestamp_ms", .nat time),
    ("resource", .string resource),
    ("verb", verb.toJson),
    ("expected_status", Record.status expectedStatus),
    ("observed_status", .optional Record.status observedStatus),
    ("outcome", .string outcome),
    ("detail", .optional .string detail),
    ("annotations", .array (notes.map .string))]
  | .scenario name outcome finalPhase failedStep reason transitions => .object [
    ("event", .string "workflow_scenario"),
    ("timestamp_ms", .nat time),
    ("scenario", .string name),
    ("outcome", .string outcome),
    ("final_phase", finalPhase.toJson),
    ("failed_step", .optional .nat failedStep),
    ("reason", .optional .string reason),
    ("transitions", .nat transitions)]
  | .run command status summary => .object [
    ("event", .string "harness_run"),
    ("timestamp_ms", .nat time),
    ("command", .string command),
    ("status", .string status.label),
    ("summary", summary.toJson)]

/-- Reads an event and its time. -/
def ofJson? : Json → Option (Nat × AuditEvent)
  | .object ms => do
    let time ← Record.required? ms "timestamp_ms" Record.natural?
    match ← Record.required? ms "event" Json.string? with
    | "matrix_verdict" =>
      let resource ← Record.required? ms "resource" Json.string?
      let verb ← Record.required? ms "verb" Verb.ofJson?
      let expectedStatus ← Record.required? ms "expected_status" Record.word16?
      let observedStatus ← Record.required? ms "observed_status" (Record.nullable? Record.word16?)
      let outcome ← Record.required? ms "outcome" Json.string?
      let detail ← Record.required? ms "detail" (Record.nullable? Json.string?)
      let notes ← Record.required? ms "annotations" (Record.list? Json.string?)
      return (time, .verdict resource verb expectedStatus observedStatus outcome detail notes)
    | "workflow_scenario" =>
      let name ← Record.required? ms "scenario" Json.string?
      let outcome ← Record.required? ms "outcome" Json.string?
      let finalPhase ← Record.required? ms "final_phase" PhaseName.ofJson?
      let failedStep ← Record.required? ms "failed_step" (Record.nullable? Record.natural?)
      let reason ← Record.required? ms "reason" (Record.nullable? Json.string?)
      let transitions ← Record.required? ms "transitions" Record.natural?
      return (time, .scenario name outcome finalPhase failedStep reason transitions)
    | "harness_run" =>
      let command ← Record.required? ms "command" Json.string?
      let status ← Record.required? ms "status" fun v => v.string?.bind Status.ofLabel?
      let summary ← Record.required? ms "summary" Summary.ofJson?
      return (time, .run command status summary)
    | _ => none
  | _ => none

/-- The line of an event, its line feed included. -/
def line (time : Nat) (e : AuditEvent) : String := (e.toJson time).compact ++ "\n"

/-- What a sequence of events adds to a log. -/
def log (time : Nat) (events : List AuditEvent) : String := String.join (events.map (line time))

end AuditEvent

/-- The events of a command: its verdicts, its scenarios, and the run itself. -/
def Results.events (r : Results) (command : String) : List AuditEvent :=
  r.verdicts.map .ofVerdict ++ r.scenarios.map .ofScenario ++ [.ofRun command r.summary]

end Conformance
