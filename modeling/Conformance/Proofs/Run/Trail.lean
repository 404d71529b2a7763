import Conformance.Proofs.Run.PlanOrder
import Conformance.Proofs.Run.Workflow
/-!
# The audit trail of a run

A run hands one event for every verdict to its audit sink, in the order of the verdicts, and one event for
itself at the end. `OfVerdict` and `OfReplay` say what an event tells; `tally` counts events as the summary
counts verdicts. The verdicts of a matrix are in plan order whatever order their tasks went in, so the trail
is too.
-/

namespace Conformance

namespace AuditEvent

/-! ## What an event tells -/

/-- The event of a check: its verdict passed, failed with a first violation, or never saw a response. -/
inductive OfVerdict (v : Verdict) : AuditEvent → Prop
  | pass {status : UInt16} (outcome : v.outcome = .pass) (observed : v.observedStatus = some status) :
    OfVerdict v (.verdict v.resource.path v.verb v.expected.status (some status) "pass" none
      (v.notes.map Note.label))
  | fail {status : UInt16} {first : Violation} {others : List Violation}
    (outcome : v.outcome = .fail (first :: others)) (observed : v.observedStatus = some status) :
    OfVerdict v (.verdict v.resource.path v.verb v.expected.status (some status) "fail" (some first.text)
      (v.notes.map Note.label))
  | inconclusive {failure : TransportFailure} (outcome : v.outcome = .inconclusive failure)
    (observed : v.observedStatus = none) :
    OfVerdict v (.verdict v.resource.path v.verb v.expected.status none "inconclusive" (some failure.text)
      (v.notes.map Note.label))

/-- The event of a scenario: its replay ended on a page, with every step held or at the first that did not. -/
inductive OfReplay (scenario : Scenario) (roster : List Recipient) : AuditEvent → Prop
  | pass {page : Surface} (replayed : replay (.new (.new roster)) 0 scenario.steps = (page, none)) :
    OfReplay scenario roster
      (.scenario scenario.name "pass" page.gate.phase.name none none page.gate.journal.length)
  | fail {page : Surface} {f : ScenarioFailure}
    (replayed : replay (.new (.new roster)) 0 scenario.steps = (page, some f)) :
    OfReplay scenario roster
      (.scenario scenario.name "fail" page.gate.phase.name (some f.index) (some f.reason)
        page.gate.journal.length)

/-- A verdict on a response has passed, or has a first violation. -/
theorem ofVerdict_ofViolations (resource : Resource) (verb : Verb) (expected : Expectation) (status : UInt16)
    (violations : List Violation) (notes : List Note) :
    let v : Verdict := ⟨resource, verb, expected, some status, .ofViolations violations, notes⟩
    OfVerdict v (ofVerdict v) := by
  cases violations with
  | nil => exact .pass rfl rfl
  | cons first others => exact .fail rfl rfl

theorem ofVerdict_settle (check : PlannedCheck) (validator : Validator) (x : Exchange) :
    OfVerdict (check.settle validator x) (ofVerdict (check.settle validator x)) := by
  cases x with
  | answered response => exact ofVerdict_ofViolations ..
  | failed failure => exact .inconclusive rfl rfl
  | died => exact .inconclusive rfl rfl

theorem ofReplay_run (scenario : Scenario) (roster : List Recipient) :
    OfReplay scenario roster (ofScenario (scenario.run roster)) := by
  rw [Scenario.run]
  cases h : replay (.new (.new roster)) 0 scenario.steps with
  | mk page failure =>
    cases failure with
    | none => exact .pass h
    | some f => exact .fail h

/-! ## Counting events -/

/-- A check was judged. -/
def isCheck : AuditEvent → Bool
  | .verdict .. => true
  | _ => false

/-- A check was judged with an outcome. -/
def isCheckThat (word : String) : AuditEvent → Bool
  | .verdict _ _ _ _ outcome _ _ => outcome == word
  | _ => false

/-- A check was judged with a note. -/
def isCheckWith (note : String) : AuditEvent → Bool
  | .verdict _ _ _ _ _ _ notes => notes.contains note
  | _ => false

/-- A scenario was replayed. -/
def isReplay : AuditEvent → Bool
  | .scenario .. => true
  | _ => false

/-- A scenario was replayed with an outcome. -/
def isReplayThat (word : String) : AuditEvent → Bool
  | .scenario _ outcome _ _ _ _ => outcome == word
  | _ => false

/-- The counts of a run, told from its events. -/
def tally (events : List AuditEvent) : Summary where
  checks := events.countP isCheck
  passed := events.countP (isCheckThat "pass")
  failed := events.countP (isCheckThat "fail")
  inconclusive := events.countP (isCheckThat "inconclusive")
  notValidated := events.countP (isCheckWith "schema validation not performed")
  scenarios := events.countP isReplay
  scenariosFailed := events.countP (isReplayThat "fail")

theorem tally_append (events more : List AuditEvent) :
    tally (events ++ more) = tally events + tally more := by
  show _ = Summary.add _ _
  simp [tally, Summary.add]

theorem isCheckWith_ofVerdict (v : Verdict) :
    (ofVerdict v).isCheckWith "schema validation not performed" = v.isNotValidated := by
  show (v.notes.map Note.label).contains _ = _
  rw [List.contains_map, Verdict.isNotValidated]
  congr
  funext n
  cases n <;> rfl

theorem tally_singleton_ofVerdict (v : Verdict) : tally [ofVerdict v] = Summary.ofResults [v] [] := by
  have hnotes := isCheckWith_ofVerdict v
  have hchecks : (ofVerdict v).isCheck = true := rfl
  have hreplays : (ofVerdict v).isReplay = false := rfl
  have hword (word : String) : (ofVerdict v).isCheckThat word = (v.outcome.label == word) := rfl
  have hfailed : (ofVerdict v).isReplayThat "fail" = false := rfl
  simp only [tally, Summary.ofResults, List.countP_singleton, hnotes, hchecks, hreplays, hword, hfailed]
  cases v.outcome <;> simp [Outcome.label, Outcome.isPass, Outcome.isFail, Outcome.isInconclusive]

theorem tally_singleton_ofScenario (v : ScenarioVerdict) :
    tally [ofScenario v] = Summary.ofResults [] [v] := by
  cases h : v.failure <;>
    simp [tally, Summary.ofResults, ofScenario, ScenarioVerdict.label, ScenarioVerdict.passed, isCheck,
      isCheckThat, isCheckWith, isReplay, isReplayThat, h]

/-- The events of a run count what its summary counts. -/
theorem tally_events (r : Results) :
    tally (r.verdicts.map ofVerdict ++ r.scenarios.map ofScenario) = r.summary := by
  have hverdicts (vs : List Verdict) : tally (vs.map ofVerdict) = Summary.ofResults vs [] := by
    induction vs with
    | nil => rfl
    | cons v vs ih =>
      rw [List.map_cons, ← List.singleton_append, tally_append, tally_singleton_ofVerdict, ih,
        ← Summary.ofResults_append]
      rfl
  have hscenarios (ss : List ScenarioVerdict) : tally (ss.map ofScenario) = Summary.ofResults [] ss := by
    induction ss with
    | nil => rfl
    | cons v ss ih =>
      rw [List.map_cons, ← List.singleton_append, tally_append, tally_singleton_ofScenario, ih,
        ← Summary.ofResults_append]
      rfl
  rw [tally_append, hverdicts, hscenarios, ← Summary.ofResults_append, List.append_nil, List.nil_append]
  rfl

/-- The events of a command: one for each part of its work, in the order of the parts, which tells what came of
that part, and then one for the run, which counts the others. -/
def Trail {α : Type} (events : List AuditEvent) (label : String) (s : Summary) (parts : List α)
    (tells : Nat → α → AuditEvent → Prop) : Prop :=
  ∃ trail, events = trail ++ [.run label s.status s] ∧ trail.length = parts.length ∧ tally trail = s ∧
    ∀ k part, parts[k]? = some part → ∃ e, trail[k]? = some e ∧ tells k part e

end AuditEvent

/-! ## What the sink is handed -/

/-- The audit sink is handed exactly these events; what is switched off is handed nothing. -/
structure Answer.Records (a : Answer) (sink : AuditSink) (time : Nat) (events : List AuditEvent) : Prop where
  stderr : sink = .stderr → a.stderr = AuditEvent.log time events ∧ a.appended = none
  file : ∀ path, sink = .file path → a.stderr = "" ∧ a.appended = some (path, AuditEvent.log time events)
  off : sink = .off → a.stderr = "" ∧ a.appended = none

theorem Program.records_finish (s : Surroundings) (sink : AuditSink) (label : String) (r : Results)
    (f : Format) : (finish s sink label r f).Records sink s.now (r.events label) where
  stderr := by
    rintro rfl
    exact ⟨rfl, rfl⟩
  file := by
    rintro path rfl
    exact ⟨rfl, rfl⟩
  off := by
    rintro rfl
    exact ⟨rfl, rfl⟩

namespace Matrix
variable {plan : List PlannedCheck} {validator : Validator} {exchanges others : Nat → Exchange}

/-- Only the exchanges of the places of a plan matter. -/
theorem settled_congr (h : ∀ k check, plan[k]? = some check → exchanges k = others k) :
    settled plan validator exchanges = settled plan validator others := by
  refine List.ext_getElem? fun k => ?_
  cases hk : plan[k]? with
  | none => simp [settled, hk]
  | some check => rw [getElem?_settled hk, getElem?_settled hk, h k check hk]

end Matrix

namespace Program
variable {s : Surroundings} {o : Options} {c : Config} {url : WebUrl} {sink : AuditSink}

/-- A matrix run ends with the verdicts on the checks of the plan, each after the exchange the target answers
its verb and path with. -/
theorem run_eq [SettingsLibrary] [UrlLibrary] [JsonLibrary] [SchemaLibrary] {schemas : SchemaRegistry}
    (hconfig : configuration s o = .ok c) (hurl : c.target.url = .ok url)
    (hschemas : SchemaRegistry.ofConfig s.disk c = .ok schemas) (hsink : openAudit s c = .ok sink)
    {exchanges : Nat → Exchange}
    (hexchanges : ∀ k check, c.plan[k]? = some check →
      exchanges k = s.transport url c.target.timeoutMs check.verb check.resource.path) :
    run s o = .ok (finish s sink "matrix run" ⟨Matrix.settled c.plan schemas.validator exchanges, []⟩
      (o.format.getD .text)) := by
  rw [run, hconfig]
  simp only [bind, Except.bind, hurl, hschemas, hsink, Except.mapError, pure, Except.pure]
  rw [Matrix.run, Matrix.runAs_eq_settled (Pool.isDone_inOrder _ _ _), Matrix.settled_congr]
  intro k check hk
  rw [hexchanges k check hk, List.getElem?_toArray, hk]

/-- A command never asks for more permits than there can be: a valid target takes at most 64 exchanges at a time. -/
theorem runAs?_of_configuration [SettingsLibrary] [UrlLibrary] (hconfig : configuration s o = .ok c)
    (schedule : List Pool.Event) (validator : Validator) (exchanges : Nat → Exchange) :
    let bound := c.target.maxConcurrency.toNat
    Matrix.runAs? schedule bound c.plan validator exchanges =
      some (Matrix.runAs schedule bound c.plan validator exchanges) := by
  intro bound
  obtain ⟨-, -, -, -, -, hvalid⟩ := configuration_eq_ok_iff.1 hconfig
  have hbound : bound ≤ 64 := UInt64.le_iff_toNat_le.1 hvalid.target.concurrency.2
  exact Matrix.runAs?_eq_some (hbound.trans (by decide)) schedule c.plan validator exchanges

end Program

/-- Whatever order the tasks of a plan go in, the events are those of the verdicts on its checks, in plan order. -/
theorem Matrix.trail_of_isDone {bound : Nat} {plan : List PlannedCheck} {validator : Validator}
    {exchanges : Nat → Exchange} {schedule : List Pool.Event}
    (hdone : ((Pool.new plan.length bound).after (result plan validator exchanges) schedule).isDone = true) :
    let r : Results := ⟨runAs schedule bound plan validator exchanges, []⟩
    AuditEvent.Trail (r.events "matrix run") "matrix run" r.summary plan fun k check e =>
      ∃ v, r.verdicts[k]? = some v ∧ v.resource = check.resource ∧ v.verb = check.verb ∧
        v.expected = check.expected ∧ e.OfVerdict v := by
  intro r
  have hverdicts : r.verdicts = settled plan validator exchanges := runAs_eq_settled hdone
  refine ⟨r.verdicts.map .ofVerdict, ?_, ?_, ?_, fun k check hk => ?_⟩
  · rw [Results.events, show r.scenarios = [] from rfl, List.map_nil, List.append_nil]
    rfl
  · rw [List.length_map, hverdicts, settled, List.length_mapIdx]
  · rw [← AuditEvent.tally_events r, show r.scenarios = [] from rfl, List.map_nil, List.append_nil]
  · have hv : r.verdicts[k]? = some (check.settle validator (exchanges k)) := by
      rw [hverdicts, getElem?_settled hk]
    have he := AuditEvent.ofVerdict_settle check validator (exchanges k)
    refine ⟨_, by rw [List.getElem?_map, hv, Option.map_some], _, hv, ?_, ?_, ?_, he⟩
    all_goals cases exchanges k <;> rfl

/-- The events of a workflow run are those of its scenarios, in their order. -/
theorem Config.trail_replayAll (c : Config) :
    let r : Results := ⟨[], c.replayAll⟩
    AuditEvent.Trail (r.events "workflow run") "workflow run" r.summary c.scenarios fun _ scenario e =>
      e.OfReplay scenario c.roster := by
  intro r
  refine ⟨c.replayAll.map .ofScenario, rfl, ?_, ?_, fun k scenario hk => ?_⟩
  · rw [List.length_map, replayAll, List.length_map]
  · rw [← AuditEvent.tally_events r]
    rfl
  · refine ⟨_, ?_, AuditEvent.ofReplay_run scenario c.roster⟩
    rw [List.getElem?_map, replayAll, List.getElem?_map, hk]
    rfl

/-- What a matrix run and a workflow run hand to the audit sink. Whatever the plan, the exchanges and the order
in which tasks start, end and are collected, a matrix run leaves one event for every planned check, in plan
order, which tells the verdict on that check, and then one event for the run with the counts of the others. A
workflow run leaves one event for every scenario, in their order, which tells how its replay ended, and then
one event for the run. -/
theorem Program.audit_trail [SettingsLibrary] [UrlLibrary] [JsonLibrary] [SchemaLibrary] (bound : Nat)
    (plan : List PlannedCheck) (validator : Validator) (exchanges : Nat → Exchange) (schedule : List Pool.Event)
    (hdone : ((Pool.new plan.length bound).after (Matrix.result plan validator exchanges) schedule).isDone =
      true) :
    let r : Results := ⟨Matrix.runAs schedule bound plan validator exchanges, []⟩
    (AuditEvent.Trail (r.events "matrix run") "matrix run" r.summary plan fun k check e =>
      ∃ v, r.verdicts[k]? = some v ∧ v.resource = check.resource ∧ v.verb = check.verb ∧
        v.expected = check.expected ∧ e.OfVerdict v) ∧
    (∀ s o c url schemas sink, configuration s o = .ok c → c.target.url = .ok url →
      SchemaRegistry.ofConfig s.disk c = .ok schemas → openAudit s c = .ok sink →
      c.plan = plan → schemas.validator = validator →
      (∀ (k : Nat) (check : PlannedCheck), plan[k]? = some check →
        exchanges k = s.transport url c.target.timeoutMs check.verb check.resource.path) →
      ∃ a, run s o = .ok a ∧ a.Records sink s.now (r.events "matrix run")) ∧
    ∀ s o c sink, configuration s o = .ok c → openAudit s c = .ok sink →
      let w : Results := ⟨[], c.replayAll⟩
      (AuditEvent.Trail (w.events "workflow run") "workflow run" w.summary c.scenarios fun _ scenario e =>
        e.OfReplay scenario c.roster) ∧
      ∃ a, workflow s o = .ok a ∧ a.Records sink s.now (w.events "workflow run") := by
  intro r
  refine ⟨Matrix.trail_of_isDone hdone, ?_, ?_⟩
  · rintro s o c url schemas sink hconfig hurl hschemas hsink rfl rfl hexchanges
    have hverdicts : r = ⟨Matrix.settled c.plan schemas.validator exchanges, []⟩ :=
      congrArg (Results.mk · []) (Matrix.runAs_eq_settled hdone)
    rw [hverdicts]
    exact ⟨_, run_eq hconfig hurl hschemas hsink hexchanges, records_finish ..⟩
  · intro s o c sink hconfig hsink w
    exact ⟨c.trail_replayAll, _, workflow_eq hconfig hsink, records_finish ..⟩

namespace Program

/-- The twenty tasks of the sample's plan, the last one first. -/
def sampleSchedule : List Pool.Event :=
  (List.range 20).reverse.flatMap fun i => [.start i, .finish i, .collect i]

theorem url_sample : ∃ url, sampleConfig.target.url = .ok url := by
  have hsome : sampleConfig.target.url.toOption.isSome = true := by decide +kernel
  cases h : sampleConfig.target.url with
  | ok url => exact ⟨url, rfl⟩
  | error fault =>
    rw [h] at hsome
    cases hsome

theorem audit_trail_sample :
    let r : Results := ⟨Matrix.runAs sampleSchedule 4 sampleConfig.plan .idle fun _ => .died, []⟩
    let w : Results := ⟨[], sampleConfig.replayAll⟩
    (∃ trail : List AuditEvent,
      r.events "matrix run" = trail ++ [.run "matrix run" r.summary.status r.summary] ∧
      trail.length = 20) ∧
    (∃ a, run sampleSurroundings ⟨some "flow.toml", none, none⟩ = .ok a ∧
      a.Records .stderr 0 (r.events "matrix run")) ∧
    ∃ a, workflow sampleSurroundings ⟨some "flow.toml", none, none⟩ = .ok a ∧
      a.Records .stderr 0 (w.events "workflow run") := by
  intro r w
  obtain ⟨htrail, hrun, hworkflow⟩ := audit_trail 4 sampleConfig.plan .idle (fun _ => .died) sampleSchedule
    (by decide +kernel)
  obtain ⟨trail, hevents, hlength, -⟩ := htrail
  obtain ⟨url, hurl⟩ := url_sample
  refine ⟨⟨trail, hevents, hlength.trans (by decide +kernel)⟩, ?_, ?_⟩
  · exact hrun sampleSurroundings ⟨some "flow.toml", none, none⟩ _ url .empty .stderr configuration_sample
      hurl rfl rfl rfl rfl fun _ _ _ => rfl
  · exact (hworkflow sampleSurroundings ⟨some "flow.toml", none, none⟩ _ .stderr configuration_sample rfl).2

end Program

end Conformance
