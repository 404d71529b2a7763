import Conformance.Run.Command
import Conformance.Proofs.Config.Valid
/-!
# The names of scenarios

Verdicts and audit events go by the names of their scenarios. The names of the configured scenarios are
compared with one another, while a replay puts the built-in scenario in front of them. So its name is
the one name that may come twice.
-/

namespace Conformance

/-- The scenario an event is about, by its name. -/
def AuditEvent.scenarioName? : AuditEvent → Option String
  | .scenario name .. => some name
  | .verdict .. | .run .. => none

/-- The names in the log of a replay are those of its verdicts, in order. -/
theorem Results.filterMap_scenarioName?_events (vs : List ScenarioVerdict) (command : String) :
    ((Results.mk [] vs).events command).filterMap AuditEvent.scenarioName? = vs.map (·.scenario) := by
  have hscenarios : (vs.map AuditEvent.ofScenario).filterMap AuditEvent.scenarioName? =
      vs.map (·.scenario) := by
    rw [List.filterMap_map]
    exact congrFun (List.filterMap_eq_map (f := ScenarioVerdict.scenario)) vs
  rw [events, List.filterMap_append, List.filterMap_append, hscenarios]
  exact List.append_nil _

theorem Scenario.scenario_run (scenario : Scenario) (roster : List Recipient) :
    (scenario.run roster).scenario = scenario.name := rfl

namespace Config
variable {c : Config}

/-- The names of the scenarios that are replayed. -/
def scenarioNames (c : Config) : List String := c.scenarios.map (·.name)

theorem scenarioNames_eq (c : Config) :
    c.scenarioNames = Scenario.builtin.name :: c.workflow.scenarios.map (·.name) := rfl

/-- The verdicts of a replay carry the names of its scenarios, in order. -/
theorem map_scenario_replayAll (c : Config) : c.replayAll.map (·.scenario) = c.scenarioNames := by
  rw [replayAll, List.map_map, scenarioNames]
  exact List.map_congr_left fun scenario _ => scenario.scenario_run c.roster

theorem Valid.nodup_scenarioNames_iff [UrlLibrary] (hc : c.Valid) :
    c.scenarioNames.Nodup ↔ ∀ s ∈ c.workflow.scenarios, s.name ≠ Scenario.builtin.name := by
  rw [scenarioNames_eq, List.nodup_cons, and_iff_left hc.workflow.distinctNames, List.mem_map]
  constructor
  · intro h s hs hname
    exact h ⟨s, hs, hname⟩
  · rintro h ⟨s, hs, hname⟩
    exact h s hs hname

/-- What is replayed goes by distinct names exactly if no configured scenario has the name of the built-in one,
in the verdicts of a report as in the events of an audit log. No other name comes twice, and that one comes at
most twice. -/
theorem scenarios_distinct_iff [UrlLibrary] (c : Config) (h : c.fault? = none) :
    (c.scenarioNames.Nodup ↔ ∀ s ∈ c.workflow.scenarios, s.name ≠ Scenario.builtin.name) ∧
    c.replayAll.map (·.scenario) = c.scenarioNames ∧
    (∀ command, ((Results.mk [] c.replayAll).events command).filterMap AuditEvent.scenarioName? =
      c.scenarioNames) ∧
    (∀ name, name ≠ Scenario.builtin.name → c.scenarioNames.count name ≤ 1) ∧
    c.scenarioNames.count Scenario.builtin.name ≤ 2 := by
  have hc : c.Valid := fault?_eq_none_iff.1 h
  have hconfigured : ∀ name, (c.workflow.scenarios.map (·.name)).count name ≤ 1 :=
    List.nodup_iff_count_le_one.1 hc.workflow.distinctNames
  refine ⟨hc.nodup_scenarioNames_iff, c.map_scenario_replayAll, ?_, ?_, ?_⟩
  · intro command
    rw [Results.filterMap_scenarioName?_events, map_scenario_replayAll]
  · intro name hname
    rw [scenarioNames_eq, List.count_cons_of_ne hname.symm]
    exact hconfigured name
  · rw [scenarioNames_eq, List.count_cons_self]
    have hle := hconfigured Scenario.builtin.name
    omega

theorem twoNames_distinct :
    let c : Config :=
      { standard with workflow := ⟨["receiver-0"], [⟨"on entry", [⟨"SubmitButton", .expectEnabled false⟩]⟩]⟩ }
    c.fault? = none ∧ c.scenarioNames = ["submission blocked until recipient selected", "on entry"] ∧
      c.scenarioNames.Nodup := by
  intro c
  have hfault : c.fault? = none := by decide +kernel
  refine ⟨hfault, rfl, (c.scenarios_distinct_iff hfault).1.2 ?_⟩
  intro s hs
  obtain rfl := List.mem_singleton.1 hs
  decide

/-- A configured scenario under the name of the built-in one is accepted. Of the two verdicts under that name
one is a success and the other a failure. -/
theorem builtin_name_taken :
    let c : Config :=
      { standard with
        workflow := ⟨["receiver-0"], [⟨"submission blocked until recipient selected",
          [⟨"SubmitButton", .expectEnabled true⟩]⟩]⟩ }
    c.fault? = none ∧ ¬ c.scenarioNames.Nodup ∧
      ∃ v w, c.replayAll = [v, w] ∧ v.scenario = w.scenario ∧ v.passed = true ∧ w.passed = false := by
  intro c
  refine ⟨by decide +kernel, ?_, _, _, rfl, rfl, by decide +kernel, by decide +kernel⟩
  decide

end Config

end Conformance
