import Mathlib
import Conformance.Proofs.Run.Finish
import Conformance.Proofs.Run.Layers
import Conformance.Proofs.Wizard.Builtin
/-!
# What a workflow run comes to

A workflow run replays scenarios and exchanges nothing, so it passes or fails and nothing is left open. It
passes exactly if the recipient of the built-in scenario is on the roster and every configured scenario
passes.
-/

namespace Conformance

/-! ## The built-in scenario -/

namespace Scenario

variable {roster : List Recipient}

theorem passed_builtin_iff : (builtin.run roster).passed = true ↔ asked ∈ roster := by
  rw [run_builtin]
  split <;> simp [ScenarioVerdict.passed, *]

end Scenario

/-! ## All scenarios -/

namespace Config

/-- Every scenario of a workflow run passes. -/
def WorkflowPasses (c : Config) : Prop :=
  ⟨"receiver-0"⟩ ∈ c.roster ∧
    ∀ scenario ∈ c.workflow.scenarios, (scenario.run c.roster).passed = true

theorem fails_replayAll_iff {c : Config} : Results.Fails ⟨[], c.replayAll⟩ ↔ ¬ c.WorkflowPasses := by
  have hpassed (v : ScenarioVerdict) : v.failure ≠ none ↔ ¬ v.passed = true := by
    simp [ScenarioVerdict.passed]
  rw [WorkflowPasses, ← Scenario.asked, ← Scenario.passed_builtin_iff, not_and_or]
  simp [Results.Fails, replayAll, scenarios, hpassed]

theorem not_stalls_replayAll (c : Config) : ¬ Results.Stalls ⟨[], c.replayAll⟩ := by simp [Results.Stalls]

end Config

namespace Program

variable {s : Surroundings} {o : Options} {c : Config} {sink : AuditSink}

section Libraries
variable [SettingsLibrary] [UrlLibrary]

/-- What nothing overrides is taken as it was loaded. -/
theorem configuration_of_load (hload : Config.load s.disk o.config s.environment = .ok c)
    (henv : s.environment.overrides = .ok ⟨none, none, none⟩) (hurl : o.baseUrl = none)
    (hvalid : c.fault? = none) : configuration s o = .ok c := by
  have hsame : (c.override ⟨none, none, none⟩).withBaseUrl o.baseUrl = c := by rw [hurl]; rfl
  rw [configuration_eq hload henv, hsame, hvalid]
  rfl

/-- A workflow run ends with the verdicts on all scenarios, in their order. -/
theorem workflow_eq (hconfig : configuration s o = .ok c) (hsink : openAudit s c = .ok sink) :
    workflow s o = .ok (finish s sink "workflow run" ⟨[], c.replayAll⟩ (o.format.getD .text)) := by
  rw [workflow, hconfig]
  simp only [bind, Except.bind]
  rw [hsink]
  rfl

/-- A workflow run exits with 0 exactly if the roster has the recipient the built-in scenario asks for and
every configured scenario passes on that roster. Otherwise it exits with 1. The built-in scenario passes
exactly on the rosters with that recipient, ready to submit after five transitions; on any other roster it
fails where it expects the recipient to be on display, in the middle of the choice. -/
theorem workflow_exit [JsonLibrary] [SchemaLibrary] [ArgumentLibrary] (s : Surroundings) (arguments : List String)
    (o : Options) (c : Config) (sink : AuditSink)
    (hrequest : ArgumentLibrary.read arguments = .ok (.perform .workflow o))
    (hconfig : configuration s o = .ok c) (hsink : openAudit s c = .ok sink) :
    let exit := (answer s arguments).exit
    (exit = 0 ↔ ⟨"receiver-0"⟩ ∈ c.roster ∧
      ∀ scenario ∈ c.workflow.scenarios, (scenario.run c.roster).passed = true) ∧
    (exit = 0 ∨ exit = 1) ∧
    ∀ roster : List Recipient,
      let v := Scenario.builtin.run roster
      (v.passed = true ↔ ⟨"receiver-0"⟩ ∈ roster) ∧
      (v.passed = true → v.finalPhase.label = "ready_to_submit" ∧ v.transitions.length = 5) ∧
      (v.passed = false → v.finalPhase.label = "recipient_selection" ∧ v.transitions.length = 3 ∧
        v.failure = some ⟨6, .expectVisible, "receiver-0", "expected visible=true, observed visible=false"⟩) := by
  intro exit
  have htells := tells_finish s sink "workflow run" ⟨[], c.replayAll⟩ (o.format.getD .text)
  have hanswer : answer s arguments =
      finish s sink "workflow run" ⟨[], c.replayAll⟩ (o.format.getD .text) := by
    rw [answer, hrequest]
    simp only [perform]
    rw [workflow_eq hconfig hsink]
  rw [← hanswer] at htells
  refine ⟨?_, ?_, fun roster => ⟨Scenario.passed_builtin_iff, fun h => ?_, fun h => ?_⟩⟩
  · rw [htells.pass, Results.status_eq_pass_iff, Config.fails_replayAll_iff, not_not]
    exact and_iff_left c.not_stalls_replayAll
  · by_cases h : c.WorkflowPasses
    · refine .inl (htells.pass.2 (Results.status_eq_pass_iff.2 ⟨?_, c.not_stalls_replayAll⟩))
      rwa [Config.fails_replayAll_iff, not_not]
    · exact .inr (htells.fail.2 (Results.status_eq_fail_iff.2 (Config.fails_replayAll_iff.2 h)))
  · rw [Scenario.run_builtin, if_pos (Scenario.passed_builtin_iff.1 h)]
    exact ⟨rfl, rfl⟩
  · have hmissing : Scenario.asked ∉ roster := by
      rw [← Scenario.passed_builtin_iff, h]
      exact Bool.false_ne_true
    rw [Scenario.run_builtin, if_neg hmissing]
    exact ⟨rfl, rfl, rfl⟩

end Libraries

/-- A configuration file with two recipients, the one the built-in scenario asks for last, and a scenario. -/
def sampleText : String :=
  "[workflow]\nrecipients=[\"receiver-3\",\"receiver-0\"]\n" ++
  "scenarios=[\x7bname=\"start\",steps=[\x7baction=\"click\",element=\"step-0-link\"\x7d]\x7d]\n"

/-- What the file says. -/
def sampleConfig : Config :=
  { Config.standard with
    workflow := ⟨["receiver-3", "receiver-0"], [⟨"start", [⟨"step-0-link", .click⟩]⟩]⟩ }

/-- A disk with that file, and no variable set. -/
def sampleSurroundings : Surroundings where
  disk := ⟨fun _ => .ok sampleText.toUTF8, fun _ => true, fun _ => .error .notFound⟩
  environment := fun _ => none
  transport := fun _ _ _ _ => .died
  now := 0

theorem configuration_sample :
    configuration sampleSurroundings ⟨some "flow.toml", none, none⟩ =
      .ok { sampleConfig with baseDir := Path.parent? "flow.toml" } := by
  have hdecode : Config.decode sampleText = .ok sampleConfig := by cbv
  have hvalid : { sampleConfig with baseDir := Path.parent? "flow.toml" }.fault? = none := by decide +kernel
  have hnamed : sampleSurroundings.environment.text .configPath = .ok none := rfl
  have hread : sampleSurroundings.disk.read "flow.toml" = .ok sampleText.toUTF8 := rfl
  have hload := Config.load_of_text hnamed (by decide +kernel) hread (by decide +kernel) hdecode hvalid
  exact configuration_of_load (o := ⟨some "flow.toml", none, none⟩) hload rfl rfl hvalid

theorem workflow_exit_sample :
    ArgumentLibrary.read ["workflow", "run", "--config", "flow.toml"] =
      .ok (.perform .workflow ⟨some "flow.toml", none, none⟩) ∧
    configuration sampleSurroundings ⟨some "flow.toml", none, none⟩ =
      .ok { sampleConfig with baseDir := Path.parent? "flow.toml" } ∧
    (answer sampleSurroundings ["workflow", "run", "--config", "flow.toml"]).exit = 0 ∧
    (Scenario.builtin.run [⟨"receiver-3"⟩]).transitions.length = 3 := by
  have hrequest : ArgumentLibrary.read ["workflow", "run", "--config", "flow.toml"] =
      .ok (.perform .workflow ⟨some "flow.toml", none, none⟩) := by cbv
  have hscenario : ∀ scenario ∈ [Scenario.mk "start" [⟨"step-0-link", .click⟩]],
      (scenario.run [⟨"receiver-3"⟩, ⟨"receiver-0"⟩]).passed = true := by decide +kernel
  obtain ⟨hzero, -, hbuiltin⟩ :=
    workflow_exit sampleSurroundings _ _ _ .stderr hrequest configuration_sample rfl
  obtain ⟨hpassed, -, hfailed⟩ := hbuiltin [⟨"receiver-3"⟩]
  have hmissing : ¬ (⟨"receiver-0"⟩ : Recipient) ∈ [⟨"receiver-3"⟩] := by decide
  refine ⟨hrequest, configuration_sample, hzero.2 ⟨by decide, hscenario⟩, ?_⟩
  exact (hfailed (Bool.eq_false_iff.2 (mt hpassed.1 hmissing))).2.1

end Program

end Conformance
