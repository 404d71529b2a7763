import Conformance.Wizard.Surface
/-!
# Scenarios

A scenario is a script of actions and expectations on page elements, replayed against a fresh page.
The first step that does not hold ends the replay; its verdict carries that step and what the gate has
journalled by then.
-/

namespace Conformance

/-! ## Steps -/

/-- What a step does to its element. -/
inductive ScenarioDeed where
  | click
  | sendKeys (text : String)
  | expectVisible (visible : Bool)
  | expectEnabled (enabled : Bool)
deriving DecidableEq, Repr

/-- A deed without its content. -/
inductive ScenarioDeed.Kind where
  | click
  | sendKeys
  | expectVisible
  | expectEnabled
deriving DecidableEq, Repr

namespace ScenarioDeed

/-- The deed without its content. -/
def kind : ScenarioDeed → Kind
  | .click => .click
  | .sendKeys _ => .sendKeys
  | .expectVisible _ => .expectVisible
  | .expectEnabled _ => .expectEnabled

def Kind.all : List Kind := [.click, .sendKeys, .expectVisible, .expectEnabled]

def Kind.label : Kind → String
  | .click => "click"
  | .sendKeys => "send_keys"
  | .expectVisible => "expect_visible"
  | .expectEnabled => "expect_enabled"

def Kind.ofLabel? (s : String) : Option Kind := all.find? fun k => k.label == s

theorem Kind.ofLabel?_label (k : Kind) : ofLabel? k.label = some k := by cases k <;> rfl

def label (d : ScenarioDeed) : String := d.kind.label

end ScenarioDeed

/-- One step of a script. -/
structure ScenarioStep where
  element : String
  deed : ScenarioDeed
deriving DecidableEq, Repr

/-- A named script. -/
structure Scenario where
  name : String
  steps : List ScenarioStep
deriving DecidableEq, Repr

/-- The scenario every replay starts with: nothing can be submitted before a recipient is confirmed. -/
def Scenario.builtin : Scenario where
  name := "submission blocked until recipient selected"
  steps := [
    ⟨"submissionForm", .expectVisible true⟩,
    ⟨"step-0-link", .click⟩,
    ⟨"step-0-field-0-0-input-0", .sendKeys "err-panel test"⟩,
    ⟨"SubmissionErrors", .expectVisible true⟩,
    ⟨"SubmitButton", .expectEnabled false⟩,
    ⟨"#SubmissionErrors span.err-link", .click⟩,
    ⟨"receiver-0", .expectVisible true⟩,
    ⟨"receiver-0", .click⟩,
    ⟨"SubmitButton", .expectEnabled false⟩,
    ⟨"NextStepButton", .click⟩,
    ⟨"SubmitButton", .expectEnabled true⟩]

/-! ## Replay -/

/-- Why a step did not hold. -/
inductive StepFault where
  | unknownElement (id : String)
  | noEffect (error : SurfaceError)
  | visible (expected : Bool)
  | enabled (expected : Bool)
deriving DecidableEq, Repr

/-- The words for a flag that is not as expected. -/
def flagText (flag : String) (expected : Bool) : String :=
  "expected " ++ flag ++ "=" ++ toString expected ++ ", observed " ++ flag ++ "=" ++ toString (!expected)

def StepFault.text : StepFault → String
  | .unknownElement id => Element.unknownText id
  | .noEffect error => error.text
  | .visible expected => flagText "visible" expected
  | .enabled expected => flagText "enabled" expected

/-- Carries out an action of a step. -/
def Surface.act (e : Element) (a : Action) : Work StepFault Surface Unit := (carryOut e a).adaptExcept .noEffect

/-- Carries out a step. An expectation only looks at the page. -/
def ScenarioStep.carryOut (step : ScenarioStep) : Work StepFault Surface Unit := do
  match Element.parse? step.element with
  | none => throw (.unknownElement step.element)
  | some e =>
    match step.deed with
    | .click => Surface.act e .click
    | .sendKeys text => Surface.act e (.sendKeys text)
    | .expectVisible expected => Work.failIf ((← get).isVisible e ≠ expected) (.visible expected)
    | .expectEnabled expected => Work.failIf ((← get).isEnabled e ≠ expected) (.enabled expected)

/-- The page after a step, or why the step does not hold. -/
def ScenarioStep.apply (step : ScenarioStep) (s : Surface) : Except StepFault Surface := step.carryOut.result s

/-- What is reported of the step that ended a replay. -/
structure ScenarioFailure where
  index : Nat
  action : ScenarioDeed.Kind
  element : String
  reason : String
deriving DecidableEq, Repr

/-- The report of a step at an index. -/
def ScenarioFailure.ofStep (index : Nat) (step : ScenarioStep) (fault : StepFault) : ScenarioFailure :=
  ⟨index, step.deed.kind, step.element, fault.text⟩

/-- Replays steps, counting from `index`: the page they lead to, and the step that did not hold. -/
def replay (s : Surface) (index : Nat) : List ScenarioStep → Surface × Option ScenarioFailure
  | [] => (s, none)
  | step :: rest =>
    match step.carryOut.run s with
    | .ok _ s => replay s (index + 1) rest
    | .error fault s => (s, some (.ofStep index step fault))

/-- The answer to a scenario. -/
structure ScenarioVerdict where
  scenario : String
  finalPhase : PhaseName
  transitions : List Transition
  failure : Option ScenarioFailure
deriving DecidableEq, Repr

/-- Every step held. -/
def ScenarioVerdict.passed (v : ScenarioVerdict) : Bool := v.failure.isNone

/-- The word for the outcome of a scenario. -/
def ScenarioVerdict.label (v : ScenarioVerdict) : String := if v.passed then "pass" else "fail"

/-- Replays a scenario on a fresh page for a roster. -/
def Scenario.run (scenario : Scenario) (roster : List Recipient) : ScenarioVerdict :=
  let (s, failure) := replay (.new (.new roster)) 0 scenario.steps
  ⟨scenario.name, s.gate.phase.name, s.gate.journal, failure⟩

end Conformance
