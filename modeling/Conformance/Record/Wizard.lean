import Conformance.Record.Fields
import Conformance.Wizard.Scenario
/-!
# Records of the wizard

The JSON forms of phases, transitions, refusals and receipts, and of scenarios with their verdicts. A
step has two words: `word` in JSON forms, `WizardStep.label` in messages and in the journal's phases.
-/

namespace Conformance

/-! ## Gate -/

/-- The word for a step in JSON forms. -/
def WizardStep.word : WizardStep → String
  | .form => "step0"
  | .recipients => "recipient_selection"

/-- The step a word stands for. -/
def WizardStep.ofWord? (s : String) : Option WizardStep := WizardStep.all.find? fun w => w.word == s

def WizardStep.ofJson? : Json → Option WizardStep := Record.word? Record.isNull ofWord?

def WizardStep.toJson (s : WizardStep) : Json := .string s.word

/-- The JSON form of a phase's name in messages. -/
def PhaseName.toJson (p : PhaseName) : Json := .string p.label

/-- Reads a phase's name. -/
def PhaseName.ofJson? (v : Json) : Option PhaseName := v.string?.bind ofLabel?

def Phase.toJson : Phase → Json
  | .form => .object [("phase", .string "step0")]
  | .errorsShown => .object [("phase", .string "errors_shown")]
  | .choosing selected => .object [
    ("phase", .string "recipient_selection"),
    ("selected", .optional (fun r => .string r.id) selected)]
  | .ready recipient => .object [
    ("phase", .string "ready_to_submit"),
    ("recipient", .string recipient.id)]
  | .submitted => .object [("phase", .string "submitted")]
  | .abandoned => .object [("phase", .string "abandoned")]

/-- The JSON form of a gate's state. -/
def Gate.State.toJson (s : Gate.State) : Json := .object [
  ("active_step", .optional WizardStep.toJson s.activeStep),
  ("errors_visible", .boolean s.errorsVisible),
  ("submit_enabled", .boolean s.submitEnabled)]

/-- What an operation records besides its word. -/
def Operation.members : Operation → List (String × Json)
  | .openStep step => [("step", step.toJson)]
  | .enterField field => [("field", .string field.text)]
  | .select recipient => [("recipient", .string recipient.id)]
  | .dismissErrors | .advance | .submit | .abandon => []

def Operation.toJson (o : Operation) : Json := .object (("operation", .string o.label) :: o.members)

def Operation.ofJson? : Json → Option Operation
  | .object ms => do
    match ← Record.required? ms "operation" Json.string? with
    | "open_step" => (Record.required? ms "step" WizardStep.ofJson?).map .openStep
    | "enter_field" =>
      (Record.required? ms "field" fun v => v.string?.bind FieldId.parse?).map .enterField
    | "dismiss_error_panel" => some .dismissErrors
    | "select_recipient" => (Record.required? ms "recipient" Json.string?).map fun id => .select ⟨id⟩
    | "advance_step" => some .advance
    | "submit" => some .submit
    | "abandon" => some .abandon
    | _ => none
  | _ => none

def Transition.toJson (t : Transition) : Json := .object [
  ("from", t.source.toJson),
  ("to", t.target.toJson),
  ("operation", t.operation.toJson)]

def Transition.ofJson? : Json → Option Transition
  | .object ms => do
    let source ← Record.required? ms "from" PhaseName.ofJson?
    let target ← Record.required? ms "to" PhaseName.ofJson?
    let operation ← Record.required? ms "operation" Operation.ofJson?
    return ⟨source, target, operation⟩
  | _ => none

def Receipt.toJson (r : Receipt) : Json := .object [
  ("recipient", .string r.recipient.id),
  ("fields", .object (r.fields.entries.map fun (id, value) => (id, .string value)))]

/-- What a refusal says besides its kind. -/
def Refusal.members : Refusal → List (String × Json)
  | .stepNotActive operation required phase => [
    ("operation", .string operation.label),
    ("required", required.toJson),
    ("phase", phase.toJson)]
  | .fieldOfOtherStep field step => [("field", .string field.text), ("step", step.toJson)]
  | .blankValue field => [("field", .string field.text)]
  | .unknownRecipient recipient => [("recipient", .string recipient.id)]
  | .stepIncomplete step => [("step", step.toJson), ("reason", .string missingChoice)]
  | .errorsNotShown phase | .noNextStep phase | .cannotSubmit phase | .closed phase =>
    [("phase", phase.toJson)]

def Refusal.toJson (r : Refusal) : Json := .object (("kind", .string r.label) :: r.members)

/-! ## Scenarios -/

/-- What a deed says besides its word. -/
def ScenarioDeed.members : ScenarioDeed → List (String × Json)
  | .click => []
  | .sendKeys text => [("text", .string text)]
  | .expectVisible visible => [("visible", .boolean visible)]
  | .expectEnabled enabled => [("enabled", .boolean enabled)]

def ScenarioStep.toJson (s : ScenarioStep) : Json :=
  .object (("action", .string s.deed.label) :: ("element", .string s.element) :: s.deed.members)

def Scenario.toJson (s : Scenario) : Json := .object [
  ("name", .string s.name),
  ("steps", .array (s.steps.map ScenarioStep.toJson))]

/-- Reads what belongs to the word of a deed. The flag of an expectation is true when left out. -/
def ScenarioStep.ofParts? (word : String) (rest : Json) : Option ScenarioStep :=
  let read (extra : List String) (deed : List (String × Json) → Option ScenarioDeed) := do
    let ms ← Record.fields? ("element" :: extra) true .refused rest
    let element ← Record.required? ms "element" Json.string?
    return ⟨element, ← deed ms⟩
  let flag (name : String) (deed : Bool → ScenarioDeed) :=
    read [name] fun ms => (Record.withDefault? ms name Json.boolean? true).map deed
  match ScenarioDeed.Kind.ofLabel? word with
  | some .click => read [] fun _ => some .click
  | some .sendKeys => read ["text"] fun ms => (Record.required? ms "text" Json.string?).map .sendKeys
  | some .expectVisible => flag "visible" .expectVisible
  | some .expectEnabled => flag "enabled" .expectEnabled
  | none => none

/-- Reads a scenario step, which has no key besides those of its action. -/
def ScenarioStep.ofJson? : Json → Option ScenarioStep
  | .object ms => do
    let word ← Record.required? ms "action" Json.string?
    ofParts? word (.object (ms.filter fun m => m.1 != "action"))
  | .array (.string word :: rest) => ofParts? word (.array rest)
  | _ => none

/-- Reads a scenario, which has no key besides its two. -/
def Scenario.ofJson? (spare : Record.Spare) (v : Json) : Option Scenario := do
  let ms ← Record.fields? ["name", "steps"] true spare v
  let name ← Record.required? ms "name" Json.string?
  let steps ← Record.required? ms "steps" (Record.list? ScenarioStep.ofJson?)
  return ⟨name, steps⟩

def ScenarioFailure.toJson (f : ScenarioFailure) : Json := .object [
  ("step", .nat f.index),
  ("action", .string f.action.label),
  ("element", .string f.element),
  ("reason", .string f.reason)]

def ScenarioVerdict.toJson (v : ScenarioVerdict) : Json := .object [
  ("scenario", .string v.scenario),
  ("final_phase", v.finalPhase.toJson),
  ("transitions", .array (v.transitions.map Transition.toJson)),
  ("failure", .optional ScenarioFailure.toJson v.failure)]

def ScenarioFailure.ofJson? : Json → Option ScenarioFailure
  | .object ms => do
    let index ← Record.required? ms "step" Record.natural?
    let action ← Record.required? ms "action" fun v => v.string?.bind ScenarioDeed.Kind.ofLabel?
    let element ← Record.required? ms "element" Json.string?
    let reason ← Record.required? ms "reason" Json.string?
    return ⟨index, action, element, reason⟩
  | _ => none

def ScenarioVerdict.ofJson? : Json → Option ScenarioVerdict
  | .object ms => do
    let scenario ← Record.required? ms "scenario" Json.string?
    let finalPhase ← Record.required? ms "final_phase" PhaseName.ofJson?
    let transitions ← Record.required? ms "transitions" (Record.list? Transition.ofJson?)
    let failure ← Record.required? ms "failure" (Record.nullable? ScenarioFailure.ofJson?)
    return ⟨scenario, finalPhase, transitions, failure⟩
  | _ => none

end Conformance
