import Conformance.Wizard.FieldId
import Conformance.Wizard.KeyMap
/-!
# The submission wizard

A submission passes through two steps: the form with its fields, and the choice of a recipient. `Phase`
is where a submission stands, `Command` what a caller may ask for, `Operation` what the journal
keeps of an accepted command, and `Refusal` why a command was not accepted. `Element` is what stands on the page.
-/

namespace Conformance

/-! ## Steps and phases -/

/-- A step of the wizard. -/
inductive WizardStep where
  | form
  | recipients
deriving DecidableEq, Repr

namespace WizardStep

def all : List WizardStep := [.form, .recipients]

/-- The step number that field ids carry; only the form has fields. -/
def number? : WizardStep → Option UInt32
  | .form => some 0
  | .recipients => none

/-- The name of a step in messages. -/
def label : WizardStep → String
  | .form => "step_0"
  | .recipients => "recipient_selection"

end WizardStep

/-- Someone a submission can be addressed to. -/
structure Recipient where
  id : String
deriving DecidableEq, Repr

/-- Where a submission stands. -/
inductive Phase where
  | form
  | errorsShown
  | choosing (selected : Option Recipient)
  | ready (recipient : Recipient)
  | submitted
  | abandoned
deriving DecidableEq, Repr

/-- A phase without its recipient. -/
inductive PhaseName where
  | form
  | errorsShown
  | choosing
  | ready
  | submitted
  | abandoned
deriving DecidableEq, Repr

namespace PhaseName

def all : List PhaseName := [.form, .errorsShown, .choosing, .ready, .submitted, .abandoned]

/-- The word for a phase in messages and in the journal. -/
def label : PhaseName → String
  | .form => "step_0"
  | .errorsShown => "errors_shown"
  | .choosing => "recipient_selection"
  | .ready => "ready_to_submit"
  | .submitted => "submitted"
  | .abandoned => "abandoned"

def ofLabel? (s : String) : Option PhaseName := all.find? fun p => p.label == s

theorem ofLabel?_label (p : PhaseName) : ofLabel? p.label = some p := by cases p <;> rfl

end PhaseName

namespace Phase

/-- The phase without its recipient. -/
def name : Phase → PhaseName
  | .form => .form
  | .errorsShown => .errorsShown
  | .choosing _ => .choosing
  | .ready _ => .ready
  | .submitted => .submitted
  | .abandoned => .abandoned

/-- Nothing is accepted any more. -/
def isClosed : Phase → Bool
  | .submitted | .abandoned => true
  | _ => false

/-- The step a caller can act on. -/
def activeStep? : Phase → Option WizardStep
  | .form | .errorsShown => some .form
  | .choosing _ | .ready _ => some .recipients
  | .submitted | .abandoned => none

/-- The error panel is on display. -/
def showsErrors (p : Phase) : Bool := p == .errorsShown

/-- A submission would be accepted. -/
def canSubmit : Phase → Bool
  | .ready _ => true
  | _ => false

end Phase

/-! ## Commands and their record -/

/-- What a caller may ask for. -/
inductive Command where
  | openStep (step : WizardStep)
  | enterField (step : WizardStep) (field : FieldId) (value : String)
  | dismissErrors
  | select (recipient : Recipient)
  | advance
  | submit
  | abandon
deriving DecidableEq, Repr

/-- What the journal keeps of an accepted command: everything but a field's value. -/
inductive Operation where
  | openStep (step : WizardStep)
  | enterField (field : FieldId)
  | dismissErrors
  | select (recipient : Recipient)
  | advance
  | submit
  | abandon
deriving DecidableEq, Repr

/-- The record of a command. -/
def Command.operation : Command → Operation
  | .openStep step => .openStep step
  | .enterField _ field _ => .enterField field
  | .dismissErrors => .dismissErrors
  | .select recipient => .select recipient
  | .advance => .advance
  | .submit => .submit
  | .abandon => .abandon

def Operation.label : Operation → String
  | .openStep _ => "open_step"
  | .enterField _ => "enter_field"
  | .dismissErrors => "dismiss_error_panel"
  | .select _ => "select_recipient"
  | .advance => "advance_step"
  | .submit => "submit"
  | .abandon => "abandon"

/-- One accepted command. -/
structure Transition where
  source : PhaseName
  target : PhaseName
  operation : Operation
deriving DecidableEq, Repr

/-- What an accepted submission hands over: the entered values go by the texts of their fields. -/
structure Receipt where
  recipient : Recipient
  fields : KeyMap String String
deriving DecidableEq, Repr

/-! ## Refusals -/

/-- Why a command was not accepted. -/
inductive Refusal where
  | stepNotActive (operation : Operation) (required : WizardStep) (phase : PhaseName)
  | fieldOfOtherStep (field : FieldId) (step : WizardStep)
  | blankValue (field : FieldId)
  | errorsNotShown (phase : PhaseName)
  | unknownRecipient (recipient : Recipient)
  | stepIncomplete (step : WizardStep)
  | noNextStep (phase : PhaseName)
  | cannotSubmit (phase : PhaseName)
  | closed (phase : PhaseName)
deriving DecidableEq, Repr

namespace Refusal

/-- What an incomplete step lacks. -/
def missingChoice : String := "no recipient selected"

def label : Refusal → String
  | .stepNotActive _ _ _ => "step_not_active"
  | .fieldOfOtherStep _ _ => "field_step_mismatch"
  | .blankValue _ => "empty_field_value"
  | .errorsNotShown _ => "error_panel_not_visible"
  | .unknownRecipient _ => "unknown_recipient"
  | .stepIncomplete _ => "step_incomplete"
  | .noNextStep _ => "no_next_step"
  | .cannotSubmit _ => "submission_not_enabled"
  | .closed _ => "wizard_closed"

def text : Refusal → String
  | .stepNotActive operation required phase =>
    operation.label ++ " requires step " ++ required.label ++ " but " ++ phase.label ++ " is active"
  | .fieldOfOtherStep field step =>
    "field " ++ field.text ++ " does not belong to step " ++ step.label
  | .blankValue field => "field " ++ field.text ++ " requires a non-empty value"
  | .errorsNotShown phase => "error panel is not visible in phase " ++ phase.label
  | .unknownRecipient recipient => "recipient " ++ recipient.id ++ " is not selectable"
  | .stepIncomplete step => "step " ++ step.label ++ " is incomplete: " ++ missingChoice
  | .noNextStep phase => "no step follows the current phase " ++ phase.label
  | .cannotSubmit phase => "submission is not enabled in phase " ++ phase.label
  | .closed phase => "wizard is closed (" ++ phase.label ++ ")"

end Refusal

/-! ## Page elements

The elements of the page through which a submission is driven: six fixed ones, one for every recipient,
and one for every field. The text of an element is its id on the page.
-/

/-- An element of the page. -/
inductive Element where
  | form
  | formLink
  | field (field : FieldId)
  | errorPanel
  | errorLink
  | recipient (recipient : Recipient)
  | nextButton
  | submitButton
deriving DecidableEq, Repr

namespace Element

/-- The id of an element. -/
def text : Element → String
  | .form => "submissionForm"
  | .formLink => "step-0-link"
  | .field f => f.text
  | .errorPanel => "SubmissionErrors"
  | .errorLink => "#SubmissionErrors span.err-link"
  | .recipient r => r.id
  | .nextButton => "NextStepButton"
  | .submitButton => "SubmitButton"

/-- The word for the kind of an element. -/
def kind : Element → String
  | .form => "SubmissionForm"
  | .formLink => "StepLink"
  | .field _ => "Field"
  | .errorPanel => "SubmissionErrors"
  | .errorLink => "ErrorPanelLink"
  | .recipient _ => "Recipient"
  | .nextButton => "NextStepButton"
  | .submitButton => "SubmitButton"

/-- The elements that stand alone. -/
def fixed : List Element := [.form, .formLink, .errorPanel, .errorLink, .nextButton, .submitButton]

/-- The form of a recipient's id: `receiver-` and one or more digits. -/
def isRecipientId (s : String) : Bool :=
  "receiver-".toList.isPrefixOf s.toList && (Decimal.read? (s.toList.drop 9)).isSome

/-- The element an id names. -/
def parse? (s : String) : Option Element :=
  match fixed.find? fun e => e.text == s with
  | some e => some e
  | none =>
    if isRecipientId s then some (.recipient ⟨s⟩)
    else (FieldId.parse? s).map .field

/-- The text shown when an id names no element. -/
def unknownText (s : String) : String := "unknown element " ++ s

end Element

end Conformance
