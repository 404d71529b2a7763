import Conformance.Wizard.Gate
import Conformance.Wizard.Basic
/-!
# Driving the gate through the page

A surface is a gate seen as a page: a click or typed keys on an element becomes a command, which is carried out on
the gate of the page in place, and the visible and enabled flags of an element are read off the phase. Clicks on
the form, the error panel and the fields have no command behind them and change nothing.
-/

namespace Conformance

/-- What can be done to an element. -/
inductive Action where
  | click
  | sendKeys (text : String)
deriving DecidableEq, Repr

def Action.label : Action → String
  | .click => "click"
  | .sendKeys _ => "send_keys"

/-- Why an action had no effect. -/
inductive SurfaceError where
  | unsupported (element : Element) (action : Action)
  | refused (refusal : Refusal)
deriving DecidableEq, Repr

def SurfaceError.text : SurfaceError → String
  | .unsupported element action => "element " ++ element.text ++ " does not accept " ++ action.label
  | .refused refusal => refusal.text

/-- A gate seen as a page, with the receipt of the submission made through it. -/
structure Surface where
  gate : Gate
  receipt : Option Receipt
deriving DecidableEq, Repr

namespace Surface

/-- The page of a gate. -/
def new (gate : Gate) : Surface := ⟨gate, none⟩

/-- What an action on an element means to the gate. -/
inductive Meaning where
  | command (command : Command)
  | nothing
  | unsupported
deriving DecidableEq, Repr

/-- The meaning of an action. Keys go to the active step, or to the form once the gate is closed. -/
def meaning (s : Surface) : Element → Action → Meaning
  | .formLink, .click => .command (.openStep .form)
  | .errorLink, .click => .command .dismissErrors
  | .recipient recipient, .click => .command (.select recipient)
  | .nextButton, .click => .command .advance
  | .submitButton, .click => .command .submit
  | .field field, .sendKeys text =>
    .command (.enterField (s.gate.phase.activeStep?.getD .form) field text)
  | .form, .click | .errorPanel, .click | .field _, .click => .nothing
  | _, .sendKeys _ => .unsupported

/-- Works on the gate of a page. -/
def onGate {α : Type} (x : Work Refusal Gate α) : Work SurfaceError Surface α := fun s =>
  match x.run s.gate with
  | .ok a gate => .ok a { s with gate := gate }
  | .error refusal gate => .error (.refused refusal) { s with gate := gate }

theorem run_onGate {α : Type} (x : Work Refusal Gate α) (s : Surface) :
    (onGate x).run s = match x.run s.gate with
      | .ok a gate => .ok a { s with gate := gate }
      | .error refusal gate => .error (.refused refusal) { s with gate := gate } := by
  rw [EStateM.run, onGate]

/-- Carries out a command on the gate. A submission leaves its receipt on the page. -/
def command (c : Command) : Work SurfaceError Surface Unit := do
  match ← onGate (Gate.carryOut c) with
  | some receipt => modify fun s => { s with receipt := some receipt }
  | none => return

/-- Carries out an action. -/
def carryOut (e : Element) (a : Action) : Work SurfaceError Surface Unit := do
  match (← get).meaning e a with
  | .command c => command c
  | .nothing => return
  | .unsupported => throw (.unsupported e a)

/-- The page after an action, or why it had no effect. -/
def perform (s : Surface) (e : Element) (a : Action) : Except SurfaceError Surface := (carryOut e a).result s

/-- An element is on display. Nothing is once the gate is closed. -/
def isVisible (s : Surface) (e : Element) : Bool :=
  let phase := s.gate.phase
  match phase.activeStep? with
  | none => false
  | some step =>
    match e with
    | .form | .formLink | .nextButton | .submitButton => true
    | .field field => step.number? == some field.step
    | .errorPanel | .errorLink => phase.showsErrors
    | .recipient recipient => step == .recipients && s.gate.roster.contains recipient

/-- An element reacts. -/
def isEnabled (s : Surface) (e : Element) : Bool :=
  match e with
  | .submitButton => s.gate.phase.canSubmit
  | .nextButton => s.isVisible e && !s.gate.phase.canSubmit
  | _ => s.isVisible e

end Surface

end Conformance
