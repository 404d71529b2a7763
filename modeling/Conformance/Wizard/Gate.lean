import Conformance.Wizard.Basic
/-!
# The submission gate

The gate accepts a command or refuses it. A command is carried out on the gate in place, step by step: its guards
are asked one after the other, a value it enters is stored, and in the end the gate moves on to the next phase and
adds one record to its journal. A step that fails ends the command, and what was done until then stays done.
-/

namespace Conformance

/-! ## Work in place -/

/-- Work on a state. It may fail half way. -/
abbrev Work (ε σ α : Type) := EStateM ε σ α

namespace Work
variable {ε σ α : Type}

/-- The state that work leads to, or why it failed. -/
def result (x : Work ε σ α) (s : σ) : Except ε σ :=
  match x.run s with
  | .ok _ t => .ok t
  | .error e _ => .error e

/-- The state that work leaves behind, whether it failed or not. -/
def left (x : Work ε σ α) (s : σ) : σ :=
  match x.run s with
  | .ok _ t | .error _ t => t

/-- Fails if a condition holds. -/
def failIf (c : Prop) [Decidable c] (e : ε) : Work ε σ Unit := if c then throw e else return

theorem run_failIf (c : Prop) [Decidable c] (e : ε) (s : σ) :
    (failIf c e : Work ε σ Unit).run s = if c then .error e s else .ok () s := by
  unfold failIf
  split <;> rfl

theorem left_of_result {x : Work ε σ α} {s t : σ} (h : x.result s = .ok t) : x.left s = t := by
  unfold result at h
  unfold left
  cases hx : x.run s with
  | ok a t =>
    rw [hx] at h
    exact Except.ok.inj h
  | error e t =>
    rw [hx] at h
    cases h

end Work

/-- Entered values, in the order of their fields. -/
abbrev FieldMap := KeyMap FieldId String

/-! ## Gates -/

/-- A submission under way. -/
structure Gate where
  phase : Phase
  /-- who may be selected -/
  roster : List Recipient
  fields : FieldMap
  /-- one record for every accepted command, oldest first -/
  journal : List Transition
deriving DecidableEq, Repr

/-- What a caller can see of a gate at a glance. -/
structure Gate.State where
  activeStep : Option WizardStep
  errorsVisible : Bool
  submitEnabled : Bool
deriving DecidableEq, Repr

namespace Gate

/-- A fresh submission to a roster. -/
def new (roster : List Recipient) : Gate := ⟨.form, roster, .empty, []⟩

/-- The state at a glance. -/
def state (g : Gate) : State := ⟨g.phase.activeStep?, g.phase.showsErrors, g.phase.canSubmit⟩

/-- The entered value of a field. -/
def field? (g : Gate) (field : FieldId) : Option String := g.fields.get? field

/-! ## Steps -/

/-- Fails if the gate is closed. -/
def ensureOpen : Work Refusal Gate Unit := do
  let g ← get
  Work.failIf g.phase.isClosed (.closed g.phase.name)

theorem run_ensureOpen (g : Gate) :
    ensureOpen.run g = if g.phase.isClosed then .error (.closed g.phase.name) g else .ok () g :=
  Work.run_failIf ..

/-- Fails unless a step is active. -/
def ensureActive (operation : Operation) (step : WizardStep) : Work Refusal Gate Unit := do
  let g ← get
  Work.failIf (g.state.activeStep ≠ some step) (.stepNotActive operation step g.phase.name)

theorem run_ensureActive (operation : Operation) (step : WizardStep) (g : Gate) :
    (ensureActive operation step).run g =
      if g.phase.activeStep? ≠ some step then .error (.stepNotActive operation step g.phase.name) g else .ok () g :=
  Work.run_failIf ..

/-- Stores the value of a field. -/
def insert (field : FieldId) (value : String) : Work Refusal Gate Unit :=
  modify fun g => { g with fields := g.fields.set field value }

theorem run_insert (field : FieldId) (value : String) (g : Gate) :
    (insert field value).run g = .ok () { g with fields := g.fields.set field value } := rfl

/-- Moves on to a phase and records the operation. -/
def commit (operation : Operation) (next : Phase) : Work Refusal Gate Unit := do
  let source := (← get).phase.name
  modify fun g => { g with phase := next }
  modify fun g => { g with journal := g.journal ++ [⟨source, g.phase.name, operation⟩] }

theorem run_commit (operation : Operation) (next : Phase) (g : Gate) : (commit operation next).run g =
    .ok () { g with phase := next, journal := g.journal ++ [⟨g.phase.name, next.name, operation⟩] } := rfl

/-! ## Commands -/

/-- Opens a step; only the active one can be opened. -/
def openStep (step : WizardStep) : Work Refusal Gate Unit := do
  ensureOpen
  ensureActive (.openStep step) step
  commit (.openStep step) (← get).phase

/-- Enters a value. Without a recipient the form stays incomplete, so its errors are shown. -/
def enterField (step : WizardStep) (field : FieldId) (value : String) : Work Refusal Gate Unit := do
  ensureOpen
  Work.failIf (step.number? ≠ some field.step) (.fieldOfOtherStep field step)
  ensureActive (.enterField field) step
  Work.failIf (Text.isBlankText value) (.blankValue field)
  insert field value
  commit (.enterField field) .errorsShown

/-- Goes from the error panel to the choice of a recipient. -/
def dismissErrors : Work Refusal Gate Unit := do
  ensureOpen
  let g ← get
  Work.failIf (g.phase ≠ .errorsShown) (.errorsNotShown g.phase.name)
  commit .dismissErrors (.choosing none)

/-- Selects a recipient of the roster. -/
def select (recipient : Recipient) : Work Refusal Gate Unit := do
  ensureOpen
  let g ← get
  match g.phase with
  | .choosing _ =>
    Work.failIf (recipient ∉ g.roster) (.unknownRecipient recipient)
    commit (.select recipient) (.choosing (some recipient))
  | _ => throw (.stepNotActive (.select recipient) .recipients g.phase.name)

/-- Completes the active step. -/
def advance : Work Refusal Gate Unit := do
  ensureOpen
  let g ← get
  match g.phase with
  | .form | .errorsShown => throw (.stepIncomplete .form)
  | .choosing none => throw (.stepIncomplete .recipients)
  | .choosing (some recipient) => commit .advance (.ready recipient)
  | _ => throw (.noNextStep g.phase.name)

/-- Submits, and hands over a receipt. -/
def submit : Work Refusal Gate Receipt := do
  ensureOpen
  let g ← get
  match g.phase with
  | .ready recipient =>
    let receipt : Receipt := ⟨recipient, g.fields.rekey FieldId.text⟩
    commit .submit .submitted
    return receipt
  | _ => throw (.cannotSubmit g.phase.name)

/-- Abandons the submission. -/
def abandon : Work Refusal Gate Unit := do
  ensureOpen
  commit .abandon .abandoned

/-- Carries out a command. A submission hands over its receipt. -/
def carryOut (c : Command) : Work Refusal Gate (Option Receipt) := do
  match c with
  | .openStep step => openStep step
  | .enterField step field value => enterField step field value
  | .dismissErrors => dismissErrors
  | .select recipient => select recipient
  | .advance => advance
  | .submit => return some (← submit)
  | .abandon => abandon
  return none

/-- The gate after a command, or why it was refused. -/
def apply (g : Gate) (c : Command) : Except Refusal Gate := (carryOut c).result g

/-- The gate a command leaves behind, whether it was accepted or refused. -/
def attempt (g : Gate) (c : Command) : Gate := (carryOut c).left g

/-- Applies every command in order, or names the first refusal. -/
def run (g : Gate) : List Command → Except Refusal Gate
  | [] => .ok g
  | c :: cs => (g.apply c).bind fun g => g.run cs

end Gate

end Conformance
