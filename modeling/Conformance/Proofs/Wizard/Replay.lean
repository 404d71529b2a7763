import Conformance.Proofs.Wizard.Surface
import Conformance.Wizard.Scenario
/-!
# A replay is its steps, one after the other

`Holds` and `Fails` say of one step on one page when it holds, and why it does not. `carry` is the page the step
leaves behind, whether it holds or not. A replay is these three and nothing else: it carries out the steps as long
as they hold, and what stands behind the first that does not is never looked at.
-/

namespace Conformance

/-! ## One step -/

/-- The action of a deed. An expectation has none. -/
def ScenarioDeed.action? : ScenarioDeed → Option Action
  | .click => some .click
  | .sendKeys text => some (.sendKeys text)
  | .expectVisible _ | .expectEnabled _ => none

/-- The step acts on its element; otherwise it only looks at it. -/
def ScenarioStep.acts (step : ScenarioStep) : Bool := step.deed.action?.isSome

namespace Surface

/-- The page a command leaves behind, whether it was accepted or refused. -/
def attempt (s : Surface) (c : Command) : Surface := (command c).left s

/-- The page a step leaves behind, whether it holds or not. -/
def carry (s : Surface) (step : ScenarioStep) : Surface := step.carryOut.left s

/-- An accepted command moves the gate on, and an accepted submission leaves its receipt. -/
theorem attempt_of_accepts {s : Surface} {c : Command} {q : Phase}
    (h : Gate.Accepts s.gate.roster s.gate.phase c q) :
    s.attempt c = ⟨s.gate.attempt c, if c = .submit then s.gate.receipt? else s.receipt⟩ := by
  have happly := Gate.apply_eq_ok_iff.2 ⟨q, h, rfl⟩
  rw [attempt, Work.left, run_command, happly, Gate.attempt_of_apply happly]

end Surface

namespace ScenarioStep

/-- The step holds on a page: its element exists, and what it does to it is accepted, or what it expects of
it is so. -/
inductive Holds (step : ScenarioStep) (s : Surface) : Prop
  | command {e : Element} {a : Action} {c : Command} {q : Phase} (known : Element.parse? step.element = some e)
    (action : step.deed.action? = some a) (meant : s.meaning e a = .command c)
    (accepted : Gate.Accepts s.gate.roster s.gate.phase c q)
  | passive {e : Element} {a : Action} (known : Element.parse? step.element = some e)
    (action : step.deed.action? = some a) (meant : s.meaning e a = .nothing)
  | visible {e : Element} {expected : Bool} (known : Element.parse? step.element = some e)
    (deed : step.deed = .expectVisible expected) (seen : s.isVisible e = expected)
  | enabled {e : Element} {expected : Bool} (known : Element.parse? step.element = some e)
    (deed : step.deed = .expectEnabled expected) (seen : s.isEnabled e = expected)

/-- Why the step does not hold on a page. -/
inductive Fails (step : ScenarioStep) (s : Surface) : StepFault → Prop
  | unknown (unknown : Element.parse? step.element = none) : Fails step s (.unknownElement step.element)
  | refused {e : Element} {a : Action} {c : Command} {r : Refusal}
    (known : Element.parse? step.element = some e) (action : step.deed.action? = some a)
    (meant : s.meaning e a = .command c) (refused : s.gate.next c = .error r) :
    Fails step s (.noEffect (.refused r))
  | unsupported {e : Element} {a : Action} (known : Element.parse? step.element = some e)
    (action : step.deed.action? = some a) (meant : s.meaning e a = .unsupported) :
    Fails step s (.noEffect (.unsupported e a))
  | visible {e : Element} {expected : Bool} (known : Element.parse? step.element = some e)
    (deed : step.deed = .expectVisible expected) (seen : s.isVisible e ≠ expected) :
    Fails step s (.visible expected)
  | enabled {e : Element} {expected : Bool} (known : Element.parse? step.element = some e)
    (deed : step.deed = .expectEnabled expected) (seen : s.isEnabled e ≠ expected) :
    Fails step s (.enabled expected)

variable {step : ScenarioStep} {s t : Surface} {e : Element} {a : Action} {c : Command} {fault : StepFault}

/-- On an element that exists, a step with an action is that action. -/
theorem run_carryOut_of_action? (known : Element.parse? step.element = some e)
    (action : step.deed.action? = some a) : step.carryOut.run s = (Surface.act e a).run s := by
  rw [carryOut, known]
  cases hdeed : step.deed <;> rw [hdeed] at action <;> cases action <;> rfl

/-- An action is what it means to the gate. -/
theorem run_act (s : Surface) (e : Element) (a : Action) : (Surface.act e a).run s = match s.meaning e a with
    | .command c => (EStateM.adaptExcept StepFault.noEffect (Surface.command c)).run s
    | .nothing => .ok () s
    | .unsupported => .error (.noEffect (.unsupported e a)) s := by
  simp only [Surface.act, Surface.carryOut, EStateM.run_adaptExcept, EStateM.run_bind, EStateM.run_get]
  cases s.meaning e a <;> rfl

theorem run_carryOut_of_command (known : Element.parse? step.element = some e)
    (action : step.deed.action? = some a) (meant : s.meaning e a = .command c) :
    step.carryOut.run s = (EStateM.adaptExcept StepFault.noEffect (Surface.command c)).run s := by
  rw [run_carryOut_of_action? known action, run_act, meant]

theorem run_carryOut_of_visible {expected : Bool} (known : Element.parse? step.element = some e)
    (deed : step.deed = .expectVisible expected) :
    step.carryOut.run s = if s.isVisible e ≠ expected then .error (.visible expected) s else .ok () s := by
  rw [carryOut, known, deed]
  exact Work.run_failIf ..

theorem run_carryOut_of_enabled {expected : Bool} (known : Element.parse? step.element = some e)
    (deed : step.deed = .expectEnabled expected) :
    step.carryOut.run s = if s.isEnabled e ≠ expected then .error (.enabled expected) s else .ok () s := by
  rw [carryOut, known, deed]
  exact Work.run_failIf ..

/-- A step that holds leads to the page it leaves behind. -/
theorem Holds.run_carryOut (h : step.Holds s) : step.carryOut.run s = .ok () (s.carry step) := by
  rw [Surface.carry, Work.left]
  cases h with
  | command known action meant accepted =>
    rw [run_carryOut_of_command known action meant, EStateM.run_adaptExcept, Surface.run_command,
      Gate.apply_eq_ok_iff.2 ⟨_, accepted, rfl⟩]
  | passive known action meant => rw [run_carryOut_of_action? known action, run_act, meant]
  | visible known deed seen => rw [run_carryOut_of_visible known deed, if_neg (not_not.2 seen)]
  | enabled known deed seen => rw [run_carryOut_of_enabled known deed, if_neg (not_not.2 seen)]

/-- A step that fails is reported with what made it fail, and leaves the page as it was. -/
theorem Fails.run_carryOut (h : step.Fails s fault) : step.carryOut.run s = .error fault s := by
  cases h with
  | unknown unknown =>
    rw [carryOut, unknown]
    rfl
  | refused known action meant refused =>
    rw [run_carryOut_of_command known action meant, EStateM.run_adaptExcept, Surface.run_command,
      Gate.apply_eq_error_iff_next.2 refused]
  | unsupported known action meant => rw [run_carryOut_of_action? known action, run_act, meant]
  | visible known deed seen => rw [run_carryOut_of_visible known deed, if_pos seen]
  | enabled known deed seen => rw [run_carryOut_of_enabled known deed, if_pos seen]

theorem Holds.apply_eq (h : step.Holds s) : step.apply s = .ok (s.carry step) := by
  rw [apply, Work.result, h.run_carryOut]

theorem Fails.apply_eq (h : step.Fails s fault) : step.apply s = .error fault := by
  rw [apply, Work.result, h.run_carryOut]

/-- A step that asks for a command does what the command does. -/
theorem carry_of_command (known : Element.parse? step.element = some e)
    (action : step.deed.action? = some a) (meant : s.meaning e a = .command c) : s.carry step = s.attempt c := by
  rw [Surface.carry, Work.left, run_carryOut_of_command known action meant, EStateM.run_adaptExcept, Surface.attempt,
    Work.left]
  cases (Surface.command c).run s <;> rfl

/-- An expectation leaves the page as it is. -/
theorem carry_of_not_acts (h : step.acts = false) (s : Surface) : s.carry step = s := by
  rw [Surface.carry, Work.left]
  cases known : Element.parse? step.element with
  | none =>
    rw [carryOut, known]
    rfl
  | some e =>
    cases deed : step.deed with
    | expectVisible expected =>
      rw [run_carryOut_of_visible known deed]
      by_cases seen : s.isVisible e = expected <;> simp [seen]
    | expectEnabled expected =>
      rw [run_carryOut_of_enabled known deed]
      by_cases seen : s.isEnabled e = expected <;> simp [seen]
    | _ =>
      rw [acts, deed] at h
      cases h

theorem holds_or_fails (step : ScenarioStep) (s : Surface) : step.Holds s ∨ ∃ fault, step.Fails s fault := by
  cases known : Element.parse? step.element with
  | none => exact .inr ⟨_, .unknown known⟩
  | some e =>
    cases action : step.deed.action? with
    | some a =>
      cases meant : s.meaning e a with
      | command c =>
        cases hnext : s.gate.next c with
        | ok q => exact .inl (.command known action meant (Gate.next_eq_ok_iff.1 hnext))
        | error r => exact .inr ⟨_, .refused known action meant hnext⟩
      | nothing => exact .inl (.passive known action meant)
      | unsupported => exact .inr ⟨_, .unsupported known action meant⟩
    | none =>
      cases deed : step.deed with
      | expectVisible expected =>
        by_cases seen : s.isVisible e = expected
        · exact .inl (.visible known deed seen)
        · exact .inr ⟨_, .visible known deed seen⟩
      | expectEnabled expected =>
        by_cases seen : s.isEnabled e = expected
        · exact .inl (.enabled known deed seen)
        · exact .inr ⟨_, .enabled known deed seen⟩
      | _ => rw [deed] at action; cases action

end ScenarioStep

/-! ## All steps -/

namespace Surface

variable {s : Surface} {held kept steps : List ScenarioStep}

/-- Every step holds on the page the steps before it lead to. -/
def Follows (s : Surface) : List ScenarioStep → Prop
  | [] => True
  | step :: rest => step.Holds s ∧ (s.carry step).Follows rest

/-- The steps of a list hold, or there is a first that fails. -/
theorem follows_or_fails (s : Surface) (steps : List ScenarioStep) : s.Follows steps ∨
    ∃ held step rest fault, steps = held ++ step :: rest ∧ s.Follows held ∧
      step.Fails (held.foldl carry s) fault := by
  induction steps generalizing s with
  | nil => exact .inl trivial
  | cons head steps ih =>
    rcases head.holds_or_fails s with hhead | ⟨fault, hhead⟩
    · rcases ih (s.carry head) with hsteps | ⟨held, step, rest, fault, rfl, hheld, hstep⟩
      · exact .inl ⟨hhead, hsteps⟩
      · exact .inr ⟨head :: held, step, rest, fault, rfl, ⟨hhead, hheld⟩, hstep⟩
    · exact .inr ⟨[], head, steps, fault, rfl, trivial, hhead⟩

/-- A replay carries out the steps that hold. -/
theorem Follows.replay_append (h : s.Follows held) (i : Nat) (rest : List ScenarioStep) :
    replay s i (held ++ rest) = replay (held.foldl carry s) (i + held.length) rest := by
  induction held generalizing s i with
  | nil => rfl
  | cons step held ih =>
    rw [List.cons_append, replay, h.1.run_carryOut]
    simp only
    rw [ih h.2, List.length_cons, Nat.add_right_comm, Nat.add_assoc]
    rfl

theorem Follows.replay_eq (h : s.Follows steps) (i : Nat) :
    replay s i steps = (steps.foldl carry s, none) := by
  have happend := h.replay_append i []
  rwa [List.append_nil, replay] at happend

/-- A replay ends at the first step that fails, whatever stands behind it. -/
theorem Follows.replay_fails {step : ScenarioStep} {fault : StepFault} (h : s.Follows held)
    (hstep : step.Fails (held.foldl carry s) fault) (i : Nat) (rest : List ScenarioStep) :
    replay s i (held ++ step :: rest) =
      (held.foldl carry s, some (.ofStep (i + held.length) step fault)) := by
  rw [h.replay_append, replay, hstep.run_carryOut]

end Surface

/-! ## Scenarios -/

namespace Scenario

variable {scenario : Scenario} {roster : List Recipient} {held rest : List ScenarioStep}
  {step : ScenarioStep} {fault : StepFault} {f : ScenarioFailure}

/-- The page after the first steps of a scenario. -/
def page (scenario : Scenario) (roster : List Recipient) (i : Nat) : Surface :=
  (scenario.steps.take i).foldl Surface.carry (.new (.new roster))

/-- What is answered on a page where a replay has ended. -/
def verdictAt (scenario : Scenario) (s : Surface) (failure : Option ScenarioFailure) : ScenarioVerdict :=
  ⟨scenario.name, s.gate.phase.name, s.gate.journal, failure⟩

theorem run_of_follows (h : (Surface.new (.new roster)).Follows scenario.steps) :
    scenario.run roster =
      scenario.verdictAt (scenario.steps.foldl Surface.carry (.new (.new roster))) none := by
  rw [run, h.replay_eq]
  rfl

theorem run_of_fails (hsteps : scenario.steps = held ++ step :: rest)
    (hheld : (Surface.new (.new roster)).Follows held)
    (hstep : step.Fails (held.foldl Surface.carry (.new (.new roster))) fault) :
    scenario.run roster = scenario.verdictAt (held.foldl Surface.carry (.new (.new roster)))
      (some (.ofStep held.length step fault)) := by
  rw [run, hsteps, hheld.replay_fails hstep, Nat.zero_add]
  rfl

/-- What a reported step was, and what stood before it. -/
theorem exists_of_failure (h : (scenario.run roster).failure = some f) :
    ∃ held step rest fault, scenario.steps = held ++ step :: rest ∧
      (Surface.new (.new roster)).Follows held ∧
      step.Fails (held.foldl Surface.carry (.new (.new roster))) fault ∧
      f = .ofStep held.length step fault := by
  rcases Surface.follows_or_fails (.new (.new roster)) scenario.steps with
    hsteps | ⟨held, step, rest, fault, hsteps, hheld, hstep⟩
  · rw [run_of_follows hsteps] at h
    cases h
  · rw [run_of_fails hsteps hheld hstep] at h
    exact ⟨held, step, rest, fault, hsteps, hheld, hstep, (Option.some.inj h).symm⟩

example : (builtin.run [⟨"receiver-0"⟩]).passed = true := by decide +kernel

end Scenario

end Conformance
