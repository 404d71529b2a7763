import Conformance.Proofs.Wizard.Replay
import Conformance.Proofs.Wizard.Surface
/-!
# The built-in scenario

A scripted walk over a page: `Leads` says that steps hold one after the other, and where they lead. The
built-in scenario walks up to the choice of a recipient on every page. There it needs one recipient by name:
with that one on the roster it walks on until the submission would be taken, and else it stops.
-/

namespace Conformance

/-! ## Walks -/

namespace Surface

/-- The steps hold one after the other, and lead from one page to another. -/
structure Leads (s : Surface) (steps : List ScenarioStep) (t : Surface) : Prop where
  follows : s.Follows steps
  foldl_eq : steps.foldl carry s = t

namespace Leads

variable {s t u : Surface} {step : ScenarioStep} {steps rest : List ScenarioStep} {e : Element}

theorem nil (s : Surface) : s.Leads [] s := ⟨trivial, rfl⟩

theorem cons (hstep : step.Holds s) (h : (s.carry step).Leads steps t) : s.Leads (step :: steps) t :=
  ⟨⟨hstep, h.follows⟩, h.foldl_eq⟩

theorem append (h : s.Leads steps t) (hrest : t.Leads rest u) : s.Leads (steps ++ rest) u := by
  induction steps generalizing s with
  | nil =>
    obtain rfl : s = t := h.foldl_eq
    exact hrest
  | cons step steps ih => exact cons h.follows.1 (ih ⟨h.follows.2, h.foldl_eq⟩)

/-- An expectation that holds leads nowhere else. -/
theorem look (hlooks : step.acts = false) (hstep : step.Holds s) (h : s.Leads steps t) :
    s.Leads (step :: steps) t := by
  refine cons hstep ?_
  rwa [ScenarioStep.carry_of_not_acts hlooks]

/-- A step that asks for a command the gate accepts leads where the gate goes. -/
theorem command {a : Action} {c : Command} {q : Phase} (known : Element.parse? step.element = some e)
    (action : step.deed.action? = some a) (asks : Gesture.Asks s.gate.phase ⟨e, a⟩ c)
    (accepted : Gate.Accepts s.gate.roster s.gate.phase c q) (hc : c ≠ .submit)
    (h : Leads ⟨⟨q, s.gate.roster, s.gate.fieldsAfter c,
      s.gate.journal ++ [⟨s.gate.phase.name, q.name, c.operation⟩]⟩, s.receipt⟩ steps t) :
    s.Leads (step :: steps) t := by
  have meant := meaning_of_asks asks
  refine cons (.command known action meant accepted) ?_
  have applied := Gate.apply_eq_ok_iff.2 ⟨q, accepted, rfl⟩
  rw [ScenarioStep.carry_of_command known action meant, attempt_of_accepts accepted,
    Gate.attempt_of_apply applied, if_neg hc]
  exact h

end Leads

end Surface

namespace Scenario

/-! ## The walk of the built-in scenario -/

/-- The recipient the built-in scenario asks for. -/
def asked : Recipient := ⟨"receiver-0"⟩

/-- What the gate accepts on the walk up to the choice of a recipient. -/
def opening : List Transition := [
  ⟨.form, .form, .openStep .form⟩,
  ⟨.form, .errorsShown, .enterField ⟨0, 0, 0, 0⟩⟩,
  ⟨.errorsShown, .choosing, .dismissErrors⟩]

/-- What the gate accepts from there until the submission would be taken. -/
def closing : List Transition := [
  ⟨.choosing, .choosing, .select asked⟩,
  ⟨.choosing, .ready, .advance⟩]

/-- A page of the walk. -/
def stage (roster : List Recipient) (p : Phase) (journal : List Transition) : Surface :=
  ⟨⟨p, roster, KeyMap.empty.set ⟨0, 0, 0, 0⟩ "err-panel test", journal⟩, none⟩

variable {roster : List Recipient}

/-- The choice shows who is on the roster. -/
theorem isVisible_asked : (stage roster (.choosing none) opening).isVisible (.recipient asked) =
    decide (asked ∈ roster) := by
  simp [Surface.isVisible, stage, Phase.activeStep?]

/-- On every page the first six steps hold. -/
theorem leads_opening (roster : List Recipient) :
    (Surface.new (.new roster)).Leads (builtin.steps.take 6) (stage roster (.choosing none) opening) := by
  refine .look rfl (.visible rfl rfl rfl) ?_
  refine .command rfl rfl .formLink (.openStep rfl) nofun ?_
  refine .command rfl rfl (.keys rfl) (.enterField rfl rfl (by decide)) nofun ?_
  refine .look rfl (.visible rfl rfl rfl) ?_
  refine .look rfl (.enabled rfl rfl rfl) ?_
  refine .command rfl rfl .errorLink .dismissErrors nofun ?_
  exact .nil _

/-- The other five hold where the recipient they ask for can be selected. -/
theorem leads_closing (h : asked ∈ roster) : (stage roster (.choosing none) opening).Leads
    (builtin.steps.drop 6) (stage roster (.ready asked) (opening ++ closing)) := by
  refine .look rfl (.visible rfl rfl (isVisible_asked.trans (decide_eq_true h))) ?_
  refine .command rfl rfl .recipient (.select h) nofun ?_
  refine .look rfl (.enabled rfl rfl rfl) ?_
  refine .command rfl rfl .nextButton .advance nofun ?_
  refine .look rfl (.enabled rfl rfl rfl) ?_
  exact .nil _

/-- Elsewhere the seventh does not hold. -/
theorem fails_asked (h : asked ∉ roster) :
    ScenarioStep.Fails ⟨"receiver-0", .expectVisible true⟩ (stage roster (.choosing none) opening)
      (.visible true) := by
  refine .visible (e := .recipient asked) rfl rfl ?_
  rw [isVisible_asked, decide_eq_false h]
  exact Bool.false_ne_true

/-- What the built-in scenario answers for a roster. -/
theorem run_builtin (roster : List Recipient) : builtin.run roster =
    if asked ∈ roster then ⟨builtin.name, .ready, opening ++ closing, none⟩
    else ⟨builtin.name, .choosing, opening, some ⟨6, .expectVisible, asked.id,
      "expected visible=true, observed visible=false"⟩⟩ := by
  have hopening := leads_opening roster
  by_cases h : asked ∈ roster
  · have hwalk : (Surface.new (.new roster)).Leads builtin.steps _ := hopening.append (leads_closing h)
    rw [if_pos h, run_of_follows hwalk.follows, hwalk.foldl_eq]
    rfl
  · have hsteps : builtin.steps =
        builtin.steps.take 6 ++ ⟨"receiver-0", .expectVisible true⟩ :: builtin.steps.drop 7 := rfl
    have hfails := fails_asked h
    rw [← hopening.foldl_eq] at hfails
    rw [if_neg h, run_of_fails hsteps hopening.follows hfails, hopening.foldl_eq]
    rfl

end Scenario

end Conformance
