import Conformance.Proofs.Wizard.Session
import Conformance.Proofs.Wizard.Surface
/-!
# What is enabled and what is accepted

The flags of a page are read off the phase, while the gate decides what a gesture does. An element that is
not enabled is refused. One that is enabled is accepted but for three kinds of element that `Misleads`
lists, and those are refused whenever they are enabled.
-/

namespace Conformance

/-! ## Gestures for elements that drive the gate -/

/-- A gesture that fits an element with a command behind it: a click on a link, a recipient or a button, and
keys that are not blank on a field. -/
inductive Gesture.Apt : Gesture → Prop
  | formLink : Apt ⟨.formLink, .click⟩
  | errorLink : Apt ⟨.errorLink, .click⟩
  | recipient {r : Recipient} : Apt ⟨.recipient r, .click⟩
  | nextButton : Apt ⟨.nextButton, .click⟩
  | submitButton : Apt ⟨.submitButton, .click⟩
  | keys {f : FieldId} {text : String} (filled : Text.trim text ≠ "") : Apt ⟨.field f, .sendKeys text⟩

theorem Gesture.Apt.exists_asks {x : Gesture} (hx : x.Apt) (p : Phase) : ∃ c, x.Asks p c := by
  rcases x.asks_or_idle_or_unsupported p with h | h | h
  · exact h
  · cases hx <;> cases h
  · cases hx with
    | keys =>
      obtain ⟨other⟩ := h
      exact absurd rfl (other _)
    | _ => cases h

namespace Surface

/-- Elements that the gate refuses though they may be enabled: the link of a form that was left, a recipient
once one is confirmed, and the way on while nobody is selected. -/
inductive Misleads (s : Surface) : Element → Prop
  | formLink (active : s.gate.phase.activeStep? = some .recipients) : Misleads s .formLink
  | recipient {r confirmed : Recipient} (known : r ∈ s.gate.roster) (ready : s.gate.phase = .ready confirmed) :
    Misleads s (.recipient r)
  | nextButton (nobody : s.gate.phase.recipient? = none) : Misleads s .nextButton

variable {s : Surface} {e : Element} {x : Gesture} {c : Command}

/-- `Misleads` read element by element. -/
theorem misleads_iff : s.Misleads e ↔ match e with
    | .formLink => s.gate.phase.activeStep? = some .recipients
    | .recipient r => r ∈ s.gate.roster ∧ ∃ confirmed, s.gate.phase = .ready confirmed
    | .nextButton => s.gate.phase.recipient? = none
    | _ => False := by
  constructor
  · rintro (active | ⟨known, ready⟩ | nobody)
    · exact active
    · exact ⟨known, _, ready⟩
    · exact nobody
  · intro h
    cases e with
    | formLink => exact .formLink h
    | recipient r => obtain ⟨known, confirmed, ready⟩ := h; exact .recipient known ready
    | nextButton => exact .nextButton h
    | _ => exact h.elim

/-! ## Answers of the gate -/

/-- The gate accepts the command. -/
def Takes (s : Surface) (c : Command) : Prop := ∃ q, Gate.Accepts s.gate.roster s.gate.phase c q

theorem perform_of_takes (h : x.Asks s.gate.phase c) (ht : s.Takes c) :
    ∃ t, s.perform x.element x.action = .ok t := by
  obtain ⟨q, hq⟩ := ht
  rw [perform_of_asks h, Gate.apply_eq_ok_iff.2 ⟨q, hq, rfl⟩]
  exact ⟨_, rfl⟩

theorem perform_of_not_takes (h : x.Asks s.gate.phase c) (ht : ¬ s.Takes c) :
    ∃ r, s.perform x.element x.action = .error (.refused r) := by
  rw [perform_of_asks h]
  cases happly : s.gate.apply c with
  | error r => exact ⟨r, rfl⟩
  | ok g =>
    obtain ⟨q, hq, -⟩ := Gate.apply_eq_ok_iff.1 happly
    exact absurd ⟨q, hq⟩ ht

theorem perform_eq_ok_iff (h : x.Asks s.gate.phase c) :
    (∃ t, s.perform x.element x.action = .ok t) ↔ s.Takes c := by
  refine ⟨fun ⟨t, ht⟩ => ?_, perform_of_takes h⟩
  by_contra hnot
  obtain ⟨r, hr⟩ := perform_of_not_takes h hnot
  rw [hr] at ht
  cases ht

/-! ## Flags -/

section Flags
variable {r : Recipient} {f : FieldId}

theorem isEnabled_formLink : s.isEnabled .formLink = !s.gate.phase.isClosed := by
  cases hp : s.gate.phase <;> simp [isEnabled, isVisible, Phase.activeStep?, Phase.isClosed, hp]

theorem isEnabled_errorLink : s.isEnabled .errorLink = s.gate.phase.showsErrors := by
  cases hp : s.gate.phase <;> simp [isEnabled, isVisible, Phase.activeStep?, Phase.showsErrors, hp]

theorem isEnabled_recipient_iff : s.isEnabled (.recipient r) = true ↔
    s.gate.phase.activeStep? = some .recipients ∧ r ∈ s.gate.roster := by
  cases hp : s.gate.phase <;> simp [isEnabled, isVisible, Phase.activeStep?, hp]

theorem isEnabled_nextButton_iff : s.isEnabled .nextButton = true ↔
    s.gate.phase.isClosed = false ∧ s.gate.phase.canSubmit = false := by
  cases hp : s.gate.phase <;>
    simp [isEnabled, isVisible, Phase.activeStep?, Phase.isClosed, Phase.canSubmit, hp]

theorem isEnabled_submitButton : s.isEnabled .submitButton = s.gate.phase.canSubmit := rfl

theorem isEnabled_field_iff : s.isEnabled (.field f) = true ↔
    s.gate.phase.activeStep? = some .form ∧ f.step = 0 := by
  cases hp : s.gate.phase <;>
    simp [isEnabled, isVisible, Phase.activeStep?, Gate.number?_eq_some_iff, hp]

end Flags

/-- The gate takes what an element asks for exactly if the element is enabled and does not mislead. -/
theorem takes_iff (hx : x.Apt) (h : x.Asks s.gate.phase c) :
    s.Takes c ↔ s.isEnabled x.element = true ∧ ¬ s.Misleads x.element := by
  rw [Takes, misleads_iff]
  simp only [Gate.accepts_iff]
  -- each element has its flag, and each command the phases it is accepted in
  cases hx with
  | formLink =>
    cases h
    rw [isEnabled_formLink]
    cases s.gate.phase <;> simp [Phase.activeStep?, Phase.isClosed]
  | errorLink =>
    cases h
    rw [isEnabled_errorLink]
    cases s.gate.phase <;> simp [Phase.showsErrors]
  | recipient =>
    cases h
    rw [isEnabled_recipient_iff]
    cases s.gate.phase <;> simp [Phase.activeStep?]
  | nextButton =>
    cases h
    rw [isEnabled_nextButton_iff]
    cases s.gate.phase with
    | choosing selected => cases selected <;> simp [Phase.isClosed, Phase.canSubmit, Phase.recipient?]
    | _ => simp [Phase.isClosed, Phase.canSubmit, Phase.recipient?]
  | submitButton =>
    cases h
    rw [isEnabled_submitButton]
    cases s.gate.phase <;> simp [Phase.canSubmit]
  | keys filled =>
    rw [isEnabled_field_iff]
    cases h with
    | keys active => simp [active, filled, and_comm]
    | keysClosed closed =>
      cases hp : s.gate.phase <;> rw [hp] at closed <;> simp_all [Phase.activeStep?, Phase.isClosed]

theorem perform_eq_ok_iff_of_apt (hx : x.Apt) : (∃ t, s.perform x.element x.action = .ok t) ↔
    s.isEnabled x.element = true ∧ ¬ s.Misleads x.element := by
  obtain ⟨c, h⟩ := hx.exists_asks s.gate.phase
  rw [perform_eq_ok_iff h, takes_iff hx h]

/-- What a page shows as enabled is what its gate accepts, in every phase and for every element with a
command behind it. A gesture on an element that is not enabled is refused and changes nothing. One on an
enabled element is accepted, but for the link of a form that was left, a recipient of the roster once one is
confirmed, and the way on while nobody is selected. So the button that submits is enabled exactly when a
click on it submits, the link of the panel when the panel is on display, and a field when it takes text. -/
theorem enabled_iff_accepted (s : Surface) :
    (∀ x : Gesture, x.Apt →
      (s.isEnabled x.element = false →
        (∃ r, s.perform x.element x.action = .error (.refused r)) ∧ s.after x = s) ∧
      (s.isEnabled x.element = true →
        ((∃ t, s.perform x.element x.action = .ok t) ↔ ¬ s.Misleads x.element))) ∧
    (s.isEnabled .submitButton = true ↔
      ∃ t r, s.perform .submitButton .click = .ok t ∧ t.gate.phase = .submitted ∧ t.receipt = some r) ∧
    s.isEnabled .errorLink = s.isVisible .errorPanel ∧
    ∀ (f : FieldId) (text : String), Text.trim text ≠ "" →
      (s.isEnabled (.field f) = true ↔ ∃ t, s.perform (.field f) (.sendKeys text) = .ok t) := by
  refine ⟨fun x hx => ⟨fun hoff => ?_, fun hon => ?_⟩, ⟨fun hon => ?_, fun hok => ?_⟩, rfl,
    fun f text filled => ?_⟩
  · obtain ⟨c, h⟩ := hx.exists_asks s.gate.phase
    have hnot : ¬ s.Takes c := by
      rw [takes_iff hx h, hoff]
      simp
    obtain ⟨r, hr⟩ := perform_of_not_takes h hnot
    exact ⟨⟨r, hr⟩, after_of_error hr⟩
  · rw [perform_eq_ok_iff_of_apt hx, hon]
    simp
  · have hready : ∃ recipient, s.gate.phase = .ready recipient := by
      rw [isEnabled_submitButton] at hon
      cases hp : s.gate.phase <;> rw [hp] at hon <;> first | exact ⟨_, rfl⟩ | cases hon
    obtain ⟨recipient, hp⟩ := hready
    obtain ⟨hok, hr, hphase⟩ := after_submit_of_some (receipt?_eq_some_iff.2 ⟨recipient, hp, rfl⟩)
    exact ⟨_, _, hok, hphase, hr⟩
  · obtain ⟨t, r, ht, -⟩ := hok
    exact ((perform_eq_ok_iff_of_apt .submitButton).1 ⟨t, ht⟩).1
  · have hiff := perform_eq_ok_iff_of_apt (s := s) (.keys (f := f) filled)
    rw [misleads_iff] at hiff
    exact (and_iff_left id).symm.trans hiff.symm

end Surface

end Conformance
