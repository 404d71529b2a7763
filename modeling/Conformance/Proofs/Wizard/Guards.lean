import Conformance.Proofs.Demand
import Conformance.Proofs.Wizard.Acceptance
/-!
# The guards of a gate

A gate asks four things of a command, in this order: that it is not closed itself, that a field belongs to the
step it is entered in, that the phase is right for the command, and that the value or the recipient will do. Each
guard says in which way it can fail and with which refusal. A command is refused with what the first failing
guard says, and nothing changes; one that passes them all leaves its record.
-/

namespace Conformance

/-- The phase a refusal speaks of. -/
def Refusal.phase? : Refusal → Option PhaseName
  | .stepNotActive _ _ phase | .errorsNotShown phase | .noNextStep phase | .cannotSubmit phase
  | .closed phase => some phase
  | .fieldOfOtherStep .. | .blankValue _ | .unknownRecipient _ | .stepIncomplete _ => none

namespace Gate

open Demand

/-! ## Guards -/

/-- The gate is closed. -/
inductive Shut (p : Phase) : Demand Refusal
  | closed (closed : p.isClosed = true) : Shut p (.closed p.name)

/-- A field is entered in a step it does not belong to. -/
inductive Misplaced : Command → Demand Refusal
  | field {step : WizardStep} {f : FieldId} {v : String} (other : ¬ (step = .form ∧ f.step = 0)) :
    Misplaced (.enterField step f v) (.fieldOfOtherStep f step)

/-- The phase is wrong for the command. -/
inductive Untimely (p : Phase) : Command → Demand Refusal
  | openStep {step : WizardStep} (inactive : p.activeStep? ≠ some step) :
    Untimely p (.openStep step) (.stepNotActive (.openStep step) step p.name)
  | enterField {step : WizardStep} {f : FieldId} {v : String} (inactive : p.activeStep? ≠ some step) :
    Untimely p (.enterField step f v) (.stepNotActive (.enterField f) step p.name)
  | dismissErrors (hidden : p ≠ .errorsShown) : Untimely p .dismissErrors (.errorsNotShown p.name)
  | select {r : Recipient} (elsewhere : ∀ selected, p ≠ .choosing selected) :
    Untimely p (.select r) (.stepNotActive (.select r) .recipients p.name)
  | advanceForm (active : p.activeStep? = some .form) : Untimely p .advance (.stepIncomplete .form)
  | advanceChoice (nobody : p = .choosing none) : Untimely p .advance (.stepIncomplete .recipients)
  | advanceEnd (filled : p.activeStep? ≠ some .form) (elsewhere : ∀ selected, p ≠ .choosing selected) :
    Untimely p .advance (.noNextStep p.name)
  | submit (unready : ∀ r, p ≠ .ready r) : Untimely p .submit (.cannotSubmit p.name)

/-- The value is blank, or the recipient is not on the roster. -/
inductive Unfit (roster : List Recipient) : Command → Demand Refusal
  | blank {step : WizardStep} {f : FieldId} {v : String} (blank : Text.trim v = "") :
    Unfit roster (.enterField step f v) (.blankValue f)
  | unknown {r : Recipient} (unknown : r ∉ roster) : Unfit roster (.select r) (.unknownRecipient r)

/-- What a gate asks of a command, in order. -/
def guards (g : Gate) (c : Command) : List (Demand Refusal) :=
  [Shut g.phase, Misplaced c, Untimely g.phase c, Unfit g.roster c]

variable {g : Gate} {c : Command} {r : Refusal}

/-! ## The first guard that fails -/

theorem next_of_shut (h : Shut g.phase r) : g.next c = .error r := by
  obtain ⟨hclosed⟩ := h
  exact if_pos hclosed

theorem isClosed_of_kept (h : (Shut g.phase).Kept) : g.phase.isClosed = false := by
  rw [← Bool.not_eq_true]
  exact fun hclosed => h _ (.closed hclosed)

theorem next_of_open (h : (Shut g.phase).Kept) : g.next c = g.nextOpen c :=
  if_neg (by simp [isClosed_of_kept h])

theorem nextOpen_of_misplaced (h : Misplaced c r) : g.nextOpen c = .error r := by
  obtain ⟨hother⟩ := h
  exact if_pos (mt number?_eq_some_iff.1 hother)

theorem placed_of_kept {step : WizardStep} {f : FieldId} {v : String}
    (h : (Misplaced (.enterField step f v)).Kept) : step = .form ∧ f.step = 0 := by
  by_contra hother
  exact h _ (.field hother)

theorem nextOpen_of_untimely (hplace : (Misplaced c).Kept) (h : Untimely g.phase c r) :
    g.nextOpen c = .error r := by
  unfold nextOpen
  cases h with
  | openStep inactive => exact if_neg inactive
  | enterField inactive =>
    obtain ⟨rfl, hstep⟩ := placed_of_kept hplace
    simp [WizardStep.number?, hstep, inactive, Command.operation]
  | dismissErrors hidden => exact if_neg hidden
  | select elsewhere =>
    cases hp : g.phase with
    | choosing selected => exact absurd hp (elsewhere selected)
    | _ => rfl
  | advanceForm active => cases hp : g.phase <;> simp_all [Phase.activeStep?]
  | advanceChoice nobody => rw [nobody]
  | advanceEnd filled elsewhere => cases hp : g.phase <;> simp_all [Phase.activeStep?]
  | submit unready =>
    cases hp : g.phase with
    | ready r => exact absurd hp (unready r)
    | _ => rfl

/-- In its time a command finds the gate in a phase that takes it. -/
theorem timely_of_kept (h : (Untimely g.phase c).Kept) : match c with
    | .openStep step | .enterField step _ _ => g.phase.activeStep? = some step
    | .dismissErrors => g.phase = .errorsShown
    | .select _ => ∃ selected, g.phase = .choosing selected
    | .advance => ∃ r, g.phase = .choosing (some r)
    | .submit => ∃ r, g.phase = .ready r
    | .abandon => True := by
  cases c with
  | openStep step => exact not_not.1 fun inactive => h _ (.openStep inactive)
  | enterField step f v => exact not_not.1 fun inactive => h _ (.enterField inactive)
  | dismissErrors => exact not_not.1 fun hidden => h _ (.dismissErrors hidden)
  | select r =>
    by_contra hnone
    exact h _ (.select fun selected hp => hnone ⟨selected, hp⟩)
  | advance =>
    have hform : g.phase.activeStep? ≠ some .form := fun active => h _ (.advanceForm active)
    obtain ⟨selected, hp⟩ : ∃ selected, g.phase = .choosing selected := by
      by_contra hnone
      exact h _ (.advanceEnd hform fun selected hp => hnone ⟨selected, hp⟩)
    cases selected with
    | none => exact (h _ (.advanceChoice hp)).elim
    | some r => exact ⟨r, hp⟩
  | submit =>
    by_contra hnone
    exact h _ (.submit fun r hp => hnone ⟨r, hp⟩)
  | abandon => trivial

theorem nextOpen_of_unfit (hplace : (Misplaced c).Kept) (htime : (Untimely g.phase c).Kept)
    (h : Unfit g.roster c r) : g.nextOpen c = .error r := by
  have hphase := timely_of_kept htime
  unfold nextOpen
  cases h with
  | blank blank =>
    obtain ⟨rfl, hstep⟩ := placed_of_kept hplace
    simp_all [WizardStep.number?, Text.isBlankText_iff]
  | unknown unknown =>
    obtain ⟨selected, hp⟩ := hphase
    simp [hp, unknown]

/-- A command that passes every guard is accepted. -/
theorem accepts_of_allKept (h : AllKept (g.guards c)) : ∃ q, Accepts g.roster g.phase c q := by
  simp only [guards, allKept_cons, allKept_nil, and_true] at h
  obtain ⟨hopen, hplace, htime, hfit⟩ := h
  have hphase := timely_of_kept htime
  cases c with
  | openStep step => exact ⟨_, accepts_iff.2 ⟨hphase, rfl⟩⟩
  | enterField step f v =>
    obtain ⟨hform, hstep⟩ := placed_of_kept hplace
    have hfilled : Text.trim v ≠ "" := fun blank => hfit _ (.blank blank)
    exact ⟨_, accepts_iff.2 ⟨⟨hform, hstep, hfilled⟩, hform ▸ hphase, rfl⟩⟩
  | dismissErrors => exact ⟨_, accepts_iff.2 ⟨hphase, rfl⟩⟩
  | select r =>
    have hknown : r ∈ g.roster := not_not.1 fun unknown => hfit _ (.unknown unknown)
    exact ⟨_, accepts_iff.2 ⟨hphase, hknown, rfl⟩⟩
  | advance =>
    obtain ⟨r, hp⟩ := hphase
    exact ⟨_, accepts_iff.2 ⟨r, hp, rfl⟩⟩
  | submit => exact ⟨_, accepts_iff.2 ⟨hphase, rfl⟩⟩
  | abandon => exact ⟨_, accepts_iff.2 ⟨isClosed_of_kept hopen, rfl⟩⟩

/-- The first guard that fails says why a command is refused. -/
theorem next_of_first (h : First (g.guards c) r) : g.next c = .error r := by
  simp only [guards, first_cons_iff, not_first_nil, and_false, or_false] at h
  rcases h with hshut | ⟨hopen, hmisplaced | ⟨hplace, huntimely | ⟨htime, hunfit⟩⟩⟩
  · exact next_of_shut hshut
  · rw [next_of_open hopen, nextOpen_of_misplaced hmisplaced]
  · rw [next_of_open hopen, nextOpen_of_untimely hplace huntimely]
  · rw [next_of_open hopen, nextOpen_of_unfit hplace htime hunfit]

/-- A command is refused exactly with what the first failing guard says. -/
theorem apply_eq_error_iff : g.apply c = .error r ↔ First (g.guards c) r := by
  constructor
  · intro h
    rcases allKept_or_first (g.guards c) with hkept | ⟨r', hfirst⟩
    · obtain ⟨q, hq⟩ := accepts_of_allKept hkept
      rw [apply_eq_ok_iff.2 ⟨q, hq, rfl⟩] at h
      cases h
    · rw [apply_eq_error_iff_next, next_of_first hfirst] at h
      cases h
      exact hfirst
  · exact fun h => apply_eq_error_iff_next.2 (next_of_first h)

theorem exists_apply_eq_ok_iff : (∃ g', g.apply c = .ok g') ↔ AllKept (g.guards c) := by
  constructor
  · rintro ⟨g', hg'⟩
    rcases allKept_or_first (g.guards c) with hkept | ⟨r, hfirst⟩
    · exact hkept
    · rw [apply_eq_error_iff.2 hfirst] at hg'
      cases hg'
  · intro h
    obtain ⟨q, hq⟩ := accepts_of_allKept h
    exact ⟨_, apply_eq_ok_iff.2 ⟨q, hq, rfl⟩⟩

/-! ## What is said and what is left -/

/-- A refusal that speaks of a phase speaks of the one the gate is in. -/
theorem eq_name_of_first (h : First (g.guards c) r) {phase : PhaseName} (hphase : r.phase? = some phase) :
    phase = g.phase.name := by
  simp only [guards, first_cons_iff, not_first_nil, and_false, or_false] at h
  rcases h with hshut | ⟨-, hmisplaced | ⟨-, huntimely | ⟨-, hunfit⟩⟩⟩
  · cases hshut
    exact (Option.some.inj hphase).symm
  · cases hmisplaced
    cases hphase
  · cases huntimely with
    | advanceForm | advanceChoice => cases hphase
    | _ => exact (Option.some.inj hphase).symm
  · cases hunfit <;> cases hphase

/-- The record of a command tells everything about it but the step and the value of an entry. -/
theorem operation_eq_iff {d : Command} : d.operation = c.operation ↔
    d = c ∨ ∃ f step step' v v', c = .enterField step f v ∧ d = .enterField step' f v' := by
  constructor
  · intro h
    cases c with
    | enterField step f v =>
      cases d with
      | enterField step' f' v' =>
        cases h
        exact .inr ⟨f, step, step', v, v', rfl, rfl⟩
      | _ => cases h
    | _ =>
      cases d <;> cases h
      exact .inl rfl
  · rintro (rfl | ⟨f, step, step', v, v', rfl, rfl⟩) <;> rfl

/-- Whatever gate a command is given to, reached or not. It is refused exactly if one of the four guards fails, with
what the first of them says, which names the phase of the gate wherever it names one; and then the gate is as it
was. Otherwise the command adds one record to the journal, which leads from the phase before to the phase after
and tells the command with its field, recipient or step. The roster stays as it is, and so do the values but for
the one that is entered, as it was given. -/
theorem refused_or_recorded (g : Gate) (c : Command) :
    (∀ r, g.apply c = .error r ↔ First [Shut g.phase, Misplaced c, Untimely g.phase c, Unfit g.roster c] r) ∧
    (∀ r, g.apply c = .error r → g.attempt c = g ∧ ∀ phase, r.phase? = some phase → phase = g.phase.name) ∧
    ((∃ g', g.apply c = .ok g') ↔ AllKept [Shut g.phase, Misplaced c, Untimely g.phase c, Unfit g.roster c]) ∧
    (∀ g', g.apply c = .ok g' → g.attempt c = g' ∧
      g'.journal = g.journal ++ [⟨g.phase.name, g'.phase.name, c.operation⟩] ∧ g'.roster = g.roster ∧
      (∀ step f v, c = .enterField step f v → ∀ k, g'.field? k = if f = k then some v else g.field? k) ∧
      ((∀ step f v, c ≠ .enterField step f v) → g'.fields = g.fields)) ∧
    ∀ d : Command, d.operation = c.operation ↔
      d = c ∨ ∃ f step step' v v', c = .enterField step f v ∧ d = .enterField step' f v' := by
  refine ⟨fun r => apply_eq_error_iff, fun r h => ⟨attempt_of_error h, ?_⟩, exists_apply_eq_ok_iff, fun g' h => ?_,
    fun d => operation_eq_iff⟩
  · exact fun phase => eq_name_of_first (apply_eq_error_iff.1 h)
  obtain ⟨q, -, rfl⟩ := apply_eq_ok_iff.1 h
  refine ⟨attempt_of_apply h, rfl, rfl, ?_, ?_⟩
  · rintro step f v rfl k
    exact KeyMap.get?_set g.fields f k v
  · intro hother
    cases c with
    | enterField step f v => exact absurd rfl (hother step f v)
    | _ => rfl

end Gate

end Conformance
