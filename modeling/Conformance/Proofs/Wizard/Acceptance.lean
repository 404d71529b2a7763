import Conformance.Proofs.Result
import Conformance.Proofs.Text.Pieces
import Conformance.Wizard.Gate
/-!
# What a gate accepts

`next` is the rule of the gate at once: the phase a command leads to, or the first guard that fails. A command is
carried out in steps, and `run_carryOut` says that the steps come to the rule: a command that is refused has done
nothing before its guard failed. `Accepts` sums up the rule: seven kinds of command, the phases in which each is
accepted, and the phase it leads to. What is said about accepted commands elsewhere is a case analysis over the
seven.
-/

namespace Conformance.Gate

/-! ## The rule at once -/

/-- The phase a command leads to in an open phase, or the first guard that fails. -/
def nextOpen (g : Gate) (c : Command) : Except Refusal Phase :=
  let notActive (step : WizardStep) : Except Refusal Phase :=
    .error (.stepNotActive c.operation step g.phase.name)
  match c with
  | .openStep step => if g.phase.activeStep? = some step then .ok g.phase else notActive step
  | .enterField step field value =>
    if step.number? ≠ some field.step then .error (.fieldOfOtherStep field step)
    else if g.phase.activeStep? ≠ some step then notActive step
    else if Text.isBlankText value then .error (.blankValue field)
    else .ok .errorsShown
  | .dismissErrors =>
    if g.phase = .errorsShown then .ok (.choosing none) else .error (.errorsNotShown g.phase.name)
  | .select recipient =>
    match g.phase with
    | .choosing _ =>
      if recipient ∈ g.roster then .ok (.choosing (some recipient))
      else .error (.unknownRecipient recipient)
    | _ => notActive .recipients
  | .advance =>
    match g.phase with
    | .form | .errorsShown => .error (.stepIncomplete .form)
    | .choosing none => .error (.stepIncomplete .recipients)
    | .choosing (some recipient) => .ok (.ready recipient)
    | _ => .error (.noNextStep g.phase.name)
  | .submit =>
    match g.phase with
    | .ready _ => .ok .submitted
    | _ => .error (.cannotSubmit g.phase.name)
  | .abandon => .ok .abandoned

/-- The phase a command leads to, or the first guard that fails; a closed gate refuses everything. -/
def next (g : Gate) (c : Command) : Except Refusal Phase :=
  if g.phase.isClosed then .error (.closed g.phase.name) else g.nextOpen c

/-- The fields after an accepted command. -/
def fieldsAfter (g : Gate) : Command → FieldMap
  | .enterField _ field value => g.fields.set field value
  | _ => g.fields

/-- What a submission from this gate would hand over. -/
def receipt? (g : Gate) : Option Receipt :=
  match g.phase with
  | .ready recipient => some ⟨recipient, g.fields.rekey FieldId.text⟩
  | _ => none

/-- The steps of a command come to the rule: a refused one leaves the gate as it was, and an accepted one moves it on
and adds its record. -/
theorem run_carryOut (g : Gate) (c : Command) : (carryOut c).run g = match g.next c with
    | .error r => .error r g
    | .ok q => .ok (if c = .submit then g.receipt? else none)
      ⟨q, g.roster, g.fieldsAfter c, g.journal ++ [⟨g.phase.name, q.name, c.operation⟩]⟩ := by
  cases c with
  | enterField step f v =>
    simp only [carryOut, enterField, next, nextOpen, EStateM.run_bind, EStateM.run_pure, Work.run_failIf,
      run_ensureOpen, run_ensureActive, run_insert, run_commit]
    by_cases hclosed : g.phase.isClosed = true
    · simp only [hclosed, if_true]
    by_cases hplace : step.number? = some f.step
    · by_cases hactive : g.phase.activeStep? = some step
      · by_cases hblank : Text.isBlankText v = true
        · simp [hclosed, hplace, hactive, hblank]
        · simp [hclosed, hplace, hactive, hblank, fieldsAfter, Command.operation]
      · simp [hclosed, hplace, hactive, Command.operation]
    · simp [hclosed, hplace]
  | select r =>
    obtain ⟨phase, roster, fields, journal⟩ := g
    cases phase with
    | choosing selected =>
      simp only [carryOut, select, next, nextOpen, EStateM.run_bind, EStateM.run_get, EStateM.run_pure,
        Work.run_failIf, run_ensureOpen, run_commit, Phase.isClosed, Bool.false_eq_true, if_false]
      by_cases hr : r ∈ roster
      · simp [hr, fieldsAfter, Command.operation]
      · simp [hr]
    | _ => rfl
  -- whether another command is accepted is told by the phase alone
  | advance =>
    obtain ⟨phase, roster, fields, journal⟩ := g
    cases phase with
    | choosing selected => cases selected <;> rfl
    | _ => rfl
  | openStep step =>
    obtain ⟨phase, roster, fields, journal⟩ := g
    cases phase <;> cases step <;> rfl
  | dismissErrors | submit | abandon =>
    obtain ⟨phase, roster, fields, journal⟩ := g
    cases phase <;> rfl

/-! ## One command -/

/-- A command that is accepted in a phase, and the phase it leads to. -/
inductive Accepts (roster : List Recipient) : Phase → Command → Phase → Prop
  | openStep {p : Phase} {step : WizardStep} (active : p.activeStep? = some step) :
    Accepts roster p (.openStep step) p
  | enterField {p : Phase} {f : FieldId} {v : String} (active : p.activeStep? = some .form)
    (step : f.step = 0) (filled : Text.trim v ≠ "") :
    Accepts roster p (.enterField .form f v) .errorsShown
  | dismissErrors : Accepts roster .errorsShown .dismissErrors (.choosing none)
  | select {selected : Option Recipient} {r : Recipient} (known : r ∈ roster) :
    Accepts roster (.choosing selected) (.select r) (.choosing (some r))
  | advance {r : Recipient} : Accepts roster (.choosing (some r)) .advance (.ready r)
  | submit {r : Recipient} : Accepts roster (.ready r) .submit .submitted
  | abandon {p : Phase} (isOpen : p.isClosed = false) : Accepts roster p .abandon .abandoned

variable {roster : List Recipient} {g g' : Gate} {c : Command} {p q : Phase}

/-- `Accepts` read command by command. -/
theorem accepts_iff : Accepts roster p c q ↔ match c with
    | .openStep step => p.activeStep? = some step ∧ q = p
    | .enterField step f v =>
      (step = .form ∧ f.step = 0 ∧ Text.trim v ≠ "") ∧ p.activeStep? = some .form ∧ q = .errorsShown
    | .dismissErrors => p = .errorsShown ∧ q = .choosing none
    | .select r => (∃ selected, p = .choosing selected) ∧ r ∈ roster ∧ q = .choosing (some r)
    | .advance => ∃ r, p = .choosing (some r) ∧ q = .ready r
    | .submit => (∃ r, p = .ready r) ∧ q = .submitted
    | .abandon => p.isClosed = false ∧ q = .abandoned := by
  constructor
  · intro h
    cases h <;> simp_all
  · intro h
    cases c with
    | openStep step => obtain ⟨h, rfl⟩ := h; exact .openStep h
    | enterField step f v => obtain ⟨⟨rfl, hf, hv⟩, h, rfl⟩ := h; exact .enterField h hf hv
    | dismissErrors => obtain ⟨rfl, rfl⟩ := h; exact .dismissErrors
    | select r => obtain ⟨⟨selected, rfl⟩, hr, rfl⟩ := h; exact .select hr
    | advance => obtain ⟨r, rfl, rfl⟩ := h; exact .advance
    | submit => obtain ⟨⟨r, rfl⟩, rfl⟩ := h; exact .submit
    | abandon => obtain ⟨h, rfl⟩ := h; exact .abandon h

theorem Accepts.isClosed_eq_false (h : Accepts roster p c q) : p.isClosed = false := by
  cases h with
  | openStep active | enterField active => cases p <;> simp_all [Phase.activeStep?, Phase.isClosed]
  | abandon isOpen => exact isOpen
  | _ => rfl

theorem number?_eq_some_iff {step : WizardStep} {n : UInt32} :
    step.number? = some n ↔ step = .form ∧ n = 0 := by
  cases step <;> simp [WizardStep.number?, eq_comm]

theorem accepts_of_next (h : g.next c = .ok q) : Accepts g.roster g.phase c q := by
  unfold next at h
  split at h
  · cases h
  · rename_i hopen
    -- a branch of the rule is a refusal, or it has checked what its constructor asks for
    unfold nextOpen at h
    cases c with
    | openStep step =>
      simp only at h
      split at h <;> cases h
      exact .openStep ‹_›
    | enterField step f v =>
      simp only [ne_eq, ite_not] at h
      split at h
      · rename_i hnum
        obtain ⟨rfl, hf⟩ := number?_eq_some_iff.1 hnum
        split at h
        · split at h <;> cases h
          exact .enterField ‹_› hf (mt Text.isBlankText_iff.2 ‹_›)
        · cases h
      · cases h
    | dismissErrors =>
      simp only at h
      split at h <;> cases h
      rename_i hp
      exact hp ▸ .dismissErrors
    | select r =>
      simp only at h
      split at h
      · rename_i hp
        split at h <;> cases h
        exact hp ▸ .select ‹_›
      · cases h
    | advance =>
      simp only at h
      split at h <;> cases h
      rename_i hp
      exact hp ▸ .advance
    | submit =>
      simp only at h
      split at h <;> cases h
      rename_i hp
      exact hp ▸ .submit
    | abandon =>
      cases h
      exact .abandon (by simpa using hopen)

/-- The rule of the gate accepts what `Accepts` lists, and leads where it says. -/
theorem next_eq_ok_iff : g.next c = .ok q ↔ Accepts g.roster g.phase c q := by
  refine ⟨accepts_of_next, fun h => ?_⟩
  rw [next, if_neg (by simp [h.isClosed_eq_false])]
  obtain ⟨phase, roster, fields, journal⟩ := g
  cases h with
  | openStep active => simp_all [nextOpen]
  | enterField active step filled =>
    simp_all [nextOpen, WizardStep.number?, mt Text.isBlankText_iff.1 filled]
  | select known => simp_all [nextOpen]
  | _ => rfl

/-- What an accepted command leaves of the gate. -/
theorem apply_eq_ok_iff : g.apply c = .ok g' ↔ ∃ q, Accepts g.roster g.phase c q ∧
    g' = ⟨q, g.roster, g.fieldsAfter c, g.journal ++ [⟨g.phase.name, q.name, c.operation⟩]⟩ := by
  rw [apply, Work.result, run_carryOut]
  cases h : g.next c with
  | error r =>
    simp only [reduceCtorEq, false_iff]
    rintro ⟨q, hq, -⟩
    rw [next_eq_ok_iff.2 hq] at h
    cases h
  | ok q =>
    constructor
    · intro hg
      cases hg
      exact ⟨q, next_eq_ok_iff.1 h, rfl⟩
    · rintro ⟨q', hq, rfl⟩
      rw [next_eq_ok_iff.2 hq] at h
      cases h
      rfl

theorem apply_eq_error_iff_next {r : Refusal} : g.apply c = .error r ↔ g.next c = .error r := by
  rw [apply, Work.result, run_carryOut]
  cases g.next c <;> simp

theorem attempt_of_apply (h : g.apply c = .ok g') : g.attempt c = g' := Work.left_of_result h

/-- A refused command leaves the gate as it was. -/
theorem attempt_of_error {r : Refusal} (h : g.apply c = .error r) : g.attempt c = g := by
  rw [attempt, Work.left, run_carryOut, apply_eq_error_iff_next.1 h]

/-! ## Runs -/

variable {cs ds : List Command}

theorem run_cons_eq_ok_iff : g.run (c :: cs) = .ok g' ↔ ∃ m, g.apply c = .ok m ∧ m.run cs = .ok g' := by
  rw [run, bind_eq_ok_iff]

theorem run_append_eq_ok_iff :
    g.run (cs ++ ds) = .ok g' ↔ ∃ m, g.run cs = .ok m ∧ m.run ds = .ok g' := by
  induction cs generalizing g with
  | nil => simp [run]
  | cons c cs ih =>
    rw [List.cons_append, run_cons_eq_ok_iff]
    simp only [ih, run_cons_eq_ok_iff]
    constructor
    · rintro ⟨m, hm, n, hn, h⟩
      exact ⟨n, ⟨m, hm, hn⟩, h⟩
    · rintro ⟨n, ⟨m, hm, hn⟩, h⟩
      exact ⟨m, hm, n, hn, h⟩

/-- What every command of a run keeps of the phase, the run keeps. -/
theorem phase_of_run {P : Phase → Prop} (hstep : ∀ c ∈ cs, ∀ p q, Accepts g.roster p c q → P p → P q)
    (h : g.run cs = .ok g') (hp : P g.phase) : P g'.phase := by
  induction cs generalizing g with
  | nil => cases h; exact hp
  | cons c cs ih =>
    obtain ⟨m, hm, h⟩ := run_cons_eq_ok_iff.1 h
    obtain ⟨q, hq, rfl⟩ := apply_eq_ok_iff.1 hm
    refine ih ?_ h (hstep c List.mem_cons_self _ _ hq hp)
    exact fun d hd => hstep d (List.mem_cons_of_mem _ hd)

theorem roster_of_apply (h : g.apply c = .ok g') : g'.roster = g.roster := by
  obtain ⟨q, -, rfl⟩ := apply_eq_ok_iff.1 h
  rfl

theorem roster_of_run (h : g.run cs = .ok g') : g'.roster = g.roster := by
  induction cs generalizing g with
  | nil => cases h; rfl
  | cons c cs ih =>
    obtain ⟨m, hm, h⟩ := run_cons_eq_ok_iff.1 h
    rw [ih h, roster_of_apply hm]

/-- A closed gate accepts nothing. -/
theorem eq_nil_of_run (hclosed : g.phase.isClosed = true) (h : g.run cs = .ok g') : cs = [] := by
  cases cs with
  | nil => rfl
  | cons c cs =>
    obtain ⟨m, hm, -⟩ := run_cons_eq_ok_iff.1 h
    obtain ⟨q, hq, -⟩ := apply_eq_ok_iff.1 hm
    rw [hq.isClosed_eq_false] at hclosed
    cases hclosed

theorem Accepts.isClosed_of_last (h : Accepts roster p c q) (hc : c = .submit ∨ c = .abandon) :
    q.isClosed = true := by
  rcases hc with rfl | rfl <;> cases h <;> rfl

/-- Nothing is accepted behind a submission, or behind being abandoned. -/
theorem eq_nil_of_run_append (h : g.run (cs ++ c :: ds) = .ok g') (hc : c = .submit ∨ c = .abandon) :
    ds = [] := by
  obtain ⟨m, -, h⟩ := run_append_eq_ok_iff.1 h
  obtain ⟨n, hn, h⟩ := run_cons_eq_ok_iff.1 h
  obtain ⟨q, hq, rfl⟩ := apply_eq_ok_iff.1 hn
  exact eq_nil_of_run (hq.isClosed_of_last hc) h

end Conformance.Gate
