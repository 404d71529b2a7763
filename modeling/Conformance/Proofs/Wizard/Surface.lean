import Mathlib.Data.List.Induction
import Conformance.Proofs.Wizard.Acceptance
import Conformance.Wizard.Surface
/-!
# A page is its gate

`Asks` says which gesture on the page asks the gate for which command, `Idle` which gestures nothing answers,
and `Unsupported` which ones the page refuses by itself; every gesture is one of the three. So a page goes
where its gate goes under the commands that were asked for, and what it adds is the receipt of the one
submission that was accepted through it.
-/

namespace Conformance

/-! ## Gestures -/

/-- Something done to an element of a page. -/
structure Gesture where
  element : Element
  action : Action
deriving DecidableEq, Repr

namespace Gesture

/-- The click that submits. -/
def submit : Gesture := ⟨.submitButton, .click⟩

/-- The command a gesture asks a gate for. Keys on a field go to the active step, or to the form once there
is none. -/
inductive Asks (p : Phase) : Gesture → Command → Prop
  | formLink : Asks p ⟨.formLink, .click⟩ (.openStep .form)
  | errorLink : Asks p ⟨.errorLink, .click⟩ .dismissErrors
  | recipient {r : Recipient} : Asks p ⟨.recipient r, .click⟩ (.select r)
  | nextButton : Asks p ⟨.nextButton, .click⟩ .advance
  | submitButton : Asks p ⟨.submitButton, .click⟩ .submit
  | keys {f : FieldId} {text : String} {step : WizardStep} (active : p.activeStep? = some step) :
    Asks p ⟨.field f, .sendKeys text⟩ (.enterField step f text)
  | keysClosed {f : FieldId} {text : String} (closed : p.isClosed = true) :
    Asks p ⟨.field f, .sendKeys text⟩ (.enterField .form f text)

/-- Clicks that are taken and mean nothing. -/
inductive Idle : Gesture → Prop
  | form : Idle ⟨.form, .click⟩
  | errorPanel : Idle ⟨.errorPanel, .click⟩
  | field {f : FieldId} : Idle ⟨.field f, .click⟩

/-- Only fields take keys. -/
inductive Unsupported : Gesture → Prop
  | keys {e : Element} {text : String} (other : ∀ f, e ≠ .field f) : Unsupported ⟨e, .sendKeys text⟩

variable {x : Gesture} {p : Phase} {c : Command}

theorem asks_or_idle_or_unsupported (p : Phase) (x : Gesture) :
    (∃ c, x.Asks p c) ∨ x.Idle ∨ x.Unsupported := by
  obtain ⟨e, a⟩ := x
  cases a with
  | click =>
    cases e with
    | form => exact .inr (.inl .form)
    | formLink => exact .inl ⟨_, .formLink⟩
    | field f => exact .inr (.inl .field)
    | errorPanel => exact .inr (.inl .errorPanel)
    | errorLink => exact .inl ⟨_, .errorLink⟩
    | recipient r => exact .inl ⟨_, .recipient⟩
    | nextButton => exact .inl ⟨_, .nextButton⟩
    | submitButton => exact .inl ⟨_, .submitButton⟩
  | sendKeys text =>
    cases e with
    | field f =>
      cases hp : p.activeStep? with
      | some step => exact .inl ⟨_, .keys hp⟩
      | none => exact .inl ⟨_, .keysClosed (by cases p <;> first | rfl | cases hp)⟩
    | _ => exact .inr (.inr (.keys fun f => by simp))

theorem Asks.submit_iff (h : x.Asks p c) : c = .submit ↔ x = submit := by
  cases h <;> simp [submit]

end Gesture

/-! ## One gesture -/

namespace Surface

/-- The page a gesture leaves behind, whether it has an effect or not. -/
def after (s : Surface) (x : Gesture) : Surface := (carryOut x.element x.action).left s

variable {s : Surface} {x : Gesture} {c : Command} {r : Receipt}

/-- A gate has a receipt to give exactly when it takes the submission. -/
theorem receipt?_eq_some_iff {g : Gate} : g.receipt? = some r ↔
    ∃ recipient, g.phase = .ready recipient ∧ r = ⟨recipient, g.fields.rekey FieldId.text⟩ := by
  cases hp : g.phase <;> simp [Gate.receipt?, hp, eq_comm]

/-- What a gesture asks for is what it means to the gate. -/
theorem meaning_of_asks (h : x.Asks s.gate.phase c) : s.meaning x.element x.action = .command c := by
  cases h with
  | keys active => rw [meaning, active]; rfl
  | keysClosed closed =>
    have hnone : s.gate.phase.activeStep? = none := by
      cases hp : s.gate.phase <;> rw [hp] at closed <;> first | rfl | cases closed
    rw [meaning, hnone]
    rfl
  | _ => rfl

/-- A command through the page has the answer of the gate. A refused one leaves the page as it was, and an accepted
submission leaves its receipt. -/
theorem run_command (s : Surface) (c : Command) : (command c).run s = match s.gate.apply c with
    | .error r => .error (.refused r) s
    | .ok g => .ok () ⟨g, if c = .submit then s.gate.receipt? else s.receipt⟩ := by
  rw [command, EStateM.run_bind, run_onGate, Gate.apply, Work.result, Gate.run_carryOut]
  cases hnext : s.gate.next c with
  | error r => rfl
  | ok q =>
    by_cases hc : c = .submit
    · subst hc
      obtain ⟨⟨recipient, hready⟩, -⟩ := Gate.accepts_iff.1 (Gate.next_eq_ok_iff.1 hnext)
      simp [receipt?_eq_some_iff.2 ⟨recipient, hready, rfl⟩]
    · simp [hc]

theorem run_carryOut_of_asks (h : x.Asks s.gate.phase c) :
    (carryOut x.element x.action).run s = (command c).run s := by
  simp only [carryOut, EStateM.run_bind, EStateM.run_get, meaning_of_asks h]

theorem run_carryOut_of_idle (h : x.Idle) : (carryOut x.element x.action).run s = .ok () s := by cases h <;> rfl

theorem run_carryOut_of_unsupported (h : x.Unsupported) :
    (carryOut x.element x.action).run s = .error (.unsupported x.element x.action) s := by
  obtain ⟨other⟩ := h
  rename_i e text
  cases e with
  | field f => exact absurd rfl (other f)
  | _ => rfl

/-- A command through the page is the command to its gate, with the same refusal. -/
theorem perform_of_asks (h : x.Asks s.gate.phase c) : s.perform x.element x.action = match s.gate.apply c with
    | .error r => .error (.refused r)
    | .ok g => .ok ⟨g, if c = .submit then s.gate.receipt? else s.receipt⟩ := by
  rw [perform, Work.result, run_carryOut_of_asks h, run_command]
  cases s.gate.apply c <;> rfl

theorem perform_of_idle (h : x.Idle) : s.perform x.element x.action = .ok s := by
  rw [perform, Work.result, run_carryOut_of_idle h]

theorem perform_of_unsupported (h : x.Unsupported) :
    s.perform x.element x.action = .error (.unsupported x.element x.action) := by
  rw [perform, Work.result, run_carryOut_of_unsupported h]

/-- The page after a gesture that asks for a command. -/
theorem after_of_asks (h : x.Asks s.gate.phase c) : s.after x = match s.gate.apply c with
    | .error _ => s
    | .ok g => ⟨g, if c = .submit then s.gate.receipt? else s.receipt⟩ := by
  rw [after, Work.left, run_carryOut_of_asks h, run_command]
  cases s.gate.apply c <;> rfl

theorem after_of_idle (h : x.Idle) : s.after x = s := by
  rw [after, Work.left, run_carryOut_of_idle h]

theorem after_of_unsupported (h : x.Unsupported) : s.after x = s := by
  rw [after, Work.left, run_carryOut_of_unsupported h]

theorem gate_after_of_asks (h : x.Asks s.gate.phase c) : (s.after x).gate = s.gate.attempt c := by
  rw [after_of_asks h]
  cases happly : s.gate.apply c with
  | error r => exact (Gate.attempt_of_error happly).symm
  | ok g => exact (Gate.attempt_of_apply happly).symm

/-- A gesture without effect leaves the page as it was. -/
theorem after_of_error {e : SurfaceError} (h : s.perform x.element x.action = .error e) : s.after x = s := by
  rcases x.asks_or_idle_or_unsupported s.gate.phase with ⟨c, hc⟩ | hx | hx
  · rw [perform_of_asks hc] at h
    rw [after_of_asks hc]
    cases happly : s.gate.apply c with
    | error r => rfl
    | ok g =>
      rw [happly] at h
      cases h
  · exact after_of_idle hx
  · exact after_of_unsupported hx

/-- A closed page stays as it is. -/
theorem after_of_closed (hclosed : s.gate.phase.isClosed = true) (x : Gesture) : s.after x = s := by
  rcases x.asks_or_idle_or_unsupported s.gate.phase with ⟨c, h⟩ | h | h
  · rw [after_of_asks h]
    cases happly : s.gate.apply c with
    | error => rfl
    | ok g =>
      obtain ⟨q, hq, -⟩ := Gate.apply_eq_ok_iff.1 happly
      rw [hq.isClosed_eq_false] at hclosed
      cases hclosed
  · exact after_of_idle h
  · exact after_of_unsupported h

/-- A gate with a receipt to give takes the submission, and the page keeps the receipt. -/
theorem after_submit_of_some (h : s.gate.receipt? = some r) :
    s.perform .submitButton .click = .ok (s.after .submit) ∧ (s.after .submit).receipt = some r ∧
      (s.after .submit).gate.phase = .submitted := by
  obtain ⟨recipient, hready, -⟩ := receipt?_eq_some_iff.1 h
  have haccepts : Gate.Accepts s.gate.roster s.gate.phase .submit .submitted := hready ▸ .submit
  obtain ⟨g, hg, hp⟩ : ∃ g, s.gate.apply .submit = .ok g ∧ g.phase = .submitted :=
    ⟨_, Gate.apply_eq_ok_iff.2 ⟨_, haccepts, rfl⟩, rfl⟩
  have hperform : s.perform .submitButton .click = .ok ⟨g, s.gate.receipt?⟩ := by
    rw [show s.perform .submitButton .click = _ from perform_of_asks .submitButton, hg]
    rfl
  have hafter : s.after .submit = ⟨g, s.gate.receipt?⟩ := by
    rw [show s.after .submit = _ from after_of_asks .submitButton, hg]
    rfl
  rw [hafter]
  exact ⟨hperform, h, hp⟩

/-- A gate without a receipt to give refuses the submission. -/
theorem after_submit_of_none (h : s.gate.receipt? = none) : s.after .submit = s := by
  rw [show s.after .submit = _ from after_of_asks .submitButton]
  cases happly : s.gate.apply .submit with
  | error => rfl
  | ok g =>
    obtain ⟨q, hq, -⟩ := Gate.apply_eq_ok_iff.1 happly
    obtain ⟨⟨recipient, hp⟩, -⟩ := Gate.accepts_iff.1 hq
    rw [receipt?_eq_some_iff.2 ⟨recipient, hp, rfl⟩] at h
    cases h

/-- Only the click that submits leaves a receipt. -/
theorem receipt_after_of_ne (hx : x ≠ .submit) : (s.after x).receipt = s.receipt := by
  rcases x.asks_or_idle_or_unsupported s.gate.phase with ⟨c, h⟩ | h | h
  · rw [after_of_asks h, if_neg (mt h.submit_iff.1 hx)]
    cases s.gate.apply c <;> rfl
  · rw [after_of_idle h]
  · rw [after_of_unsupported h]

/-! ## All gestures -/

/-- The page after gestures, one after the other. -/
def afterAll (s : Surface) (xs : List Gesture) : Surface := xs.foldl after s

theorem afterAll_concat (s : Surface) (xs : List Gesture) (x : Gesture) :
    s.afterAll (xs ++ [x]) = (s.afterAll xs).after x := by
  rw [afterAll, List.foldl_append]
  rfl

theorem afterAll_of_closed (hclosed : s.gate.phase.isClosed = true) (xs : List Gesture) :
    s.afterAll xs = s := by
  induction xs with
  | nil => rfl
  | cons x xs ih => rwa [afterAll, List.foldl_cons, after_of_closed hclosed]

/-- Gestures drive a gate: each asks it for a command, which is attempted, or leaves it alone. -/
inductive Drive : Gate → List Gesture → Gate → Prop
  | nil {g : Gate} : Drive g [] g
  | asks {g g' : Gate} {x : Gesture} {xs : List Gesture} {c : Command} (asks : x.Asks g.phase c)
    (rest : Drive (g.attempt c) xs g') : Drive g (x :: xs) g'
  | alone {g g' : Gate} {x : Gesture} {xs : List Gesture} (alone : x.Idle ∨ x.Unsupported)
    (rest : Drive g xs g') : Drive g (x :: xs) g'

theorem drive_afterAll (s : Surface) (xs : List Gesture) : Drive s.gate xs (s.afterAll xs).gate := by
  induction xs generalizing s with
  | nil => exact .nil
  | cons x xs ih =>
    have hrest := ih (s.after x)
    rcases x.asks_or_idle_or_unsupported s.gate.phase with ⟨c, h⟩ | h | h
    · rw [gate_after_of_asks h] at hrest
      exact .asks h hrest
    · rw [after_of_idle h] at hrest
      exact .alone (.inl h) (by rwa [afterAll, List.foldl_cons, after_of_idle h])
    · rw [after_of_unsupported h] at hrest
      exact .alone (.inr h) (by rwa [afterAll, List.foldl_cons, after_of_unsupported h])

/-- A page with a receipt is one that was submitted. -/
theorem phase_of_receipt (g : Gate) (xs : List Gesture) :
    ((Surface.new g).afterAll xs).receipt ≠ none →
      ((Surface.new g).afterAll xs).gate.phase = .submitted := by
  induction xs using List.reverseRecOn with
  | nil => exact fun h => absurd rfl h
  | append_singleton xs x ih =>
    rw [afterAll_concat]
    generalize (Surface.new g).afterAll xs = s at ih ⊢
    intro h
    by_cases hx : x = .submit
    · subst hx
      cases hr : s.gate.receipt? with
      | none =>
        rw [after_submit_of_none hr] at h ⊢
        exact ih h
      | some r => exact (after_submit_of_some hr).2.2
    · rw [receipt_after_of_ne hx] at h
      rw [after_of_closed (by rw [ih h]; rfl)]
      exact ih h

/-- The receipt of a page is that of the one click that submitted. -/
theorem receipt_afterAll_iff (g : Gate) (xs : List Gesture) :
    ((Surface.new g).afterAll xs).receipt = some r ↔ ∃ before behind, xs = before ++ .submit :: behind ∧
      ((Surface.new g).afterAll before).gate.receipt? = some r := by
  induction xs using List.reverseRecOn with
  | nil => simp [afterAll, Surface.new]
  | append_singleton xs x ih =>
    have hphase := phase_of_receipt g xs
    rw [afterAll_concat]
    -- the last gesture is the click in question, or that click stands before it
    have hsplit : (∃ before behind, xs ++ [x] = before ++ .submit :: behind ∧
        ((Surface.new g).afterAll before).gate.receipt? = some r) ↔
        (x = .submit ∧ ((Surface.new g).afterAll xs).gate.receipt? = some r) ∨
        ((Surface.new g).afterAll xs).receipt = some r := by
      rw [ih]
      constructor
      · rintro ⟨before, behind, heq, hr⟩
        rcases List.eq_nil_or_concat behind with rfl | ⟨behind, y, rfl⟩
        · obtain ⟨rfl, hx⟩ := List.append_inj' heq rfl
          exact .inl ⟨List.singleton_inj.1 hx, hr⟩
        · rw [List.concat_eq_append, ← List.cons_append, ← List.append_assoc] at heq
          obtain ⟨rfl, -⟩ := List.append_inj' heq rfl
          exact .inr ⟨before, behind, rfl, hr⟩
      · rintro (⟨rfl, hr⟩ | ⟨before, behind, rfl, hr⟩)
        · exact ⟨xs, [], rfl, hr⟩
        · exact ⟨before, behind ++ [x], by simp, hr⟩
    rw [hsplit]
    generalize (Surface.new g).afterAll xs = s at hphase ⊢
    by_cases hx : x = .submit
    · subst hx
      cases hr : s.gate.receipt? with
      | none => simp [after_submit_of_none hr]
      | some r' =>
        -- a gate that takes a submission has none behind it
        have hnone : s.receipt = none := by
          by_contra hsome
          obtain ⟨recipient, hp, -⟩ := receipt?_eq_some_iff.1 hr
          rw [hphase hsome] at hp
          cases hp
        simp [(after_submit_of_some hr).2.1, hnone]
    · simp [receipt_after_of_ne hx, hx]

/-- A page refines its gate, whatever was done to it before. A gesture that asks for a command has the answer
of the gate to that command, refusals included, and leads to the gate after it; clicks on the form, the
panel and the fields are taken and change nothing; keys go to fields only; and a gesture without effect
leaves the whole page as it is. A page has a receipt exactly if a submission was accepted through it, which
is that submission's receipt; from then on it is submitted and stays as it is. -/
theorem surface_refines_gate (g : Gate) (xs : List Gesture) :
    let s := (Surface.new g).afterAll xs
    Drive g xs s.gate ∧
    (∀ x : Gesture,
      (∀ c, x.Asks s.gate.phase c →
        (s.perform x.element x.action).map Surface.gate = (s.gate.apply c).mapError .refused) ∧
      (x.Idle → s.perform x.element x.action = .ok s) ∧
      (x.Unsupported → s.perform x.element x.action = .error (.unsupported x.element x.action)) ∧
      ((∃ c, x.Asks s.gate.phase c) ∨ x.Idle ∨ x.Unsupported) ∧
      ∀ e, s.perform x.element x.action = .error e → s.after x = s) ∧
    (∀ r, s.receipt = some r ↔ ∃ before behind t, xs = before ++ .submit :: behind ∧
      ((Surface.new g).afterAll before).perform .submitButton .click = .ok t ∧
      ((Surface.new g).afterAll before).gate.receipt? = some r) ∧
    (s.receipt ≠ none → s.gate.phase = .submitted ∧ ∀ ys, s.afterAll ys = s) := by
  intro s
  refine ⟨drive_afterAll (.new g) xs, fun x => ⟨fun c hc => ?_, perform_of_idle, perform_of_unsupported,
    x.asks_or_idle_or_unsupported _, fun e he => ?_⟩, fun r => ?_, fun hr => ?_⟩
  · rw [perform_of_asks hc]
    cases s.gate.apply c <;> rfl
  · exact after_of_error he
  · rw [receipt_afterAll_iff]
    constructor
    · rintro ⟨before, behind, heq, hr⟩
      exact ⟨before, behind, _, heq, (after_submit_of_some hr).1, hr⟩
    · rintro ⟨before, behind, -, heq, -, hr⟩
      exact ⟨before, behind, heq, hr⟩
  · have hp := phase_of_receipt g xs hr
    exact ⟨hp, afterAll_of_closed (by rw [hp]; rfl)⟩

end Surface

end Conformance
