import Conformance.Proofs.Config.Valid
import Conformance.Proofs.Wizard.Element
import Conformance.Proofs.Wizard.Surface
/-!
# What was accepted can be replayed

The ids of a workflow are read twice: when a configuration is checked, and again when its scenarios are
replayed on a page for its recipients. Both readings agree. So no step of an accepted scenario meets an
unknown element, and the script of a submission reaches every configured recipient.
-/

namespace Conformance

/-! ## Steps on elements that exist -/

namespace ScenarioStep
variable {step : ScenarioStep} {fault : StepFault}

/-- A step on an element that exists may fail, but not for want of the element. -/
theorem Fails.ne_unknownElement {s : Surface} (hstep : Element.parse? step.element ≠ none)
    (h : step.Fails s fault) (id : String) : fault ≠ .unknownElement id := by
  intro heq
  subst heq
  cases h with
  | unknown unknown => exact hstep unknown

end ScenarioStep

/-- A text that does not start as the one for an unknown element does. -/
structure StartsApart (s : String) : Prop where
  exists_head : ∃ c, s.toList.head? = some c ∧ c ≠ 'u'

theorem StartsApart.append {s : String} (h : StartsApart s) (rest : String) : StartsApart (s ++ rest) := by
  obtain ⟨c, hc, hne⟩ := h.exists_head
  constructor
  refine ⟨c, ?_, hne⟩
  rw [String.toList_append, List.head?_append, hc]
  rfl

theorem Operation.startsApart_label (o : Operation) : StartsApart o.label := by
  cases o <;> simp only [label] <;> exact ⟨_, rfl, by decide⟩

theorem Refusal.startsApart_text (r : Refusal) : StartsApart r.text := by
  cases r with
  | stepNotActive operation =>
    unfold text
    repeat apply StartsApart.append
    exact operation.startsApart_label
  | _ =>
    unfold text
    repeat apply StartsApart.append
    exact ⟨_, rfl, by decide⟩

/-- A reported reason says that an element is unknown only if it is. -/
theorem StepFault.text_ne_unknownText {fault : StepFault} (h : ∀ id, fault ≠ .unknownElement id)
    (id : String) : fault.text ≠ Element.unknownText id := by
  have hapart : StartsApart fault.text := by
    cases fault with
    | unknownElement id => exact absurd rfl (h id)
    | noEffect error =>
      cases error with
      | unsupported =>
        unfold text SurfaceError.text
        repeat apply StartsApart.append
        exact ⟨_, rfl, by decide⟩
      | refused r => exact r.startsApart_text
    | visible | enabled =>
      unfold text flagText
      repeat apply StartsApart.append
      exact ⟨_, rfl, by decide⟩
  intro heq
  obtain ⟨c, hc, hne⟩ := hapart.exists_head
  rw [heq] at hc
  change ("unknown element " ++ id).toList.head? = some c at hc
  rw [String.toList_append, List.head?_append] at hc
  exact hne (Option.some.inj hc).symm

/-! ## The script of a submission -/

/-- A submission on the page, by the ids of its elements: keys on a field, the error panel dismissed, a
recipient chosen and confirmed, and the submission itself. -/
def submissionSteps (field text recipient : String) : List ScenarioStep := [
  ⟨field, .sendKeys text⟩,
  ⟨"#SubmissionErrors span.err-link", .click⟩,
  ⟨recipient, .click⟩,
  ⟨"NextStepButton", .click⟩,
  ⟨"SubmitButton", .click⟩]

/-- Where a submission stands on a page: its phase, who may be selected, and the entered values. -/
structure Surface.Stands (s : Surface) (p : Phase) (roster : List Recipient) (fields : FieldMap) : Prop where
  phase : s.gate.phase = p
  roster : s.gate.roster = roster
  fields : s.gate.fields = fields

namespace Surface.Stands
variable {s : Surface} {p q : Phase} {roster : List Recipient} {fields : FieldMap}
  {e : Element} {a : Action} {c : Command}

/-- A step that asks for a command the gate accepts holds, and moves the submission on. -/
theorem carry (h : s.Stands p roster fields) (step : ScenarioStep)
    (known : Element.parse? step.element = some e) (action : step.deed.action? = some a)
    (asks : Gesture.Asks p ⟨e, a⟩ c) (accepted : Gate.Accepts roster p c q) :
    step.Holds s ∧ (s.carry step).receipt = (if c = .submit then s.gate.receipt? else s.receipt) ∧
      (s.carry step).Stands q roster (Gate.fieldsAfter ⟨p, roster, fields, []⟩ c) := by
  obtain ⟨rfl, rfl, rfl⟩ := h
  have meant := Surface.meaning_of_asks asks
  have hcarry := (ScenarioStep.carry_of_command known action meant).trans (Surface.attempt_of_accepts accepted)
  have hgate : s.gate.attempt c = ⟨q, s.gate.roster, s.gate.fieldsAfter c,
      s.gate.journal ++ [⟨s.gate.phase.name, q.name, c.operation⟩]⟩ :=
    Gate.attempt_of_apply (Gate.apply_eq_ok_iff.2 ⟨q, accepted, rfl⟩)
  rw [hgate] at hcarry
  rw [hcarry]
  exact ⟨.command known action meant accepted, rfl, rfl, rfl, rfl⟩

end Surface.Stands

/-- On a fresh page the script of a submission holds step by step. It ends with the submission of what was
entered to the recipient that was clicked. -/
theorem Surface.follows_submissionSteps {roster : List Recipient} {field text recipient : String}
    {f : FieldId} (hfield : Element.parse? field = some (.field f)) (hform : f.step = 0)
    (hfilled : Text.trim text ≠ "") (hrecipient : IsReceiver recipient) (hmem : ⟨recipient⟩ ∈ roster) :
    let steps := submissionSteps field text recipient
    let page := steps.foldl Surface.carry (.new (.new roster))
    (Surface.new (.new roster)).Follows steps ∧ page.gate.phase = .submitted ∧
      page.receipt = some ⟨⟨recipient⟩, (KeyMap.empty.set f text).rekey FieldId.text⟩ := by
  have h₀ : (Surface.new (.new roster)).Stands .form roster .empty := ⟨rfl, rfl, rfl⟩
  generalize Surface.new (.new roster) = s at h₀ ⊢
  obtain ⟨hkeys, -, h₁⟩ := h₀.carry ⟨field, .sendKeys text⟩ hfield rfl (.keys rfl)
    (.enterField rfl hform hfilled)
  obtain ⟨hlink, -, h₂⟩ := h₁.carry ⟨"#SubmissionErrors span.err-link", .click⟩ rfl rfl .errorLink
    .dismissErrors
  obtain ⟨hselect, -, h₃⟩ := h₂.carry ⟨recipient, .click⟩
    (Element.parse?_of_isReceiver hrecipient) rfl .recipient (.select hmem)
  obtain ⟨hnext, -, h₄⟩ := h₃.carry ⟨"NextStepButton", .click⟩ rfl rfl .nextButton .advance
  obtain ⟨hsubmit, hreceipt, h₅⟩ := h₄.carry ⟨"SubmitButton", .click⟩ rfl rfl .submitButton .submit
  refine ⟨⟨hkeys, hlink, hselect, hnext, hsubmit, trivial⟩, h₅.phase, hreceipt.trans ?_⟩
  rw [if_pos rfl, Surface.receipt?_eq_some_iff.2 ⟨⟨recipient⟩, h₄.phase, rfl⟩, h₄.fields]
  rfl

/-! ## Accepted configurations -/

namespace Config
variable {c : Config} {scenario : Scenario} {step : ScenarioStep}

/-- Every step of every scenario is on an element that exists, the built-in scenario included. -/
theorem Valid.parse?_ne_none [UrlLibrary] (hc : c.Valid) (hscenario : scenario ∈ c.scenarios)
    (hstep : step ∈ scenario.steps) : Element.parse? step.element ≠ none := by
  rcases List.mem_cons.1 hscenario with rfl | hscenario
  · revert step
    decide
  · exact (hc.workflow.scenarios scenario hscenario).elements step hstep

theorem Valid.isReceiver [UrlLibrary] (hc : c.Valid) {r : Recipient} (hr : r ∈ c.roster) : IsReceiver r.id := by
  obtain ⟨id, hid, rfl⟩ := List.mem_map.1 hr
  exact hc.workflow.recipients id hid

/-- What was accepted can be replayed. No step of a scenario fails because its element is unknown, on whatever
page it is carried out, and no report gives that as its reason. And every recipient can be reached through
the page: by keys on a field of the form, a click on the link of the panel, a click on the recipient, and one
on each button, all of which are accepted, the submission is made to that recipient, and its receipt holds
what was entered. -/
theorem workflow_replayable [UrlLibrary] (c : Config) (h : c.fault? = none) :
    (∀ scenario ∈ c.scenarios,
      (∀ step ∈ scenario.steps, ∀ (page : Surface) (id : String),
        step.apply page ≠ .error (.unknownElement id)) ∧
      ∀ f, (scenario.run c.roster).failure = some f → ∀ id, f.reason ≠ Element.unknownText id) ∧
    (∀ r ∈ c.roster, ∀ (field text : String) (f : FieldId), Element.parse? field = some (.field f) →
      f.step = 0 → Text.trim text ≠ "" →
      ∃ page receipt, replay (.new (.new c.roster)) 0 (submissionSteps field text r.id) = (page, none) ∧
        page.gate.phase = .submitted ∧ page.receipt = some receipt ∧ receipt.recipient = r ∧
        receipt.fields.entries = [(f.text, text)]) ∧
    ∀ id ∈ c.workflow.recipients, ⟨id⟩ ∈ c.roster ∧ Element.parse? id = some (.recipient ⟨id⟩) := by
  have hc : c.Valid := fault?_eq_none_iff.1 h
  refine ⟨?_, ?_, ?_⟩
  · intro scenario hscenario
    have hknown : ∀ step ∈ scenario.steps, Element.parse? step.element ≠ none :=
      fun step hstep => hc.parse?_ne_none hscenario hstep
    refine ⟨?_, ?_⟩
    · intro step hstep page id happly
      rcases step.holds_or_fails page with hholds | ⟨fault, hfails⟩
      · rw [hholds.apply_eq] at happly
        cases happly
      · rw [hfails.apply_eq] at happly
        exact hfails.ne_unknownElement (hknown step hstep) id (Except.error.inj happly)
    · intro f hf id
      obtain ⟨held, step, rest, fault, hsteps, -, hfails, rfl⟩ := Scenario.exists_of_failure hf
      have hstep : step ∈ scenario.steps := by
        rw [hsteps]
        exact List.mem_append_right held List.mem_cons_self
      exact StepFault.text_ne_unknownText (hfails.ne_unknownElement (hknown step hstep)) id
  · intro r hr field text f hfield hform hfilled
    obtain ⟨hfollows, hphase, hreceipt⟩ :=
      Surface.follows_submissionSteps hfield hform hfilled (hc.isReceiver hr) hr
    refine ⟨_, _, hfollows.replay_eq 0, hphase, hreceipt, rfl, ?_⟩
    rw [KeyMap.entries_rekey FieldId.text (fun _ _ h => h)]
    rfl
  · intro id hid
    exact ⟨List.mem_map_of_mem hid, Element.parse?_of_isReceiver (hc.workflow.recipients id hid)⟩

/-- A configuration with two recipients, neither of whom the built-in scenario knows. -/
def twoReceivers : Config :=
  { standard with
    workflow := ⟨["receiver-7", "receiver-12"],
      [⟨"nobody to choose yet", [⟨"receiver-12", .expectVisible false⟩]⟩]⟩ }

theorem twoReceivers_replayable :
    twoReceivers.fault? = none ∧
    (∃ f, (Scenario.builtin.run twoReceivers.roster).failure = some f ∧
      ∀ id, f.reason ≠ Element.unknownText id) ∧
    ∃ page receipt, replay (.new (.new twoReceivers.roster)) 0
        (submissionSteps "step-0-field-2-1-input-0" " text " "receiver-12") = (page, none) ∧
      page.gate.phase = .submitted ∧ page.receipt = some receipt ∧ receipt.recipient = ⟨"receiver-12"⟩ ∧
      receipt.fields.entries = [("step-0-field-2-1-input-0", " text ")] := by
  have hfault : twoReceivers.fault? = none := by decide +kernel
  obtain ⟨hknown, hsubmits, -⟩ := twoReceivers.workflow_replayable hfault
  refine ⟨hfault, ?_, ?_⟩
  · have hfails : (Scenario.builtin.run twoReceivers.roster).failure.isSome = true := by decide +kernel
    obtain ⟨f, hf⟩ := Option.isSome_iff_exists.1 hfails
    exact ⟨f, hf, (hknown Scenario.builtin List.mem_cons_self).2 f hf⟩
  · exact hsubmits ⟨"receiver-12"⟩ (by decide) _ " text " ⟨0, 2, 1, 0⟩ (by decide) rfl (by decide)

end Config

end Conformance
