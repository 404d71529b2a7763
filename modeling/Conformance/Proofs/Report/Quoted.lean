import Conformance.Proofs.Report.Lines
import Conformance.Proofs.Verdict.Body
import Conformance.Proofs.Wizard.Element
/-!
# What a report quotes

A violation quotes the texts it compares, and a verdict what the validator answered, all of them as they stand.
So the lines of a verdict are unbroken as long as the path, the content type that is asked for, the values of the
headers and the answer of the validator are; and for a broken content type or answer there is a response that
brings it into the report. A scenario quotes its name and, of the step that failed, ids of elements only.
-/

namespace Conformance

open Text

/-! ## Texts that are quoted -/

/-- The texts a violation quotes. -/
def Violation.quoted : Violation → List String
  | .status _ _ => []
  | .contentType expected actual => expected :: actual.toList
  | .missingHeader name expected => [name, expected]
  | .headerValue name expected actual => [name, expected, actual]
  | .bodySchema schema detail => [schema, detail]

@[simp] theorem Violation.breaks_quote {s : String} : Breaks (quote s) ↔ Breaks s := by simp [Breaks, quote]

theorem Violation.breaks_text_iff {v : Violation} : Breaks v.text ↔ ∃ s ∈ v.quoted, Breaks s := by
  unfold text quoted
  cases v with
  | contentType expected actual => cases actual <;> simp +decide
  | _ => simp +decide [or_assoc]

/-- The texts an answer of a validator quotes. -/
def Judgement.quoted : Judgement → List String
  | .notPerformed => []
  | .valid schema => [schema]
  | .invalid schema detail => [schema, detail]

/-- Answers that go by a label are unbroken for every body exactly if the label and every detail are. -/
theorem Judgement.forall_quoted_iff {answer : ByteArray → Judgement} {label : String}
    (h : ∀ body, answer body = .valid label ∨ ∃ detail, answer body = .invalid label detail) :
    (∀ body, ∀ s ∈ (answer body).quoted, ¬ Breaks s) ↔
      ¬ Breaks label ∧ ∀ body detail, answer body = .invalid label detail → ¬ Breaks detail := by
  constructor
  · intro hquoted
    refine ⟨?_, fun body detail hinvalid => ?_⟩
    · rcases h .empty with hvalid | ⟨detail, hinvalid⟩
      · exact hquoted .empty label (by rw [hvalid]; exact List.mem_cons_self)
      · exact hquoted .empty label (by rw [hinvalid]; exact List.mem_cons_self)
    · exact hquoted body detail (by rw [hinvalid]; exact List.mem_cons_of_mem label List.mem_cons_self)
  · rintro ⟨hlabel, hdetail⟩ body s hs
    rcases h body with hvalid | ⟨detail, hinvalid⟩
    · rw [hvalid] at hs
      obtain rfl := List.mem_singleton.1 hs
      exact hlabel
    · rw [hinvalid] at hs
      rcases List.mem_cons.1 hs with rfl | hs
      · exact hlabel
      · obtain rfl := List.mem_singleton.1 hs
        exact hdetail body s hinvalid

/-- A response whose content type is that of its headers, and no header of which has a broken value. -/
structure Response.Plain (r : Response) : Prop where
  contentType : r.contentType = r.headers.get? "content-type"
  values : ∀ x ∈ r.headers.entries, ¬ Breaks x.2

section Response
variable {r : Response} {e : Expectation} {v : Violation} {t : String}

theorem Response.plain_without_headers (status : UInt16) (body : ByteArray) :
    (ofParts status ⟨[]⟩ body).Plain :=
  ⟨rfl, nofun⟩

theorem Response.Plain.not_breaks_folded (hr : r.Plain) (name : String) :
    ¬ Breaks (", ".intercalate (r.headers.values name)) := by
  rw [← join_eq_intercalate]
  refine not_breaks_join (by decide) fun value hvalue => ?_
  obtain ⟨x, hx, rfl⟩ := List.mem_map.1 hvalue
  exact hr.values x (List.mem_of_mem_filter hx)

theorem SecurityHeader.not_breaks {h : SecurityHeader} (hmem : h ∈ contract) :
    ¬ Breaks h.name ∧ ¬ Breaks h.value := by
  revert h
  decide

/-- A mismatch of the envelope is told on one line, unless the content type that is asked for is broken. -/
theorem Misses.not_breaks_text (h : Misses r e v) (hr : r.Plain)
    (ht : ∀ t, e.contentType = .exact t → ¬ Breaks t) : ¬ Breaks v.text := by
  rw [Violation.breaks_text_iff]
  cases h with
  | status => simp [Violation.quoted]
  | contentType exact _ =>
    cases hactual : r.contentType with
    | none => simpa [Violation.quoted] using ht _ exact
    | some actual =>
      rw [hr.contentType] at hactual
      obtain ⟨-, rfl⟩ := HeaderList.get?_eq_some_iff.1 hactual
      simpa [Violation.quoted, hr.not_breaks_folded] using ht _ exact
  | missingHeader mem => simpa [Violation.quoted] using SecurityHeader.not_breaks mem
  | headerValue mem =>
    simpa [Violation.quoted, hr.not_breaks_folded] using SecurityHeader.not_breaks mem

/-! ## Verdicts on responses -/

theorem Outcome.detail?_ofViolations (vs : List Violation) :
    (ofViolations vs).detail? = vs.head?.map Violation.text := by
  cases vs <;> rfl

namespace PlannedCheck
variable {check : PlannedCheck} {validator : Validator}

/-- A violation is told on one line, unless the content type that is asked for is broken or the answer of the
validator is. -/
theorem not_breaks_text_of_mem (hr : r.Plain) (ht : ∀ t, check.expected.contentType = .exact t → ¬ Breaks t)
    (hquoted : check.expected.expectsJson = true → ∀ s ∈ (validator check.resource r.body).quoted, ¬ Breaks s)
    (hv : v ∈ (check.examine r validator).violations) : ¬ Breaks v.text := by
  rw [check.violations_examine, List.mem_append, Option.mem_toList] at hv
  rcases hv with hv | hv
  · exact (mem_violations_iff.1 hv).not_breaks_text hr ht
  · unfold bodyViolation? at hv
    split at hv
    · rename_i hexpects
      split at hv
      · rename_i schema detail hjudgement
        cases hv
        rw [Violation.breaks_text_iff]
        simpa [Violation.quoted, hjudgement, Judgement.quoted] using hquoted hexpects
      all_goals cases hv
    · cases hv

/-- A note is told on one line, unless the declared content type is broken or the answer of the validator is. -/
theorem not_breaks_detail_of_mem {n : Note}
    (hjson : check.expected.expectsJson = true → ¬ Breaks check.resource.contentType ∧
      ∀ s ∈ (validator check.resource r.body).quoted, ¬ Breaks s)
    (hn : n ∈ (check.examine r validator).notes) : ¬ Breaks n.detail := by
  by_cases hexpects : check.expected.expectsJson = true
  · obtain ⟨htype, hquoted⟩ := hjson hexpects
    rw [check.examine_of_expectsJson r validator hexpects] at hn
    cases hjudgement : validator check.resource r.body with
    | notPerformed =>
      rw [hjudgement] at hn
      obtain rfl := List.mem_singleton.1 hn
      exact htype
    | valid schema =>
      rw [hjudgement] at hn hquoted
      obtain rfl := List.mem_singleton.1 hn
      exact hquoted schema List.mem_cons_self
    | invalid schema detail =>
      rw [hjudgement] at hn
      cases hn
  · rw [check.examine_of_not_expectsJson r validator hexpects] at hn
    cases hn

/-- The lines of a verdict are not broken if nothing they quote is. -/
theorem not_isBroken_verdict (hpath : ¬ Breaks check.resource.path) (hr : r.Plain)
    (ht : ∀ t, check.expected.contentType = .exact t → ¬ Breaks t)
    (hjson : check.expected.expectsJson = true → ¬ Breaks check.resource.contentType ∧
      ∀ s ∈ (validator check.resource r.body).quoted, ¬ Breaks s) :
    ¬ (check.verdict r validator).IsBroken := by
  rintro (hline | ⟨n, hn, hline⟩)
  · obtain hpath' | ⟨detail, hdetail, hbreaks⟩ := Verdict.breaks_line_iff.1 hline
    · exact hpath hpath'
    · have hhead : (check.examine r validator).violations.head?.map Violation.text = some detail := by
        rw [← Outcome.detail?_ofViolations]
        exact hdetail
      obtain ⟨v, hv, rfl⟩ := Option.map_eq_some_iff.1 hhead
      exact not_breaks_text_of_mem hr ht (fun h => (hjson h).2) (List.mem_of_mem_head? hv) hbreaks
  · exact not_breaks_detail_of_mem hjson hn (Note.breaks_line_iff.1 hline)

/-- The first violation of a finding is told on the line of the verdict. -/
theorem isBroken_of_head? (hv : (check.examine r validator).violations.head? = some v) (hbreaks : Breaks v.text) :
    (check.verdict r validator).IsBroken := by
  refine .inl (Verdict.breaks_line_iff.2 (.inr ⟨v.text, ?_, hbreaks⟩))
  show (Outcome.ofViolations (check.examine r validator).violations).detail? = _
  rw [Outcome.detail?_ofViolations, hv]
  rfl

/-- A broken content type is told where it is missing. -/
theorem isBroken_of_contentType (hexpected : check.expected.contentType = .exact t) (ht : Breaks t)
    (validator : Validator) : (check.verdict (.ofParts check.expected.status ⟨[]⟩ .empty) validator).IsBroken := by
  have hviolations : (Response.ofParts check.expected.status ⟨[]⟩ .empty).violations check.expected =
      .contentType t none :: SecurityHeader.contract.filterMap (headerViolation? ⟨[]⟩) := by
    simp [Response.violations, Response.ofParts, statusViolation?, hexpected, contentTypeViolation?,
      HeaderList.get?, HeaderList.values]
  refine isBroken_of_head? (v := .contentType t none) ?_ ?_
  · rw [check.violations_examine, hviolations]
    rfl
  · rw [Violation.breaks_text_iff]
    exact ⟨t, List.mem_cons_self, ht⟩

end PlannedCheck

end Response

/-! ## The response that is asked for -/

/-- A response with a content type and the headers of the contract. -/
def Response.meeting (status : UInt16) (contentType : String) (body : ByteArray) : Response :=
  .ofParts status ⟨("content-type", contentType) :: SecurityHeader.contract.map fun h => (h.name, h.value)⟩ body

namespace Response
variable {status : UInt16} {t : String} {body : ByteArray}

theorem values_meeting {h : SecurityHeader} (hmem : h ∈ SecurityHeader.contract) :
    (meeting status t body).headers.values h.name = [h.value] := by
  have hother : sameName "content-type" h.name = false := by
    revert h
    decide
  have hself : SecurityHeader.contract.filter (fun x => sameName x.name h.name) = [h] := by
    revert h
    decide
  simp [meeting, ofParts, HeaderList.values, hother, List.filter_map, Function.comp_def, hself]

theorem contentType_meeting : (meeting status t body).contentType = some t := by
  have hself : sameName "content-type" "content-type" = true := by decide
  have hother : SecurityHeader.contract.filter (fun x => sameName x.name "content-type") = [] := by decide
  simp [meeting, ofParts, HeaderList.get?, HeaderList.values, hself, List.filter_map, Function.comp_def, hother,
    join]

/-- It meets an expectation of its status and content type. -/
theorem violations_meeting : (meeting status t body).violations ⟨status, .exact t⟩ = [] := by
  rw [List.eq_nil_iff_forall_not_mem]
  intro v hv
  cases mem_violations_iff.1 hv with
  | status differs => exact differs rfl
  | contentType exact differs =>
    cases exact
    exact differs contentType_meeting
  | missingHeader mem absent =>
    rw [← HeaderList.values_eq_nil_iff, values_meeting mem] at absent
    cases absent
  | headerValue mem _ differs =>
    rw [values_meeting mem] at differs
    exact differs rfl

theorem plain_meeting (ht : ¬ Breaks t) : (meeting status t body).Plain where
  contentType := rfl
  values x hx := by
    rcases List.mem_cons.1 hx with rfl | hx
    · exact ht
    · obtain ⟨h, hmem, rfl⟩ := List.mem_map.1 hx
      exact (SecurityHeader.not_breaks hmem).2

end Response

/-- Where nothing else is wrong, the verdict tells what the validator answered. -/
theorem PlannedCheck.isBroken_of_quoted {check : PlannedCheck} {validator : Validator} {t s : String}
    {body : ByteArray} (hexpected : check.expected.contentType = .exact t)
    (hjson : check.expected.expectsJson = true) (hs : s ∈ (validator check.resource body).quoted)
    (hbreaks : Breaks s) : (check.verdict (.meeting check.expected.status t body) validator).IsBroken := by
  have hviolations : (Response.meeting check.expected.status t body).violations check.expected = [] := by
    rw [← Response.violations_meeting, ← hexpected]
  have hexamine : check.examine (.meeting check.expected.status t body) validator =
      Finding.judged ⟨[], []⟩ check.resource.contentType (validator check.resource body) := by
    rw [check.examine_of_expectsJson _ validator hjson, hviolations]
    rfl
  cases hjudgement : validator check.resource body with
  | notPerformed =>
    rw [hjudgement] at hs
    cases hs
  | valid schema =>
    rw [hjudgement] at hs hexamine
    obtain rfl := List.mem_singleton.1 hs
    refine .inr ⟨.validated s, ?_, Note.breaks_line_iff.2 hbreaks⟩
    show _ ∈ (check.examine _ validator).notes
    rw [hexamine]
    exact List.mem_cons_self
  | invalid schema detail =>
    rw [hjudgement] at hs hexamine
    refine isBroken_of_head? (v := .bodySchema schema detail) ?_ (Violation.breaks_text_iff.2 ⟨s, hs, hbreaks⟩)
    rw [hexamine]
    rfl

/-! ## Scenarios -/

@[simp] theorem WizardStep.not_breaks_label (s : WizardStep) : ¬ Breaks s.label := by cases s <;> decide

@[simp] theorem Operation.not_breaks_label (o : Operation) : ¬ Breaks o.label := by
  cases o <;> simp only [label] <;> decide

@[simp] theorem Action.not_breaks_label (a : Action) : ¬ Breaks a.label := by
  cases a <;> simp only [label] <;> decide

@[simp] theorem FieldId.not_breaks_text (f : FieldId) : ¬ Breaks f.text := by simp +decide [text]

theorem Element.Names.not_breaks {s : String} {e : Element} (h : Names s e) : ¬ Breaks s := by
  cases h with
  | fixed mem =>
    revert e
    decide
  | recipient form =>
    obtain ⟨digits, -, hdigits, rfl⟩ := form
    have hnot : ¬ Breaks (String.ofList digits) := by
      rw [Breaks, String.toList_ofList]
      exact fun hmem => absurd (hdigits '\n' hmem) (by decide)
    simp +decide [hnot]
  | field f => exact f.not_breaks_text

/-- The only text from outside that a refusal quotes is the id of an unknown recipient. -/
theorem Refusal.breaks_text_iff {r : Refusal} :
    Breaks r.text ↔ ∃ recipient, r = .unknownRecipient recipient ∧ Breaks recipient.id := by
  unfold text
  cases r <;> simp +decide [missingChoice]

theorem Gate.eq_select_of_next {g : Gate} {c : Command} {recipient : Recipient}
    (h : g.next c = .error (.unknownRecipient recipient)) : c = .select recipient := by
  unfold next nextOpen at h
  split at h
  · cases h
  · cases c with
    | select r =>
      simp only at h
      repeat' split at h
      all_goals cases h
      rfl
    | _ =>
      simp only at h
      repeat' split at h
      all_goals cases h

/-- What is said of a step on an element that exists is one line. -/
theorem ScenarioStep.Fails.not_breaks_text {step : ScenarioStep} {s : Surface} {fault : StepFault}
    (h : step.Fails s fault) (hknown : Element.parse? step.element ≠ none) : ¬ Breaks fault.text := by
  cases h with
  | unknown unknown => exact absurd unknown hknown
  | refused known action meant refused =>
    rename_i e a c r
    show ¬ Breaks r.text
    rw [Refusal.breaks_text_iff]
    rintro ⟨recipient, rfl, hbreaks⟩
    obtain rfl := Gate.eq_select_of_next refused
    -- only a click on a recipient asks for one
    obtain rfl : e = .recipient recipient := by
      unfold Surface.meaning at meant
      split at meant <;> cases meant
      rfl
    have hnames := Element.parse?_eq_some_iff.1 known
    exact hnames.not_breaks (hnames.text_eq ▸ hbreaks)
  | unsupported known action meant =>
    rename_i e a
    have hnames := Element.parse?_eq_some_iff.1 known
    have htext : ¬ Breaks e.text := by
      rw [hnames.text_eq]
      exact hnames.not_breaks
    simp +decide [StepFault.text, SurfaceError.text, htext]
  | visible known deed seen =>
    rename_i expected
    cases expected <;> decide
  | enabled known deed seen =>
    rename_i expected
    cases expected <;> decide

/-- The line of a scenario on elements that exist is broken exactly if its name is. -/
theorem Scenario.breaks_line_iff {scenario : Scenario} {roster : List Recipient}
    (hknown : ∀ step ∈ scenario.steps, Element.parse? step.element ≠ none) :
    Breaks (scenario.run roster).line ↔ Breaks scenario.name := by
  rw [ScenarioVerdict.breaks_line_iff]
  refine or_iff_left ?_
  rintro ⟨f, hf, hbreaks⟩
  obtain ⟨held, step, rest, fault, hsteps, -, hfails, rfl⟩ := exists_of_failure hf
  have hstep : Element.parse? step.element ≠ none := by
    refine hknown step ?_
    rw [hsteps]
    exact List.mem_append_right held List.mem_cons_self
  obtain ⟨e, he⟩ := Option.ne_none_iff_exists'.1 hstep
  rcases hbreaks with hbreaks | hbreaks
  · exact (Element.parse?_eq_some_iff.1 he).not_breaks hbreaks
  · exact hfails.not_breaks_text hstep hbreaks

end Conformance
