import Conformance.Proofs.Matrix.Plan
import Conformance.Proofs.Report.Filling
import Conformance.Proofs.Run.PlanOrder
import Conformance.Proofs.Verdict.Envelope
/-!
# What becomes of a body

A body is put before the validator exactly when the policy owes JSON for it. The answer leaves one trace on
the verdict: a note that it was not checked, a note that it was, or a violation behind those of the envelope.
Where JSON is not owed there is no trace. So the bodies that went unchecked can be counted on the verdicts,
and each of them is shown as unchecked.
-/

namespace Conformance

/-! ## Where JSON is owed -/

/-- A success of the verb on the resource is declared to have a JSON body. -/
def Policy.OwesJson (p : Policy) (r : Resource) (v : Verb) : Prop :=
  p.classify r.path = .valid ∧ (v = .get ∨ v = .delete ∧ p.delete = .likeGet) ∧ r.declaresJson = true

section Policy
variable {p : Policy} {r : Resource} {v : Verb}

/-- The content type that is asserted where JSON is owed is the declared one. -/
theorem Policy.OwesJson.contentType_eq (h : p.OwesJson r v) :
    (p.evaluate r v).contentType = .exact r.contentType := by
  obtain ⟨hpath, rfl | ⟨rfl, hdelete⟩, -⟩ := h
  · simp only [evaluate, hpath]
  · simp only [evaluate, hpath, hdelete]

theorem Policy.expectsJson_evaluate : (p.evaluate r v).expectsJson = true ↔ p.OwesJson r v := by
  constructor
  · intro h
    unfold evaluate at h
    split at h
    · -- the error page is no JSON
      exact absurd h (by decide)
    · rename_i hpath
      split at h
      -- the expectation pins what the resource declares, so the two tests are one
      · exact ⟨hpath, .inl rfl, h⟩
      · rename_i hdelete
        exact ⟨hpath, .inr ⟨rfl, hdelete⟩, h⟩
      all_goals cases h
  · intro h
    rw [Expectation.expectsJson, h.contentType_eq]
    exact h.2.2

end Policy

/-! ## One verdict -/

section Verdict
variable (check : PlannedCheck) (r : Response) (validator : Validator)

/-- The envelope has no violation of a body. -/
theorem Response.bodySchema_notMem_violations (e : Expectation) (schema detail : String) :
    .bodySchema schema detail ∉ r.violations e := by
  rw [mem_violations_iff]
  rintro ⟨⟩

/-- Where JSON is expected, the finding is that of the envelope with the answer of the validator. -/
theorem PlannedCheck.examine_of_expectsJson (h : check.expected.expectsJson = true) :
    check.examine r validator = Finding.judged ⟨r.violations check.expected, []⟩ check.resource.contentType
      (validator check.resource r.body) :=
  if_pos h

/-- Where JSON is not expected, the validator has no say. -/
theorem PlannedCheck.examine_of_not_expectsJson (h : check.expected.expectsJson ≠ true) :
    check.examine r validator = ⟨r.violations check.expected, []⟩ :=
  if_neg h

theorem Outcome.ofViolations_concat (vs : List Violation) (v : Violation) :
    ofViolations (vs ++ [v]) = .fail (vs ++ [v]) :=
  ofViolations_eq_fail_iff.2 ⟨List.append_ne_nil_of_right_ne_nil vs (List.cons_ne_nil v []), rfl⟩

end Verdict

/-! ## Many verdicts -/

/-- A check with the validator it was given and the end of its exchange. -/
structure Trial where
  check : PlannedCheck
  validator : Validator
  exchange : Exchange

namespace Trial
variable {t : Trial}

/-- The verdict on the check. -/
def verdict (t : Trial) : Verdict := t.check.settle t.validator t.exchange

/-- The answer of the validator, where it was asked: a response came back and JSON is expected. -/
def judgement? (t : Trial) : Option Judgement :=
  match t.exchange with
  | .answered r =>
    if t.check.expected.expectsJson then some (t.validator t.check.resource r.body) else none
  | .failed _ | .died => none

/-- The notes of a verdict are what the validator answered. -/
theorem notes_verdict (t : Trial) : t.verdict.notes = match t.judgement? with
    | some .notPerformed => [.notValidated t.check.resource.contentType]
    | some (.valid schema) => [.validated schema]
    | some (.invalid _ _) | none => [] := by
  obtain ⟨check, validator, x⟩ := t
  cases x with
  | answered r =>
    by_cases h : check.expected.expectsJson = true
    · simp only [verdict, judgement?, PlannedCheck.settle, PlannedCheck.verdict,
        check.examine_of_expectsJson r validator h, if_pos h]
      cases validator check.resource r.body <;> rfl
    · simp only [verdict, judgement?, PlannedCheck.settle, PlannedCheck.verdict,
        check.examine_of_not_expectsJson r validator h, if_neg h]
  | failed failure => rfl
  | died => rfl

theorem isNotValidated_verdict (t : Trial) :
    t.verdict.isNotValidated = decide (t.judgement? = some .notPerformed) := by
  rw [Verdict.isNotValidated, notes_verdict]
  cases t.judgement? with
  | none => rfl
  | some judgement => cases judgement <;> rfl

theorem validated_mem_notes_iff {schema : String} :
    .validated schema ∈ t.verdict.notes ↔ t.judgement? = some (.valid schema) := by
  rw [notes_verdict]
  cases t.judgement? with
  | none => simp
  | some judgement => cases judgement <;> simp [eq_comm]

end Trial

/-- Every body of a plan is accounted for. Where the policy owes JSON, which is where JSON is expected, the
verdict has one trace of the validator's answer: a note that the body was not checked, with the content type
that was asserted, or a note that it was, or one violation behind those of the envelope. Anywhere else it has
none, whatever the validator answers. So over any verdicts, with and without a response, the summary counts
the bodies that went unchecked, and such a body is shown as unchecked and never as checked. -/
theorem bodies_accounted_for (p : Policy) (catalog : List Resource) (r : Response) (validator : Validator)
    (trials : List Trial) (scenarios : List ScenarioVerdict) :
    (∀ check ∈ p.plan catalog,
      let envelope := r.violations check.expected
      let v := check.verdict r validator
      (∀ schema detail, .bodySchema schema detail ∉ envelope) ∧
      (check.expected.expectsJson = true ↔ p.OwesJson check.resource check.verb) ∧
      (p.OwesJson check.resource check.verb →
        check.expected.contentType = .exact check.resource.contentType ∧
        match validator check.resource r.body with
        | .notPerformed =>
          v.notes = [.notValidated check.resource.contentType] ∧ v.outcome = .ofViolations envelope
        | .valid schema => v.notes = [.validated schema] ∧ v.outcome = .ofViolations envelope
        | .invalid schema detail =>
          v.notes = [] ∧ v.outcome = .fail (envelope ++ [.bodySchema schema detail])) ∧
      (¬ p.OwesJson check.resource check.verb → v.notes = [] ∧ v.outcome = .ofViolations envelope)) ∧
    (Summary.ofResults (trials.map Trial.verdict) scenarios).notValidated =
      trials.countP (fun t => t.judgement? = some .notPerformed) ∧
    ∀ t : Trial, (∀ schema, .validated schema ∈ t.verdict.notes ↔ t.judgement? = some (.valid schema)) ∧
      (t.judgement? = some .notPerformed → t.verdict.notes.map Note.line =
        ["  note: schema validation not performed (" ++ t.check.resource.contentType ++ ")"]) := by
  refine ⟨fun check hcheck => ?_, ?_, fun t => ⟨fun schema => Trial.validated_mem_notes_iff, fun ht => ?_⟩⟩
  · intro envelope v
    have hexpected := (Policy.mem_plan_iff.1 hcheck).2
    have hjson : check.expected.expectsJson = true ↔ p.OwesJson check.resource check.verb := by
      rw [hexpected]
      exact Policy.expectsJson_evaluate
    refine ⟨r.bodySchema_notMem_violations _, hjson, fun howes => ⟨?_, ?_⟩, fun hnot => ?_⟩
    · rw [hexpected]
      exact howes.contentType_eq
    · have hfinding := check.examine_of_expectsJson r validator (hjson.2 howes)
      have hnotes : v.notes = _ := congrArg Finding.notes hfinding
      have houtcome : v.outcome = _ := congrArg Outcome.ofViolations (congrArg Finding.violations hfinding)
      rw [hnotes, houtcome]
      cases validator check.resource r.body with
      | notPerformed => exact ⟨rfl, rfl⟩
      | valid schema => exact ⟨rfl, rfl⟩
      | invalid schema detail => exact ⟨rfl, Outcome.ofViolations_concat _ _⟩
    · have hfinding := check.examine_of_not_expectsJson r validator (mt hjson.1 hnot)
      exact ⟨congrArg Finding.notes hfinding,
        congrArg Outcome.ofViolations (congrArg Finding.violations hfinding)⟩
  · show (trials.map Trial.verdict).countP Verdict.isNotValidated = _
    rw [List.countP_map]
    congr 1
    funext t
    exact t.isNotValidated_verdict
  · rw [Trial.notes_verdict, ht]
    simp only [List.map_cons, List.map_nil, Note.line_eq]
    rfl

end Conformance
