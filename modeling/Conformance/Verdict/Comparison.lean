import Conformance.Verdict.Basic
/-!
# Comparing a response with its expectation

The envelope of a response (status, content type, contract headers) is compared in that order and every
mismatch is kept. A body is handed to the validator only when JSON is expected; its judgement adds one
note, or one violation behind those of the envelope.
-/

namespace Conformance

/-! ## Envelope -/

/-- The mismatch of the status. -/
def statusViolation? (expected actual : UInt16) : Option Violation :=
  if actual = expected then none else some (.status expected actual)

/-- The mismatch of the content type; an open rule has none. -/
def contentTypeViolation? (rule : ContentTypeRule) (actual : Option String) : Option Violation :=
  match rule with
  | .unconstrained => none
  | .exact expected => if actual = some expected then none else some (.contentType expected actual)

/-- The mismatch of one header of the contract. -/
def headerViolation? (headers : HeaderList) (h : SecurityHeader) : Option Violation :=
  match headers.get? h.name with
  | none => some (.missingHeader h.name h.value)
  | some actual => if actual = h.value then none else some (.headerValue h.name h.value actual)

/-- Every mismatch of the envelope: status, content type, headers in contract order. -/
def Response.violations (r : Response) (e : Expectation) : List Violation :=
  (statusViolation? e.status r.status).toList ++
    (contentTypeViolation? e.contentType r.contentType).toList ++
    SecurityHeader.contract.filterMap (headerViolation? r.headers)

/-- The first mismatch of the envelope. -/
def Response.firstViolation? (r : Response) (e : Expectation) : Option Violation :=
  (r.violations e).head?

/-! ## Body -/

/-- What a validator says about a body. -/
inductive Judgement where
  | notPerformed
  | valid (schema : String)
  | invalid (schema detail : String)
deriving DecidableEq, Repr

/-- Judges the body of a resource. -/
abbrev Validator := Resource → ByteArray → Judgement

/-- Validates nothing. -/
def Validator.idle : Validator := fun _ _ => .notPerformed

/-- Everything found about one response. -/
structure Finding where
  violations : List Violation
  notes : List Note
deriving DecidableEq, Repr

/-- Adds what the validator said. -/
def Finding.judged (f : Finding) (contentType : String) : Judgement → Finding
  | .notPerformed => { f with notes := f.notes ++ [.notValidated contentType] }
  | .valid schema => { f with notes := f.notes ++ [.validated schema] }
  | .invalid schema detail => { f with violations := f.violations ++ [.bodySchema schema detail] }

/-- Everything found about a response to a planned check. -/
def PlannedCheck.examine (check : PlannedCheck) (r : Response) (validator : Validator) : Finding :=
  let envelope : Finding := ⟨r.violations check.expected, []⟩
  if check.expected.expectsJson then
    envelope.judged check.resource.contentType (validator check.resource r.body)
  else envelope

/-- The notes of a finding without violations, else its first violation. -/
def Finding.result (f : Finding) : Except Violation (List Note) :=
  match f.violations with
  | [] => .ok f.notes
  | v :: _ => .error v

/-- The verdict on a response to a planned check. -/
def PlannedCheck.verdict (check : PlannedCheck) (r : Response) (validator : Validator) : Verdict :=
  let finding := check.examine r validator
  ⟨check.resource, check.verb, check.expected, some r.status, .ofViolations finding.violations,
    finding.notes⟩

theorem Outcome.ofViolations_eq_pass_iff {vs : List Violation} :
    Outcome.ofViolations vs = .pass ↔ vs = [] := by
  cases vs <;> simp [Outcome.ofViolations]

end Conformance
