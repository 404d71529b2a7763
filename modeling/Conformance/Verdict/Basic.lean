import Conformance.Matrix.Policy
import Conformance.Number.Decimal
/-!
# Verdicts

The answer to one planned check. A verdict passes, fails with the list of what was violated, or stays
inconclusive because no response came back; notes say what happened to the body.
-/

namespace Conformance

/-! ## Violations -/

/-- One way in which a response misses its expectation. -/
inductive Violation where
  | status (expected actual : UInt16)
  | contentType (expected : String) (actual : Option String)
  | missingHeader (name expected : String)
  | headerValue (name expected actual : String)
  | bodySchema (schema detail : String)
deriving DecidableEq, Repr

namespace Violation

/-- What was violated. -/
def subject : Violation → String
  | .status _ _ => "status"
  | .contentType _ _ => "content-type"
  | .missingHeader name _ | .headerValue name _ _ => name
  | .bodySchema _ _ => "body"

/-- A text in quotes, as it stands. -/
def quote (s : String) : String := "\"" ++ s ++ "\""

def text : Violation → String
  | .status expected actual =>
    "status: expected " ++ Decimal.text expected.toNat ++ ", got " ++ Decimal.text actual.toNat
  | .contentType expected actual =>
    "content-type: expected " ++ quote expected ++ ", got " ++ (actual.map quote).getD "nothing"
  | .missingHeader name expected =>
    "header " ++ name ++ ": expected " ++ quote expected ++ ", header missing"
  | .headerValue name expected actual =>
    "header " ++ name ++ ": expected " ++ quote expected ++ ", got " ++ quote actual
  | .bodySchema schema detail => "body schema " ++ schema ++ ": " ++ detail

end Violation

/-! ## Notes -/

/-- What happened to a body that was expected to be JSON. -/
inductive Note where
  | notValidated (contentType : String)
  | validated (schema : String)
deriving DecidableEq, Repr

namespace Note

def label : Note → String
  | .notValidated _ => "schema validation not performed"
  | .validated _ => "schema validated"

/-- What a note is about: the asserted content type, or the schema. -/
def detail : Note → String
  | .notValidated contentType => contentType
  | .validated schema => schema

end Note

/-! ## Verdicts -/

/-- The outcome of a check. -/
inductive Outcome where
  | pass
  | fail (violations : List Violation)
  | inconclusive (failure : TransportFailure)
deriving DecidableEq, Repr

namespace Outcome

def label : Outcome → String
  | .pass => "pass"
  | .fail _ => "fail"
  | .inconclusive _ => "inconclusive"

/-- Passes without a violation, else fails with all of them. -/
def ofViolations : List Violation → Outcome
  | [] => .pass
  | v :: vs => .fail (v :: vs)

/-- The first violation of a failure. -/
def first? : Outcome → Option Violation
  | .fail violations => violations.head?
  | _ => none

/-- What the outcome rests on: the first violation or the transport failure. -/
def detail? : Outcome → Option String
  | .pass => none
  | .fail violations => violations.head?.map Violation.text
  | .inconclusive failure => some failure.text

end Outcome

/-- The answer to a planned check. -/
structure Verdict where
  resource : Resource
  verb : Verb
  expected : Expectation
  observedStatus : Option UInt16
  outcome : Outcome
  notes : List Note
deriving DecidableEq, Repr

/-- The verdict on a check whose exchange brought no response back. -/
def Verdict.inconclusive (check : PlannedCheck) (failure : TransportFailure) : Verdict :=
  ⟨check.resource, check.verb, check.expected, none, .inconclusive failure, []⟩

end Conformance
