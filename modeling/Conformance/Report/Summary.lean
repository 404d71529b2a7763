import Conformance.Verdict.Basic
import Conformance.Wizard.Scenario
/-!
# Summaries

The counts over a list of verdicts and a list of scenario verdicts, and the status they add up to: a failure
anywhere fails the whole, else an inconclusive check leaves it inconclusive, else it passes.
-/

namespace Conformance

/-- The status of a run. -/
inductive Status where
  | pass
  | fail
  | inconclusive
deriving DecidableEq, Repr

namespace Status

/-- The exit code of a status. -/
def exitCode : Status → UInt8
  | .pass => 0
  | .fail => 1
  | .inconclusive => 2

def label : Status → String
  | .pass => "pass"
  | .fail => "fail"
  | .inconclusive => "inconclusive"

def all : List Status := [.pass, .fail, .inconclusive]

def ofLabel? (s : String) : Option Status := all.find? fun t => t.label == s

theorem ofLabel?_label (t : Status) : ofLabel? t.label = some t := by cases t <;> rfl

end Status

/-- The counts of a run. -/
structure Summary where
  checks : Nat
  passed : Nat
  failed : Nat
  inconclusive : Nat
  notValidated : Nat
  scenarios : Nat
  scenariosFailed : Nat
deriving DecidableEq, Repr

namespace Outcome

/-- Passed. -/
def isPass : Outcome → Bool
  | .pass => true
  | _ => false

/-- Failed. -/
def isFail : Outcome → Bool
  | .fail _ => true
  | _ => false

/-- Without a response. -/
def isInconclusive : Outcome → Bool
  | .inconclusive _ => true
  | _ => false

end Outcome

/-- A JSON body went unchecked. -/
def Verdict.isNotValidated (v : Verdict) : Bool :=
  v.notes.any fun n => match n with
    | .notValidated _ => true
    | .validated _ => false

namespace Summary

/-- The summary of nothing. -/
def zero : Summary := ⟨0, 0, 0, 0, 0, 0, 0⟩

/-- The summary of two runs taken together. -/
def add (a b : Summary) : Summary :=
  ⟨a.checks + b.checks, a.passed + b.passed, a.failed + b.failed, a.inconclusive + b.inconclusive,
    a.notValidated + b.notValidated, a.scenarios + b.scenarios, a.scenariosFailed + b.scenariosFailed⟩

instance : Add Summary := ⟨add⟩

/-- The counts over verdicts and scenario verdicts. -/
def ofResults (verdicts : List Verdict) (scenarios : List ScenarioVerdict) : Summary where
  checks := verdicts.length
  passed := verdicts.countP fun v => v.outcome.isPass
  failed := verdicts.countP fun v => v.outcome.isFail
  inconclusive := verdicts.countP fun v => v.outcome.isInconclusive
  notValidated := verdicts.countP Verdict.isNotValidated
  scenarios := scenarios.length
  scenariosFailed := scenarios.countP fun v => !v.passed

/-- The status the counts add up to. -/
def status (s : Summary) : Status :=
  if 0 < s.failed ∨ 0 < s.scenariosFailed then .fail
  else if 0 < s.inconclusive then .inconclusive
  else .pass

theorem ofResults_append (vs ws : List Verdict) (ss ts : List ScenarioVerdict) :
    ofResults (vs ++ ws) (ss ++ ts) = ofResults vs ss + ofResults ws ts := by
  show _ = add _ _
  simp [ofResults, add]

end Summary

end Conformance
