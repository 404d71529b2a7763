import Conformance.Matrix.Resource
/-!
# The compliance matrix

A policy says which paths are malformed and what DELETE does. It turns a resource and a verb into an
expectation, and a catalog into the plan of all checks: four for every resource, in catalog order.
-/

namespace Conformance

/-! ## Policies -/

/-- A path is exercised as declared, or answered as malformed. -/
inductive PathClass where
  | valid
  | malformed
deriving DecidableEq, Repr

def PathClass.label : PathClass → String
  | .valid => "valid"
  | .malformed => "malformed"

/-- What DELETE owes on a valid path: what GET owes, or a refusal. -/
inductive DeleteRule where
  | likeGet
  | refused
deriving DecidableEq, Repr, Inhabited

namespace DeleteRule

def all : List DeleteRule := [.likeGet, .refused]

def label : DeleteRule → String
  | .likeGet => "mirror_get"
  | .refused => "method_not_allowed"

def ofLabel? (s : String) : Option DeleteRule := all.find? fun r => r.label == s

end DeleteRule

/-- The routing rules of a target. -/
structure Policy where
  /-- characters that make a path malformed -/
  rejected : List Char
  delete : DeleteRule
deriving DecidableEq, Repr

namespace Policy

/-- The characters rejected when none are configured. -/
def defaultRejected : String := "@"

/-- The policy that rejects the characters of a text. -/
def ofText (rejected : String) (delete : DeleteRule) : Policy := ⟨Text.ascending rejected.toList, delete⟩

/-- The policy used when none is configured. -/
def standard : Policy := ofText defaultRejected .likeGet

instance : Inhabited Policy := ⟨standard⟩

/-- A character no valid path holds. -/
def refuses (p : Policy) (c : Char) : Bool :=
  Text.isAsciiControl c || Text.isBlank c || p.rejected.contains c

/-- A path is valid if it starts with a slash and holds no refused character. -/
def classify (p : Policy) (path : String) : PathClass :=
  match path.toList with
  | '/' :: _ => if path.toList.any p.refuses then .malformed else .valid
  | _ => .malformed

/-- What a resource owes when exercised with a verb. -/
def evaluate (p : Policy) (r : Resource) (v : Verb) : Expectation :=
  match p.classify r.path with
  | .malformed => ⟨404, .exact Resource.errorPage⟩
  | .valid =>
    match v, p.delete with
    | .get, _ | .delete, .likeGet => ⟨r.status, .exact r.contentType⟩
    | .post, _ | .put, _ | .delete, .refused => ⟨405, .unconstrained⟩

end Policy

/-! ## Plans -/

/-- One check of a plan. -/
structure PlannedCheck where
  resource : Resource
  verb : Verb
  expected : Expectation
deriving DecidableEq, Repr

/-- The checks of one resource. -/
def Policy.checks (p : Policy) (r : Resource) : List PlannedCheck :=
  Verb.all.map fun v => ⟨r, v, p.evaluate r v⟩

/-- The checks of a catalog. -/
def Policy.plan (p : Policy) (catalog : List Resource) : List PlannedCheck := catalog.flatMap p.checks

theorem Policy.plan_append (p : Policy) (a b : List Resource) :
    p.plan (a ++ b) = p.plan a ++ p.plan b := by
  simp [plan]

theorem Policy.length_plan (p : Policy) (catalog : List Resource) :
    (p.plan catalog).length = 4 * catalog.length := by
  induction catalog with
  | nil => rfl
  | cons r rs ih =>
    rw [show p.plan (r :: rs) = p.checks r ++ p.plan rs from rfl, List.length_append, ih]
    simp [checks, Verb.all]
    omega

end Conformance
