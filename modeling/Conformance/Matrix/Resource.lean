import Conformance.Exchange.Response
/-!
# Resources and what is expected of them

A resource is a path with the content type and status it declares for success. Exercised with a verb it
owes an `Expectation`: a status, and a content type that is either pinned or left open.
-/

namespace Conformance

/-! ## Verbs -/

/-- The verbs every resource is exercised with. -/
inductive Verb where
  | get
  | post
  | put
  | delete
deriving DecidableEq, Repr

namespace Verb

/-- The verbs in the order they are planned. -/
def all : List Verb := [.get, .post, .put, .delete]

/-- The request method. -/
def label : Verb → String
  | .get => "GET"
  | .post => "POST"
  | .put => "PUT"
  | .delete => "DELETE"

/-- The verb of a request method, in upper case. -/
def ofLabel? (s : String) : Option Verb := all.find? fun v => v.label == s

theorem ofLabel?_label (v : Verb) : ofLabel? v.label = some v := by cases v <;> rfl

end Verb

/-! ## Resources -/

/-- A path and what it declares for success. -/
structure Resource where
  path : String
  contentType : String
  status : UInt16
deriving DecidableEq, Repr

namespace Resource

/-- The content type of every error page. -/
def errorPage : String := "text/html; charset=UTF-8"

/-- The resources checked when none are configured. -/
def defaultCatalog : List Resource := [
  ⟨"/", "text/html", 200⟩,
  ⟨"/index.html", "text/html", 200⟩,
  ⟨"/public", "application/json", 200⟩,
  ⟨"/unexistent", errorPage, 404⟩,
  ⟨"/@invalid@", errorPage, 404⟩]

/-- Declares a JSON body. -/
def declaresJson (r : Resource) : Bool := isJsonMedia r.contentType

end Resource

/-! ## Expectations -/

/-- What is asked of a content type. -/
inductive ContentTypeRule where
  | exact (value : String)
  | unconstrained
deriving DecidableEq, Repr

/-- The content type a rule pins down, if it does. -/
def ContentTypeRule.exact? : ContentTypeRule → Option String
  | .exact value => some value
  | .unconstrained => none

/-- What a response owes. -/
structure Expectation where
  status : UInt16
  contentType : ContentTypeRule
deriving DecidableEq, Repr

/-- Pins a JSON content type. -/
def Expectation.expectsJson (e : Expectation) : Bool := e.contentType.exact?.any isJsonMedia

end Conformance
