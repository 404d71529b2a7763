import Conformance.Text.Character
/-!
# Responses

What one exchange brought back: the status, the headers, the body, and the content type the headers
declare. An exchange that brought nothing back is a `TransportFailure`; one whose task ended without
either answer has died.

Names of headers are compared without regard to ASCII case; the values of one name that arrived several times are
folded into one, in arrival order. The security contract is what the headers of every response have to meet.
-/

namespace Conformance

/-! ## The contract -/

/-- A header that must be present with exactly this value. -/
structure SecurityHeader where
  name : String
  value : String
deriving DecidableEq, Repr

namespace SecurityHeader

/-- The headers of the security contract, in the order they are checked. -/
def contract : List SecurityHeader := [
  ⟨"X-XSS-Protection", "1; mode=block"⟩,
  ⟨"X-Content-Type-Options", "nosniff"⟩,
  ⟨"Expires", "-1"⟩,
  ⟨"Server", "globaleaks"⟩,
  ⟨"Pragma", "no-cache"⟩,
  ⟨"Cache-control", "no-cache, no-store, must-revalidate"⟩,
  ⟨"Referrer-Policy", "no-referrer"⟩,
  ⟨"X-Frame-Options", "sameorigin"⟩]

/-- The value the contract asks for under a name. -/
def required? (name : String) : Option String :=
  (contract.find? fun h => Text.sameName h.name name).map (·.value)

end SecurityHeader

/-! ## Observed headers -/

/-- Header entries in arrival order. -/
structure HeaderList where
  entries : List (String × String)
deriving DecidableEq, Repr, Inhabited

namespace HeaderList

/-- The values that arrived under a name, in arrival order. -/
def values (hs : HeaderList) (name : String) : List String :=
  (hs.entries.filter fun e => Text.sameName e.1 name).map (·.2)

/-- The folded value of a name: its values joined with a comma and a space, none if it never came. -/
def get? (hs : HeaderList) (name : String) : Option String :=
  match hs.values name with
  | [] => none
  | vs => some (Text.join ", " vs)

theorem get?_eq_none_iff {hs : HeaderList} {name : String} : hs.get? name = none ↔ hs.values name = [] := by
  unfold get?
  split <;> simp_all

end HeaderList

/-! ## Exchanges -/

/-- What a target answered. -/
structure Response where
  status : UInt16
  headers : HeaderList
  body : ByteArray
  /-- the declared content type; `Response.ofParts` takes it from the headers -/
  contentType : Option String

/-- The most bytes of a body that are taken from a target. -/
def Response.maxBody : Nat := 8 * 1024 * 1024

/-- A response whose content type is the folded `content-type` header. -/
def Response.ofParts (status : UInt16) (headers : HeaderList) (body : ByteArray) : Response :=
  ⟨status, headers, body, headers.get? "content-type"⟩

/-- Where an exchange failed. -/
inductive TransportFailure.Kind where
  | timeout
  | connect
  | protocol
  | other
deriving DecidableEq, Repr

def TransportFailure.Kind.label : Kind → String
  | .timeout => "timeout"
  | .connect => "connect"
  | .protocol => "protocol"
  | .other => "other"

def TransportFailure.Kind.all : List Kind := [.timeout, .connect, .protocol, .other]

def TransportFailure.Kind.ofLabel? (s : String) : Option Kind := all.find? fun k => k.label == s

theorem TransportFailure.Kind.ofLabel?_label (k : Kind) : ofLabel? k.label = some k := by cases k <;> rfl

/-- An exchange that brought no response back. -/
structure TransportFailure where
  kind : TransportFailure.Kind
  message : String
deriving DecidableEq, Repr

def TransportFailure.text (f : TransportFailure) : String :=
  "transport " ++ f.kind.label ++ ": " ++ f.message

/-- How an exchange can end. -/
inductive Exchange where
  | answered (response : Response)
  | failed (failure : TransportFailure)
  | died

/-! ## Media types -/

/-- The part of a content type before its parameters, without blanks around it. -/
def essence (contentType : String) : List Char :=
  Text.trimChars (contentType.toList.takeWhile (· != ';'))

/-- A JSON media type: `application/json`, or any type with the suffix `+json`. -/
def isJsonMedia (contentType : String) : Bool :=
  let name := (essence contentType).map Char.toLower
  name == "application/json".toList || "+json".toList.isSuffixOf name

end Conformance
