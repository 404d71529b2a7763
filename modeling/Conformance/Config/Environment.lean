import Conformance.Config.Basic
/-!
# Environment variables

Variables of the environment that name a configuration or override a part of its target. A value is refused
unless it is UTF-8 and not blank; numbers have to be positive.
-/

namespace Conformance

/-- A variable that is looked at. -/
inductive Variable where
  | configPath
  | baseUrl
  | timeoutSeconds
  | concurrency
deriving DecidableEq, Repr

namespace Variable

def all : List Variable := [.configPath, .baseUrl, .timeoutSeconds, .concurrency]

/-- The name of a variable. -/
def name : Variable → String
  | .configPath => "COMPLIANCE_HARNESS_CONFIG"
  | .baseUrl => "COMPLIANCE_HARNESS_BASE_URL"
  | .timeoutSeconds => "COMPLIANCE_HARNESS_TIMEOUT_SEC"
  | .concurrency => "COMPLIANCE_HARNESS_CONCURRENCY"

end Variable

/-- What is wrong with the value of a variable. -/
inductive VariableFault where
  | notUtf8
  | blank
  | notPositiveInteger
  | zero
deriving DecidableEq, Repr

/-- A variable with a refused value. -/
structure VariableError where
  subject : Variable
  fault : VariableFault
deriving DecidableEq, Repr

def VariableError.text (e : VariableError) : String :=
  e.subject.name ++ match e.fault with
    | .notUtf8 => " must be valid UTF-8"
    | .blank => " must not be empty"
    | .notPositiveInteger => " must be a positive integer"
    | .zero => " must be greater than zero"

/-! ## Values -/

/-- The values of the variables that are set, as bytes. -/
abbrev Environment := Variable → Option ByteArray

namespace Environment

/-- The text of a variable. -/
def text (env : Environment) (v : Variable) : Except VariableError (Option String) :=
  match env v with
  | none => .ok none
  | some bytes =>
    match String.fromUTF8? bytes with
    | some s => .ok (some s)
    | none => .error ⟨v, .notUtf8⟩

/-- The text of a variable that must not be blank if it is set. -/
def filled (env : Environment) (v : Variable) : Except VariableError (Option String) :=
  (env.text v).bind fun value =>
    if value.any Text.isBlankText then .error ⟨v, .blank⟩ else .ok value

/-- Reads a number of 64 bits: digits, a plus sign in front if wanted. -/
def number? (cs : List Char) : Option UInt64 :=
  let digits := match cs with
    | '+' :: digits => digits
    | digits => digits
  (Decimal.read? digits).bind fun n => Decimal.word64? n

/-- Reads a positive number of 64 bits without the blanks around it. -/
def positive (s : String) : Except VariableFault UInt64 :=
  match number? (Text.trimChars s.toList) with
  | none => .error .notPositiveInteger
  | some n => if n = 0 then .error .zero else .ok n

/-- The positive number a variable holds, if it is set. -/
def count (env : Environment) (v : Variable) : Except VariableError (Option UInt64) :=
  (env.filled v).bind fun value =>
    match value with
    | none => .ok none
    | some s =>
      match positive s with
      | .ok n => .ok (some n)
      | .error fault => .error ⟨v, fault⟩

end Environment

/-! ## Overrides -/

/-- What the environment says about the target. -/
structure Overrides where
  baseUrl : Option String
  timeoutSeconds : Option UInt64
  maxConcurrency : Option UInt64
deriving DecidableEq, Repr

/-- The overrides of an environment. -/
def Environment.overrides (env : Environment) : Except VariableError Overrides := do
  let baseUrl ← env.filled .baseUrl
  let timeoutSeconds ← env.count .timeoutSeconds
  let maxConcurrency ← env.count .concurrency
  return ⟨baseUrl.map Text.trim, timeoutSeconds, maxConcurrency⟩

/-- Seconds in milliseconds, the largest word if there are more. -/
def milliseconds (seconds : UInt64) : UInt64 := UInt64.ofNat (min (1000 * seconds.toNat) (UInt64.size - 1))

/-- A target with overrides. -/
def Target.override (t : Target) (o : Overrides) : Target where
  baseUrl := o.baseUrl.getD t.baseUrl
  timeoutMs := (o.timeoutSeconds.map milliseconds).getD t.timeoutMs
  maxConcurrency := o.maxConcurrency.getD t.maxConcurrency

/-- A configuration with overrides. -/
def Config.override (c : Config) (o : Overrides) : Config := { c with target := c.target.override o }

end Conformance
