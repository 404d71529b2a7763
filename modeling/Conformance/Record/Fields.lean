import Conformance.Json.Value
/-!
# Reading records

A record is written as an object, or as the array of its field values in declared order. These functions
take either apart. A closed record has no key besides its fields; an open one may have more.
-/

namespace Conformance.Record

/-- How a notation treats items behind the last field of a record written as an array. -/
inductive Spare where
  | refused
  | ignored
deriving DecidableEq, Repr

/-- The fields of a record, by name. -/
def fields? (names : List String) (closed : Bool) (spare : Spare) :
    Json → Option (List (String × Json))
  | .object ms => if closed && ms.any (fun m => !names.contains m.1) then none else some ms
  | .array xs =>
    if spare = .refused ∧ names.length < xs.length then none else some (names.zip xs)
  | _ => none

/-- A field that has to be there. -/
def required? (ms : List (String × Json)) (name : String) (read : Json → Option α) : Option α :=
  (Json.lookup name ms).bind read

/-- A field with a default; one that is there has to be readable. -/
def withDefault? (ms : List (String × Json)) (name : String) (read : Json → Option α) (d : α) :
    Option α :=
  match Json.lookup name ms with
  | none => some d
  | some v => read v

/-- A field that may be left out. -/
def optional? (ms : List (String × Json)) (name : String) (read : Json → Option α) :
    Option (Option α) :=
  match Json.lookup name ms with
  | none => some none
  | some v => (read v).map some

/-- A value that may be `null`. -/
def nullable? (read : Json → Option α) : Json → Option (Option α)
  | .null => some none
  | v => (read v).map some

/-- A natural number. -/
def natural? (v : Json) : Option Nat := v.integer?.bind fun n => if 0 ≤ n then some n.toNat else none

/-- A list of values. -/
def list? (read : Json → Option α) : Json → Option (List α)
  | .array xs => xs.mapM read
  | _ => none

/-- A 16-bit number. -/
def word16? (v : Json) : Option UInt16 := v.integer?.bind Decimal.word16?

/-- A 64-bit number. -/
def word64? (v : Json) : Option UInt64 := v.integer?.bind Decimal.word64?

/-- One word out of several: the word itself, or an object with the word as its only key and an empty
value, `isEmpty` saying which values count as empty. -/
def word? (isEmpty : Json → Bool) (ofLabel? : String → Option α) : Json → Option α
  | .string s => ofLabel? s
  | .object [(k, v)] => if isEmpty v then ofLabel? k else none
  | _ => none

/-- The empty value of a JSON text. -/
def isNull : Json → Bool
  | .null => true
  | _ => false

/-- The empty values of a settings document, which has no null. -/
def isVoid : Json → Bool
  | .array [] | .object [] => true
  | _ => false

end Conformance.Record
