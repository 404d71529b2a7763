import Conformance.Json.Printer
import Conformance.Text.Character
import Conformance.Number.Binary
import Conformance.Pattern.Matching
import Conformance.Schema.Format
/-!
# Body schemas

JSON Schema as a type: assertions look at one value, rules hand a value or parts of it to other schemas, a
reference stands for a schema elsewhere. An `Issue` is the first thing found wrong with a value.
-/

namespace Conformance

/-! ## Types of values -/

/-- The names a `type` keyword may use, in alphabetical order. -/
inductive JsonType where
  | array
  | boolean
  | integer
  | null
  | number
  | object
  | string
deriving DecidableEq, Repr

namespace JsonType

/-- Every type, in alphabetical order. -/
def all : List JsonType := [.array, .boolean, .integer, .null, .number, .object, .string]

def label : JsonType → String
  | .array => "array"
  | .boolean => "boolean"
  | .integer => "integer"
  | .null => "null"
  | .number => "number"
  | .object => "object"
  | .string => "string"

def ofLabel? (s : String) : Option JsonType := all.find? fun t => t.label == s

/-- A value is of a type. A number without a fraction is an integer, however it is written, unless only
what is written as one counts. -/
def accepts (asWritten : Bool) : JsonType → Json → Bool
  | .array, .array _ => true
  | .boolean, .boolean _ => true
  | .integer, .number (.integer _) => true
  | .integer, .number n => !asWritten && n.isWhole
  | .null, .null => true
  | .number, .number _ => true
  | .object, .object _ => true
  | .string, .string _ => true
  | _, _ => false

end JsonType

/-! ## Limits -/

/-- A limit on the value of a number. -/
inductive Bound where
  | minimum
  | maximum
  | exclusiveMinimum
  | exclusiveMaximum
deriving DecidableEq, Repr

/-- A number keeps a bound. -/
def Bound.holds (b : Bound) (limit n : Json.Number) : Bool :=
  match b with
  | .minimum => !n.below limit
  | .maximum => !limit.below n
  | .exclusiveMinimum => limit.below n
  | .exclusiveMaximum => n.below limit

/-- The words for a broken bound. -/
def Bound.phrase : Bound → String
  | .minimum => "less than the minimum of "
  | .maximum => "greater than the maximum of "
  | .exclusiveMinimum => "less than or equal to the minimum of "
  | .exclusiveMaximum => "greater than or equal to the maximum of "

/-- What a size limit counts: the code points of a string, the items of an array, the members of an
object. -/
inductive Extent where
  | length
  | items
  | properties
deriving DecidableEq, Repr

/-- The size of a value an extent applies to. -/
def Extent.measure? : Extent → Json → Option Nat
  | .length, .string s => some s.length
  | .items, .array xs => some xs.length
  | .properties, .object ms => some ms.length
  | _, _ => none

/-- A number of things, in words. -/
def plural (n : Nat) (one many : String) : String :=
  Decimal.text n ++ " " ++ if n = 1 then one else many

/-- The words for a size beyond a limit. -/
def Extent.phrase (e : Extent) (atLeast : Bool) (limit : Nat) : String :=
  match e with
  | .length =>
    "is " ++ (if atLeast then "shorter" else "longer") ++ " than " ++
      plural limit "character" "characters"
  | .items =>
    "has " ++ (if atLeast then "less" else "more") ++ " than " ++ plural limit "item" "items"
  | .properties =>
    "has " ++ (if atLeast then "less" else "more") ++ " than " ++ plural limit "property" "properties"

/-! ## Schemas -/

/-- A keyword that looks at one value. -/
inductive Assertion where
  /-- of one type, or of one of several -/
  | type (types : List JsonType) (listed : Bool) (asWritten : Bool)
  | const (value : Json)
  | enum (values : List Json)
  | bound (b : Bound) (limit : Json.Number)
  | multipleOf (divisor : Binary64)
  | size (extent : Extent) (atLeast : Bool) (limit : Nat)
  | pattern (p : Pattern)
  | format (name : String) (f : TextFormat)
  | content (mediaType encoding : String) (c : TextContent)
  | required (names : List String)
  | dependentRequired (entries : List (String × List String))
  | uniqueItems
deriving Repr

/-- A keyword, or several that act together. `σ` are the schemas it hands values to. -/
inductive Rule (σ : Type) where
  | assertion (a : Assertion)
  | properties (named : List (String × σ))
  | patternProperties (patterned : List (Pattern × σ))
  /-- the members that no name and no pattern covers, none of these if there are no such keywords -/
  | additionalProperties (named : Option (List (String × σ))) (patterned : Option (List (Pattern × σ)))
      (others : σ)
  | propertyNames (s : σ)
  /-- the items from an index on -/
  | items (start : Nat) (s : σ)
  /-- the items behind those that are listed -/
  | additionalItems (start : Nat) (s : σ)
  | tuple (schemas : List σ)
  | contains (s : σ) (least most : Option Nat) (covers : Bool)
  | dependentSchemas (schemas : List (String × σ))
  | allOf (schemas : List σ)
  | anyOf (schemas : List σ)
  | oneOf (schemas : List σ)
  | not (s : σ)
  | condition (test : σ) (positive negative : Option σ)
  /-- a schema of a table; `closes` marks a reference to a schema that this one is part of -/
  | reference (index : Nat) (closes : Bool)
  | unevaluatedItems (s : σ)
  | unevaluatedProperties (s : σ)

/-- A schema. The rules stand in the order they are tried in. -/
inductive Schema where
  | always
  | never
  | all (source : Json) (rules : List (Rule Schema))

instance : Inhabited Schema := ⟨.always⟩

namespace Schema

/-- The document a schema was read from. -/
def source : Schema → Json
  | .always => .boolean true
  | .never => .boolean false
  | .all source _ => source

/-- Accepts everything without looking. -/
def isAlways : Schema → Bool
  | .always => true
  | _ => false

/-- Accepts nothing. -/
def isNever : Schema → Bool
  | .never => true
  | _ => false

/-- The rules of a schema. -/
def rules : Schema → List (Rule Schema)
  | .all _ rules => rules
  | _ => []

end Schema

/-! ## Issues -/

/-- What is wrong with a value. -/
inductive Issue where
  | notOfType (value : Json) (types : List JsonType) (listed : Bool)
  | notConst (expected : Json)
  | notInEnum (value : Json) (options : List Json)
  | outOfBound (value : Json) (b : Bound) (limit : Json.Number)
  | notMultiple (value : Json) (divisor : Binary64)
  | wrongSize (value : Json) (extent : Extent) (atLeast : Bool) (limit : Nat)
  | missingProperty (name : String)
  | repeatedItems (value : Json)
  | notMatching (value : Json) (pattern : String)
  | notOfFormat (value : Json) (format : String)
  | notEncoded (value : Json) (encoding : String)
  | notContent (value : Json) (mediaType : String)
  | unexpectedProperty (name : String)
  | unexpectedItems (items : List Json)
  | unevaluatedProperties (names : List String)
  | unevaluatedItems (items : List Json)
  | nothingContained (value : Json)
  | noneMatches (value : Json) (keyword : String)
  | severalMatch (value : Json)
  | excluded (value : Json) (schema : Json)
  | forbidden (value : Json)
deriving Repr

namespace Issue

/-- Enumerations up to this length are shown in full. -/
def shownOptions : Nat := 3

/-- Options in words: all of a few, or two and the number of the others. -/
def optionsText (options : List Json) : String :=
  if shownOptions < options.length then
    Text.join ", " ((options.take (shownOptions - 1)).map Json.compact) ++ " or " ++
      Decimal.text (options.length - (shownOptions - 1)) ++ " other candidates"
  else
    match options.reverse with
    | [] => ""
    | [one] => one.compact
    | last :: front => Text.join ", " (front.reverse.map Json.compact) ++ " or " ++ last.compact

/-- A text as a JSON string. -/
def quoted (s : String) : String := String.ofList (Json.quoted s)

/-- The types of a value in words, in alphabetical order. -/
def typesText (types : List JsonType) (listed : Bool) : String :=
  let names := (JsonType.all.filter types.contains).map fun t => quoted t.label
  (if listed then "types " else "type ") ++ Text.join ", " names

/-- What was unexpected, in words. -/
def unexpectedText (things : List String) : String :=
  "(" ++ Text.join ", " things ++ (if things.length = 1 then " was" else " were") ++ " unexpected)"

/-- A text between apostrophes. -/
def named (s : String) : String := "'" ++ s ++ "'"

def text : Issue → String
  | .notOfType value types listed => value.compact ++ " is not of " ++ typesText types listed
  | .notConst expected => expected.compact ++ " was expected"
  | .notInEnum value options => value.compact ++ " is not one of " ++ optionsText options
  | .outOfBound value b limit => value.compact ++ " is " ++ b.phrase ++ (Json.number limit).compact
  | .notMultiple value divisor =>
    value.compact ++ " is not a multiple of " ++ String.ofList divisor.positional
  | .wrongSize value extent atLeast limit => value.compact ++ " " ++ extent.phrase atLeast limit
  | .missingProperty name => quoted name ++ " is a required property"
  | .repeatedItems value => value.compact ++ " has non-unique elements"
  | .notMatching value pattern => value.compact ++ " does not match \"" ++ pattern ++ "\""
  | .notOfFormat value format => value.compact ++ " is not a \"" ++ format ++ "\""
  | .notEncoded value encoding =>
    value.compact ++ " is not compliant with \"" ++ encoding ++ "\" content encoding"
  | .notContent value mediaType =>
    value.compact ++ " is not compliant with \"" ++ mediaType ++ "\" media type"
  | .unexpectedProperty name =>
    "Additional properties are not allowed " ++ unexpectedText [named name]
  | .unexpectedItems items =>
    "Additional items are not allowed " ++ unexpectedText (items.map Json.compact)
  | .unevaluatedProperties names =>
    "Unevaluated properties are not allowed " ++ unexpectedText (names.map named)
  | .unevaluatedItems items =>
    "Unevaluated items are not allowed " ++ unexpectedText (items.map fun v => named v.compact)
  | .nothingContained value => "None of " ++ value.compact ++ " are valid under the given schema"
  | .noneMatches value keyword =>
    value.compact ++ " is not valid under any of the schemas listed in the '" ++ keyword ++ "' keyword"
  | .severalMatch value =>
    value.compact ++ " is valid under more than one of the schemas listed in the 'oneOf' keyword"
  | .excluded value schema => schema.compact ++ " is not allowed for " ++ value.compact
  | .forbidden value => "False schema does not allow " ++ value.compact

end Issue

end Conformance
