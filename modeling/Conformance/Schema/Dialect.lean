import Conformance.Json.Value
/-!
# Dialects of schemas

A schema says in `$schema` which dialect it is written in. Dialects differ in the keywords they know, in
how a schema is named, and in where other schemas stand inside it. The later ones split their keywords into
vocabularies, which a document can leave out.
-/

namespace Conformance

/-- A dialect. -/
inductive Dialect where
  | draft4
  | draft6
  | draft7
  | draft2019
  | draft2020
  /-- a dialect that is not described here -/
  | unknown
deriving DecidableEq, Repr, Inhabited

/-- The vocabularies whose keywords judge values. -/
structure Vocabularies where
  applicator : Bool
  validation : Bool
  unevaluated : Bool
deriving DecidableEq, Repr, Inhabited

/-- All vocabularies. -/
def Vocabularies.full : Vocabularies := ⟨true, true, true⟩

namespace Dialect

/-! ## Names of dialects -/

/-- The dialects that have a schema of their own. -/
def known : List Dialect := [.draft4, .draft6, .draft7, .draft2019, .draft2020]

/-- The start of the names of a dialect's schemas. -/
def home : Dialect → String
  | .draft4 => "http:" ++ "//json-schema.org/draft-04/"
  | .draft6 => "http:" ++ "//json-schema.org/draft-06/"
  | .draft7 => "http:" ++ "//json-schema.org/draft-07/"
  | .draft2019 => "https:" ++ "//json-schema.org/draft/2019-09/"
  | .draft2020 => "https:" ++ "//json-schema.org/draft/2020-12/"
  | .unknown => ""

def name (d : Dialect) : String := d.home ++ "schema"

/-- A text without number signs at its end. -/
def withoutMarks (s : String) : String :=
  String.ofList (s.toList.reverse.dropWhile (· == '#')).reverse

/-- The dialect of a name. -/
def ofName (s : String) : Dialect :=
  (known.find? fun d => d.name == withoutMarks s).getD .unknown

/-- The dialect a schema says it is written in. -/
def declared? (v : Json) : Option Dialect := ((v.get? "$schema").bind Json.string?).map ofName

/-- The dialect of a schema inside one of a dialect. -/
def detect (d : Dialect) (v : Json) : Dialect := (declared? v).getD d

/-- The dialects without vocabularies, in which a reference hides what stands beside it. -/
def isEarly : Dialect → Bool
  | .draft4 | .draft6 | .draft7 => true
  | _ => false

/-- The vocabularies of a dialect. -/
def vocabularies : Dialect → Vocabularies
  | .draft4 | .draft6 | .draft7 => ⟨false, false, false⟩
  | .draft2019 => ⟨true, true, false⟩
  | .draft2020 | .unknown => .full

/-! ## Keywords -/

/-- The dialects from the sixth draft on. -/
def since6 : Dialect → Bool
  | .draft4 | .unknown => false
  | _ => true

/-- The dialects from the seventh draft on. -/
def since7 (d : Dialect) : Bool := d.since6 && d != .draft6

/-- The dialects named by years. -/
def since2019 (d : Dialect) : Bool := d == .draft2019 || d == .draft2020

/-- A keyword has a meaning in a dialect with some vocabularies. -/
def knows (d : Dialect) (vs : Vocabularies) (keyword : String) : Bool :=
  let vs := if d.isEarly then .full else vs
  match keyword with
  | "$ref" => true
  | "format" => d.isEarly
  | "enum" | "maxItems" | "maxLength" | "maxProperties" | "maximum" | "minItems" | "minLength"
  | "minProperties" | "minimum" | "multipleOf" | "pattern" | "required" | "type" | "uniqueItems" =>
    vs.validation
  | "additionalItems" | "additionalProperties" | "allOf" | "anyOf" | "dependencies" | "items" | "not"
  | "oneOf" | "patternProperties" | "properties" => vs.applicator
  | "const" | "exclusiveMaximum" | "exclusiveMinimum" => d.since6 && vs.validation
  | "contains" | "propertyNames" => d.since6 && vs.applicator
  | "if" => d.since7 && vs.applicator
  | "contentEncoding" | "contentMediaType" => d == .draft6 || d == .draft7
  | "dependentRequired" => d.since2019 && vs.validation
  | "dependentSchemas" => d.since2019 && vs.applicator
  | "$recursiveRef" => d == .draft2019
  | "$dynamicRef" => d == .draft2020
  | "prefixItems" => d == .draft2020 && vs.applicator
  | "unevaluatedItems" | "unevaluatedProperties" =>
    (d == .draft2019 && vs.applicator) || (d == .draft2020 && vs.unevaluated)
  | _ => false

/-! ## Names of schemas -/

/-- The keyword that names a schema. -/
def idKey (d : Dialect) : String := if d = .draft4 then "id" else "$id"

/-- What stands at the keyword that names a schema. -/
def idText? (d : Dialect) (v : Json) : Option String := (v.get? d.idKey).bind Json.string?

/-- A fragment, with its number sign. -/
def isFragment (s : String) : Bool := s.toList.head? == some '#'

/-- The name a schema gives itself. In early dialects a reference has none, and a fragment is none. -/
def id? (d : Dialect) (v : Json) : Option String :=
  (d.idText? v).bind fun s =>
    if d.isEarly && ((v.get? "$ref").isSome || isFragment s) then none else some (withoutMarks s)

/-- The anchors of a schema, each with the mark of a dynamic one. In early dialects an anchor is a fragment
in the place of a name. -/
def anchors (d : Dialect) (v : Json) : List (String × Bool) :=
  let anchor (key : String) (isDynamic : Bool) : List (String × Bool) :=
    (((v.get? key).bind Json.string?).map fun s => (s, isDynamic)).toList
  if d.isEarly then
    ((d.idText? v).filter isFragment).toList.map fun s => (String.ofList (s.toList.drop 1), false)
  else anchor "$anchor" false ++ if d = .draft2019 then [] else anchor "$dynamicAnchor" true

/-! ## Schemas inside schemas -/

/-- Keywords whose value is a schema. -/
def singleKeys : Dialect → List String
  | .draft4 => ["additionalItems", "additionalProperties", "not"]
  | .draft6 => ["additionalItems", "additionalProperties", "contains", "not", "propertyNames"]
  | .draft7 =>
    ["additionalItems", "additionalProperties", "contains", "else", "if", "not", "propertyNames", "then"]
  | .draft2019 =>
    ["additionalItems", "additionalProperties", "contains", "contentSchema", "else", "if", "not",
      "propertyNames", "then", "unevaluatedItems", "unevaluatedProperties"]
  | .draft2020 | .unknown =>
    ["additionalProperties", "contains", "contentSchema", "else", "if", "items", "not", "propertyNames",
      "then", "unevaluatedItems", "unevaluatedProperties"]

/-- Keywords whose value is a list of schemas. -/
def listKeys : Dialect → List String
  | .draft2020 | .unknown => ["allOf", "anyOf", "oneOf", "prefixItems"]
  | _ => ["allOf", "anyOf", "oneOf"]

/-- Keywords whose value has schemas as members. -/
def memberKeys : Dialect → List String
  | .draft4 | .draft6 | .draft7 => ["definitions", "patternProperties", "properties"]
  | _ => ["$defs", "definitions", "dependentSchemas", "patternProperties", "properties"]

/-- Keywords whose value is a schema or a list of schemas. -/
def mixedKeys : Dialect → List String
  | .draft2020 | .unknown => []
  | _ => ["items"]

/-- Keywords whose value has schemas or lists of names as members. -/
def partlyKeys (d : Dialect) : List String := if d.isEarly then ["dependencies"] else []

/-- The schemas that stand directly in a schema. -/
def subschemas (d : Dialect) : Json → List Json
  | .object ms => ms.flatMap fun (key, v) =>
    match v with
    | .array xs => if (d.listKeys ++ d.mixedKeys).contains key then xs else []
    | .object ns =>
      if (d.singleKeys ++ d.mixedKeys).contains key then [v]
      else if (d.memberKeys ++ d.partlyKeys).contains key then ns.map (·.2)
      else []
    | _ => []
  | _ => []

end Dialect

end Conformance
