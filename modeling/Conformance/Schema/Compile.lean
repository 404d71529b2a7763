import Conformance.Schema.Basic
import Conformance.Schema.Library
/-!
# Compiling schemas

A document becomes a schema keyword by keyword. Only what a check could reach is looked at: a branch without
a condition is not, and a schema elsewhere is when a reference leads to it. Every target of references
becomes one schema of a table, and a reference to a target that is still underway closes a circle.

Documents are in normal form: members sorted, each key once.
-/

namespace Conformance

/-! ## Progress -/

/-- What a reference leads to. The way matters as far as it binds anchors. -/
structure ReferenceTarget where
  uri : Uri
  dynamic : List (String × Uri)
  recursive : Option Uri
  wholeDialect : Bool
deriving DecidableEq

/-- The targets met so far with their schemas. -/
structure Progress where
  targets : Array ReferenceTarget
  /-- the indices of those that are not finished -/
  underway : List Nat
  schemas : Array Schema

/-- A step of compiling. -/
abbrev Compiling := StateT Progress (Except SchemaFault)

/-! ## Values of keywords -/

namespace Keyword

/-- No value occurs twice. -/
def distinct : List Json → Bool
  | [] => true
  | x :: xs => !xs.any x.same && distinct xs

/-- The most things a limit can count. -/
def maxLimit : Nat := UInt64.size - 1

/-- A limit on a number of things. Where whole numbers may be written with a fraction, a limit below zero is
zero and one beyond the largest is the largest. -/
def limit? (d : Dialect) : Json → Option Nat
  | .number n =>
    match n, d with
    | .binary _, .draft4 => none
    | n, _ =>
      let (num, den) := n.ratio
      if num % den = 0 then some (min (num / den).toNat maxLimit) else none
  | _ => none

/-- A number. -/
def number? : Json → Option Json.Number
  | .number n => some n
  | _ => none

/-- Strings. -/
def names? (v : Json) : Option (List String) := v.items?.bind fun xs => xs.mapM Json.string?

/-- The member of a key, if it is an array. -/
def arrayOf? (key : String) (ms : List (String × Json)) : Option (List Json) :=
  (Json.lookup key ms).bind Json.items?

/-- A type, or several in a list. -/
def types? (d : Dialect) (v : Json) : Option Assertion :=
  let read (w : Json) : Option JsonType := w.string?.bind JsonType.ofLabel?
  let strict := d == .draft4
  match v with
  | .array [w] => (read w).map fun t => .type [t] false strict
  | .array ws => (ws.mapM read).map fun ts => .type ts true strict
  | w => (read w).map fun t => .type [t] false strict

/-- A bound, which in the fourth draft another keyword makes exclusive. -/
def bound? (d : Dialect) (ms : List (String × Json)) (b exclusive : Bound) (key : String) (v : Json) :
    Option Assertion :=
  let excludes := match d, Json.lookup key ms with
    | .draft4, some (.boolean true) => true
    | _, _ => false
  (number? v).map (.bound (if excludes then exclusive else b))

/-- The format of a name. -/
def format? (d : Dialect) (name : String) : Option TextFormat :=
  (TextFormat.common ++ (if d.since6 then TextFormat.since6 else []) ++
    (if d.since7 then TextFormat.since7 else [])).lookup name

/-- The media type and the encoding that are understood. -/
def jsonMediaType : String := "application/json"

/-- The encoding that is understood. -/
def base64 : String := "base64"

/-- What the media type of a content asks for. -/
def mediaType? (ms : List (String × Json)) (name : String) : Option (Option Assertion) :=
  if name ≠ jsonMediaType then some none
  else
    match Json.lookup "contentEncoding" ms with
    | none => some (some (.content name "" .json))
    | some (.string s) => some (if s = base64 then some (.content name s .jsonInBase64) else none)
    | some _ => none

/-- What the encoding of a content asks for, where no media type does. -/
def encoding? (ms : List (String × Json)) (name : String) : Option Assertion :=
  if (Json.lookup "contentMediaType" ms).isSome ∨ name ≠ base64 then none
  else some (.content "" name .base64)

/-- The assertion of a keyword; none if the value of the keyword is malformed, and none inside if there is
nothing to assert or the keyword is no assertion. -/
def assertion? (d : Dialect) (ms : List (String × Json)) (keyword : String) (v : Json) :
    Option (Option Assertion) :=
  let size (e : Extent) (atLeast : Bool) : Option (Option Assertion) :=
    (limit? d v).map fun n => some (.size e atLeast n)
  match keyword with
  | "type" => (types? d v).map some
  | "const" => some (some (.const v))
  | "enum" => v.items?.map fun xs => some (.enum xs)
  | "minimum" => (bound? d ms .minimum .exclusiveMinimum "exclusiveMinimum" v).map some
  | "maximum" => (bound? d ms .maximum .exclusiveMaximum "exclusiveMaximum" v).map some
  | "exclusiveMinimum" => (number? v).map fun n => some (.bound .exclusiveMinimum n)
  | "exclusiveMaximum" => (number? v).map fun n => some (.bound .exclusiveMaximum n)
  | "multipleOf" => (number? v).map fun n => some (.multipleOf n.toBinary)
  | "minLength" => size .length true
  | "maxLength" => size .length false
  | "minItems" => size .items true
  | "maxItems" => size .items false
  | "minProperties" => size .properties true
  | "maxProperties" => size .properties false
  | "pattern" => (v.string?.bind Pattern.read?).map fun p => some (.pattern p)
  | "format" => v.string?.map fun name => (format? d name).map (.format name)
  | "contentMediaType" => v.string?.bind (mediaType? ms)
  | "contentEncoding" => v.string?.map (encoding? ms)
  | "required" => (names? v).map fun names => some (.required names)
  | "uniqueItems" =>
    match v with
    | .boolean true => some (some .uniqueItems)
    | _ => some none
  | _ => some none

end Keyword

/-! ## Rules -/

namespace Compiling

/-- Fails if there is no value. -/
def orFault (f : SchemaFault) : Option α → Compiling α
  | some a => return a
  | none => throw f

/-- How the schemas inside a schema are compiled. -/
abbrev Inner := Place → Json → Compiling Schema

/-- The schema inside the one at a place. -/
def inside (inner : Inner) (p : Place) (v : Json) : Compiling Schema :=
  inner { p with dialect := p.dialect.detect v } v

/-- The schemas of a list. -/
def list (inner : Inner) (p : Place) (keyword : String) (v : Json) : Compiling (List Schema) := do
  (← orFault (.malformed keyword) v.items?).mapM (inside inner p)

/-- The schemas of the members of an object. -/
def members (inner : Inner) (p : Place) (keyword : String) (v : Json) :
    Compiling (List (String × Schema)) :=
  match v with
  | .object ms => ms.mapM fun (key, w) => return (key, ← inside inner p w)
  | _ => throw (.malformed keyword)

/-- The schemas of the members of an object, their keys being patterns. -/
def patterns (inner : Inner) (p : Place) (keyword : String) (v : Json) :
    Compiling (List (Pattern × Schema)) := do
  (← members inner p keyword v).mapM fun (key, s) =>
    return (← orFault (.malformed keyword) (Pattern.read? key), s)

/-- What is done with members of no name and no pattern takes the names and patterns over. -/
def takesOver (ms : List (String × Json)) : Bool :=
  match Json.lookup "additionalProperties" ms with
  | some (.boolean false) | some (.object _) => true
  | _ => false

/-- The rule for the members that no other keyword covers. -/
def additionalProperties (inner : Inner) (p : Place) (ms : List (String × Json)) (v : Json) :
    Compiling (Rule Schema) := do
  let others ← inside inner p v
  if takesOver ms then
    let named ← (Json.lookup "properties" ms).mapM (members inner p "properties")
    let patterned ← (Json.lookup "patternProperties" ms).mapM (patterns inner p "patternProperties")
    return .additionalProperties named patterned others
  else return .additionalProperties none none others

/-- The rules for items: one schema for all behind the prefix, or one for each. -/
def items (inner : Inner) (p : Place) (ms : List (String × Json)) (v : Json) :
    Compiling (Rule Schema) := do
  match v with
  | .array xs => return .tuple (← xs.mapM (inside inner p))
  | v =>
    let start := if p.dialect = .draft2020 then ((Keyword.arrayOf? "prefixItems" ms).getD []).length else 0
    return .items start (← inside inner p v)

/-- The rule for the items behind those that have a schema each. -/
def additionalItems (inner : Inner) (p : Place) (ms : List (String × Json)) (v : Json) :
    Compiling (List (Rule Schema)) := do
  match Keyword.arrayOf? "items" ms with
  | some xs => return [.additionalItems xs.length (← inside inner p v)]
  | none => return []

/-- The rule for items that have to be there, in numbers that other keywords give. -/
def contains (inner : Inner) (p : Place) (ms : List (String × Json)) (v : Json) :
    Compiling (Rule Schema) := do
  let s ← inside inner p v
  let count (key : String) : Compiling (Option Nat) :=
    if p.dialect.since2019 then
      (Json.lookup key ms).mapM fun w => orFault (.malformed key) (Keyword.limit? p.dialect w)
    else return none
  return .contains s (← count "minContains") (← count "maxContains") (p.dialect == .draft2020)

/-- Names in a list, each once. -/
def distinctNames (keyword : String) (v : Json) : Compiling (List String) :=
  if v.items?.any Keyword.distinct then orFault (.malformed keyword) (Keyword.names? v)
  else throw (.malformed keyword)

/-- The rules for what a member asks of the others: names, or a schema. -/
def dependencies (inner : Inner) (p : Place) (v : Json) : Compiling (List (Rule Schema)) :=
  match v with
  | .object ms => ms.mapM fun (key, w) => do
    match w with
    | .array _ =>
      return .assertion (.dependentRequired
        [(key, ← orFault (.malformed "dependencies") (Keyword.names? w))])
    | w => return .dependentSchemas [(key, ← inside inner p w)]
  | _ => throw (.malformed "dependencies")

/-- A result, or none if there is a fault; what was compiled on the way is kept out. -/
def optional (c : Compiling α) : Compiling (Option α) := fun s =>
  match c s with
  | .ok (a, s) => .ok (some a, s)
  | .error _ => .ok (none, s)

/-- The rule of a condition. Without branches it has no effect of its own, so its faults do not count. -/
def condition (inner : Inner) (p : Place) (ms : List (String × Json)) (v : Json) :
    Compiling (List (Rule Schema)) := do
  let positive ← (Json.lookup "then" ms).mapM (inside inner p)
  let negative ← (Json.lookup "else" ms).mapM (inside inner p)
  if positive.isSome || negative.isSome then
    return [.condition (← inside inner p v) positive negative]
  else return ((← optional (inside inner p v)).map fun s => .condition s none none).toList

/-- The rule of a reference, whose target is compiled when it is met for the first time. -/
def reference (l : Library) (inner : Inner) (p : Place) (reference : String) (wholeDialect : Bool) :
    Compiling (Rule Schema) := do
  let uri ← orFault (.unresolved reference) (Uri.resolve? p.base reference)
  let q := p.move l uri.document
  let target : ReferenceTarget := ⟨uri, q.dynamic, q.recursive, wholeDialect⟩
  let progress ← get
  match progress.targets.idxOf? target with
  | some i => return .reference i (progress.underway.contains i)
  | none =>
    let (q, v) ← if wholeDialect then p.resolveRecursive l else p.resolve l reference
    let i := progress.targets.size
    set { progress with
      targets := progress.targets.push target
      underway := i :: progress.underway
      schemas := progress.schemas.push .always : Progress }
    let s ← inner { q with vocabularies := l.vocabularies q.dialect v } v
    modify fun progress => { progress with
      underway := progress.underway.erase i
      schemas := progress.schemas.setIfInBounds i s }
    return .reference i false

/-- The rules of a keyword that hands values to other schemas. -/
def applied (l : Library) (inner : Inner) (p : Place) (ms : List (String × Json)) (keyword : String)
    (v : Json) : Compiling (List (Rule Schema)) := do
  let linked (wholeDialect : Bool) : Compiling (List (Rule Schema)) := do
    let s ← orFault (.malformed keyword) v.string?
    return [← reference l inner p s wholeDialect]
  match keyword with
  | "properties" =>
    if takesOver ms then return [] else return [.properties (← members inner p keyword v)]
  | "patternProperties" =>
    if takesOver ms then return [] else return [.patternProperties (← patterns inner p keyword v)]
  | "additionalProperties" => return [← additionalProperties inner p ms v]
  | "propertyNames" => return [.propertyNames (← inside inner p v)]
  | "items" => return [← items inner p ms v]
  | "additionalItems" => additionalItems inner p ms v
  | "prefixItems" => return [.tuple (← list inner p keyword v)]
  | "contains" => return [← contains inner p ms v]
  | "dependentRequired" =>
    match v with
    | .object ns =>
      let entries ← ns.mapM fun (key, w) => return (key, ← distinctNames keyword w)
      return [.assertion (.dependentRequired entries)]
    | _ => throw (.malformed keyword)
  | "dependentSchemas" => return [.dependentSchemas (← members inner p keyword v)]
  | "dependencies" => dependencies inner p v
  | "allOf" => return [.allOf (← list inner p keyword v)]
  | "anyOf" => return [.anyOf (← list inner p keyword v)]
  | "oneOf" => return [.oneOf (← list inner p keyword v)]
  | "not" => return [.not (← inside inner p v)]
  | "if" => condition inner p ms v
  | "$ref" | "$dynamicRef" => linked false
  | "$recursiveRef" => linked true
  | "unevaluatedItems" => return [.unevaluatedItems (← inside inner p v)]
  | "unevaluatedProperties" => return [.unevaluatedProperties (← inside inner p v)]
  | _ => return []

/-- The keywords in the order they are tried in. -/
def order : List String := [
  "type", "const", "enum", "minimum", "maximum", "exclusiveMinimum", "exclusiveMaximum", "multipleOf",
  "minLength", "maxLength", "pattern", "format", "contentEncoding", "contentMediaType", "minItems",
  "maxItems", "minProperties", "maxProperties", "required", "dependentRequired", "uniqueItems",
  "properties", "patternProperties", "additionalProperties", "propertyNames", "items", "prefixItems",
  "additionalItems", "contains", "dependentSchemas", "dependencies", "allOf", "anyOf", "oneOf", "not",
  "if", "$ref", "$dynamicRef", "$recursiveRef", "unevaluatedItems", "unevaluatedProperties"]

/-- The rules of a keyword. -/
def rules (l : Library) (inner : Inner) (p : Place) (ms : List (String × Json)) (keyword : String)
    (v : Json) : Compiling (List (Rule Schema)) := do
  match ← orFault (.malformed keyword) (Keyword.assertion? p.dialect ms keyword v) with
  | some a => return [.assertion a]
  | none => applied l inner p ms keyword v

/-- The members of a schema that have a meaning at a place. In the early dialects a reference stands
alone. -/
def meaningful (p : Place) (ms : List (String × Json)) : List (String × Json) :=
  let known := ms.filter fun m => p.dialect.knows p.vocabularies m.1
  if p.dialect.isEarly && known.any fun m => m.1 == "$ref" then known.filter fun m => m.1 == "$ref"
  else known

/-- Compiles the schema at a place. -/
def schema (l : Library) : Nat → Place → Json → Compiling Schema
  | 0, _, _ => throw .endless
  | fuel + 1, p, v =>
    match v with
    | .boolean true => return .always
    | .boolean false => return .never
    | .object ms => do
      let p ← p.enter l v
      let compiled ← (meaningful p ms).mapM fun (keyword, w) =>
        return (keyword, ← rules l (schema l fuel) p ms keyword w)
      return .all v (order.flatMap fun keyword => (compiled.lookup keyword).getD [])
    | _ => throw .notASchema

end Compiling

/-! ## Compiled schemas -/

/-- A schema with the table of the schemas that references stand for. -/
structure CompiledSchema where
  root : Schema
  table : Array Schema
  /-- the number of values in all documents that were looked at -/
  weight : Nat
deriving Inhabited

namespace CompiledSchema

/-- The number of values in the resources of a library. -/
def weightOf (l : Library) : Nat := l.resources.foldl (fun n r => n + r.2.contents.weight) 0

/-- Compiles a document at a place of a library. On every way down there are at most as many bindings of
anchors as resources, under each of them at most as many targets as references in resources, and at each
of these at most as many schemas as values. -/
def ofPlace (l : Library) (p : Place) (document : Json) : Except SchemaFault CompiledSchema :=
  let weight := weightOf l
  (Compiling.schema l (Nat.pow (weight + 2) 4) p document ⟨#[], [], #[]⟩).map fun (root, progress) =>
    ⟨root, progress.schemas, weight⟩

end CompiledSchema

end Conformance
