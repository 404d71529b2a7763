import Conformance.Schema.Compile
/-!
# Checking values against schemas

The first issue decides: rules are tried in their order, items from left to right, members by key. A schema
that a reference closes a circle with accepts a value it is already looking at.

What other rules have not covered is known at the end. A rule covers members and items that it hands to
other schemas, and a schema that accepts a value covers what its rules cover.

A check descends into the value or follows the schema, so it spends fuel; `CompiledSchema.issue?` starts
with enough for every value.

A document is a schema if the latest dialect's own schema accepts it, so reading one is a check as well.
-/

namespace Conformance

/-! ## Assertions -/

/-- The issue of a text with its content. -/
def TextContent.issue? (c : TextContent) (mediaType encoding s : String) : Option Issue :=
  if !c.isEncoded s then some (.notEncoded (.string s) encoding)
  else if !c.isJson s then some (.notContent (.string s) mediaType)
  else none

/-- The first name that an object has no member of. -/
def missing? (names : List String) (ms : List (String × Json)) : Option Issue :=
  (names.find? fun name => (Json.lookup name ms).isNone).map .missingProperty

/-- The issue an assertion finds in a value. Limits on one type of value leave other types alone. -/
def Assertion.issue? (a : Assertion) (v : Json) : Option Issue :=
  match a, v with
  | .type types listed asWritten, v =>
    if types.any fun t => t.accepts asWritten v then none else some (.notOfType v types listed)
  | .const value, v => if v.same value then none else some (.notConst value)
  | .enum values, v => if values.any v.same then none else some (.notInEnum v values)
  | .bound b limit, .number n => if b.holds limit n then none else some (.outOfBound v b limit)
  | .multipleOf divisor, .number n =>
    if n.toBinary.isMultipleOf divisor then none else some (.notMultiple v divisor)
  | .size extent atLeast limit, v =>
    match extent.measure? v with
    | some n =>
      if (if atLeast then limit ≤ n else n ≤ limit) then none
      else some (.wrongSize v extent atLeast limit)
    | none => none
  | .pattern p, .string s => if p.matches s then none else some (.notMatching v p.shown)
  | .format name f, .string s => if f.accepts s then none else some (.notOfFormat v name)
  | .content mediaType encoding c, .string s => c.issue? mediaType encoding s
  | .required names, .object ms => missing? names ms
  | .dependentRequired entries, .object ms =>
    entries.findSome? fun (key, names) =>
      if (Json.lookup key ms).isSome then missing? names ms else none
  | .uniqueItems, .array xs => if Keyword.distinct xs then none else some (.repeatedItems v)
  | _, _ => none

/-! ## Rules -/

/-- How the rules of a schema look at a value. -/
structure RuleContext where
  /-- another schema for the same value -/
  here : Schema → Json → Option Issue
  /-- a schema for a part of the value -/
  below : Schema → Json → Option Issue
  /-- a schema of the table for the same value -/
  follow : Nat → Bool → Json → Option Issue
  coversMember : String → Bool
  coversItem : Nat → Bool

/-- The issue of a member that names and patterns cover, or else others. -/
def memberIssue? (below : Schema → Json → Option Issue) (named : Option (List (String × Schema)))
    (patterned : Option (List (Pattern × Schema))) (others : Schema) (name : String) (v : Json) :
    Option Issue :=
  let own := ((named.getD []).lookup name).toList
  let matching := ((patterned.getD []).filter fun p => p.1.matches name).map (·.2)
  match own ++ matching with
  | [] =>
    if others.isNever && (named.isSome || patterned.isSome) then some (.unexpectedProperty name)
    else below others v
  | schemas => schemas.findSome? fun s => below s v

/-- The number of items a schema asks for, given how many there are. -/
def isCount (least most : Option Nat) (count : Nat) : Bool :=
  match least, most with
  | none, none => 1 ≤ count
  | some n, none => n ≤ count
  | none, some m => 1 ≤ count && count ≤ m
  | some n, some m => n ≤ count && count ≤ m

/-- The items that no other rule covers and a schema does not accept. -/
def leftItems (m : RuleContext) (s : Schema) (xs : List Json) : List Json :=
  ((List.range xs.length).zip xs).filterMap fun (i, x) =>
    if m.coversItem i || (m.below s x).isNone then none else some x

/-- The members that no other rule covers and a schema does not accept. -/
def leftMembers (m : RuleContext) (s : Schema) (ms : List (String × Json)) : List String :=
  ms.filterMap fun (name, x) =>
    if m.coversMember name || (m.below s x).isNone then none else some name

/-- The issue a rule finds in a value. Rules for one type of value leave other types alone. -/
def Rule.issue? (m : RuleContext) (rule : Rule Schema) (v : Json) : Option Issue :=
  let holds (s : Schema) : Bool := (m.here s v).isNone
  match rule, v with
  | .assertion a, v => a.issue? v
  | .properties named, .object ms =>
    named.findSome? fun (name, s) => (Json.lookup name ms).bind (m.below s)
  | .patternProperties patterned, .object ms =>
    patterned.findSome? fun (p, s) =>
      ms.findSome? fun (name, w) => if p.matches name then m.below s w else none
  | .additionalProperties named patterned others, .object ms =>
    if others.isAlways && named.isNone && patterned.isNone then none
    else ms.findSome? fun (name, w) => memberIssue? m.below named patterned others name w
  | .propertyNames s, .object ms =>
    if s.isNever then if ms.isEmpty then none else some (.forbidden v)
    else ms.findSome? fun (name, _) => m.below s (.string name)
  | .items start s, .array xs => (xs.drop start).findSome? (m.below s)
  | .additionalItems start s, .array xs =>
    let rest := xs.drop start
    if s.isNever then if rest.isEmpty then none else some (.unexpectedItems rest)
    else rest.findSome? (m.below s)
  | .tuple schemas, .array xs => (schemas.zip xs).findSome? fun (s, x) => m.below s x
  | .contains s least most _, .array xs =>
    let count := (xs.filter fun x => (m.below s x).isNone).length
    if isCount least most count then none else some (.nothingContained v)
  | .dependentSchemas schemas, .object ms =>
    schemas.findSome? fun (key, s) => if (Json.lookup key ms).isSome then m.here s v else none
  | .allOf schemas, v => schemas.findSome? fun s => m.here s v
  | .anyOf schemas, v => if schemas.any holds then none else some (.noneMatches v "anyOf")
  | .oneOf schemas, v =>
    match (schemas.filter holds).length with
    | 0 => some (.noneMatches v "oneOf")
    | 1 => none
    | _ => some (.severalMatch v)
  | .not s, v => if holds s then some (.excluded v s.source) else none
  | .condition test positive negative, v =>
    (if holds test then positive else negative).bind fun s => m.here s v
  | .reference i closes, v => m.follow i closes v
  | .unevaluatedItems s, .array xs =>
    let left := leftItems m s xs
    if left.isEmpty then none else some (.unevaluatedItems left)
  | .unevaluatedProperties s, .object ms =>
    let left := leftMembers m s ms
    if left.isEmpty then none else some (.unevaluatedProperties left)
  | _, _ => none

/-! ## Covering -/

/-- Judges what no other rule covers. -/
def Rule.isLast : Rule σ → Bool
  | .unevaluatedItems _ | .unevaluatedProperties _ => true
  | _ => false

/-- How a rule covers a part of a value: by itself, or as a schema does that it hands the whole value to. -/
def Rule.covers (holds : Schema → Bool) (inner : Schema → Bool) (follow : Nat → Bool → Bool)
    (has : String → Bool) (itself : Rule Schema → Bool) (rule : Rule Schema) : Bool :=
  match rule with
  | .allOf schemas => schemas.any inner
  | .anyOf schemas | .oneOf schemas => schemas.any fun s => holds s && inner s
  | .condition test positive negative =>
    if holds test then inner test || positive.any inner else negative.any inner
  | .dependentSchemas schemas => schemas.any fun (key, s) => has key && inner s
  | .reference i closes => follow i closes
  | rule => itself rule

/-- A rule covers a member by itself. -/
def Rule.coversMember (name : String) : Rule Schema → Bool
  | .properties named => named.any fun n => n.1 == name
  | .patternProperties patterned => patterned.any fun p => p.1.matches name
  | .additionalProperties _ _ _ | .unevaluatedProperties _ => true
  | _ => false

/-- A rule covers an item by itself. -/
def Rule.coversItem (accepts : Schema → Json → Bool) (i : Nat) (x : Json) : Rule Schema → Bool
  | .tuple schemas => i < schemas.length
  | .items _ _ | .additionalItems _ _ | .unevaluatedItems _ => true
  | .contains s _ _ covers => covers && accepts s x
  | _ => false

namespace Schema

/-! ## Schemas -/

mutual

/-- The first issue of a value with a schema. `active` are the schemas of the table that the value has come
to through references that close circles. -/
def issue? (table : Array Schema) : Nat → List Nat → Schema → Json → Option Issue
  | 0, _, _, _ => none
  | _ + 1, _, .always, _ => none
  | _ + 1, _, .never, v => some (.forbidden v)
  | fuel + 1, active, .all _ rules, v =>
    let others := rules.filter fun r => !r.isLast
    let context : RuleContext := {
      here := issue? table fuel active
      below := issue? table fuel []
      follow := fun i closes w =>
        if closes && active.contains i then none
        else
          (table[i]?).bind fun s => issue? table fuel (if closes then i :: active else active) s w
      coversMember := fun name => others.any fun r => covers table fuel active r v (.inl name)
      coversItem := fun i => others.any fun r => covers table fuel active r v (.inr i) }
    rules.findSome? fun r => r.issue? context v

/-- A rule covers a member or an item of a value. -/
def covers (table : Array Schema) : Nat → List Nat → Rule Schema → Json → String ⊕ Nat → Bool
  | 0, _, _, _, _ => false
  | fuel + 1, active, rule, v, part =>
    let itself (r : Rule Schema) : Bool :=
      match part, v with
      | .inl name, _ => r.coversMember name
      | .inr i, .array xs =>
        (xs[i]?).any fun x => r.coversItem (fun s x => (issue? table fuel [] s x).isNone) i x
      | .inr _, _ => false
    rule.covers (fun s => (issue? table fuel active s v).isNone)
      (fun s => s.rules.any fun r => covers table fuel active r v part)
      (fun i closes =>
        if closes && active.contains i then false
        else
          (table[i]?).any fun s =>
            s.rules.any fun r => covers table fuel (if closes then i :: active else active) r v part)
      (fun key => (v.get? key).isSome) itself

end

end Schema

/-- The first issue of a value with a schema. On the way down to a part of the value each schema of the table
is entered at most once through a reference that closes a circle, and between two such entries every
schema is passed at most once. -/
def CompiledSchema.issue? (s : CompiledSchema) (v : Json) : Option Issue :=
  let v := v.sorted
  let tables := s.table.size + 2
  s.root.issue? s.table (tables * tables * (s.weight + 2) * (v.weight + 2)) [] v

end Conformance

/-! ## Documents as schemas

A document is a schema if the latest dialect's own schema accepts it, all references in it lead somewhere,
and what a check could reach can be compiled. The dialect of the document is the latest one, whatever it
says of itself; what it says decides on the vocabularies.
-/

namespace Conformance.CompiledSchema

/-- The base of documents that have no name. -/
def defaultBase : Uri := ⟨some "json-schema".toList, some [], ['/'], none, none⟩

/-- The schema of the latest dialect. -/
def latest : Except SchemaFault CompiledSchema :=
  let name := Dialect.draft2020.name
  let base := ((Uri.parse? name).map Uri.normal).getD defaultBase
  match Library.standard.resource? base with
  | some r => ofPlace Library.standard ⟨base, r.dialect, .full, [], none⟩ r.contents
  | none => .error (.unresolved name)

/-- Checks a document against the schema of the latest dialect. -/
def checkDocument (document : Json) : Except SchemaFault Unit :=
  latest.bind fun s => if (s.issue? document).isSome then .error .refused else .ok ()

/-- The URI of a document. -/
def baseOf (document : Json) : Except SchemaFault Uri :=
  match Dialect.draft2020.id? document with
  | none => .ok defaultBase
  | some id =>
    match Uri.resolve? defaultBase id with
    | some uri => .ok uri
    | none => .error (.unresolved id)

/-- Reads a document as a schema. -/
def ofJson (document : Json) : Except SchemaFault CompiledSchema := do
  let document := document.sorted
  let base ← baseOf document
  let l ← Library.ofDocument base ⟨document, .draft2020⟩
  checkDocument document
  ofPlace l ⟨base, .draft2020, l.vocabularies .draft2020 document, [], none⟩ document

end Conformance.CompiledSchema
