import Conformance.Schema.Metaschema
import Conformance.Uri.Reference
/-!
# Libraries of schemas

A document can hold schemas with names of their own, and schemas refer to each other by URI. A library holds
what can be referred to: every named schema under its URI, and anchors inside them. The documents that
describe the dialects belong to every library.

A reference is followed from a `Place`, which knows what references are relative to and which anchors are
bound by the way that led there.
-/

namespace Conformance

/-- Why a document is not a schema. -/
inductive SchemaFault where
  | notASchema
  | malformed (keyword : String)
  | unresolved (reference : String)
  /-- what the schemas of the dialect say about the document -/
  | refused
  /-- references that lead from one to the next without end -/
  | endless
deriving DecidableEq, Repr

def SchemaFault.text : SchemaFault → String
  | .notASchema => "a schema is a boolean or an object"
  | .malformed keyword => "keyword " ++ keyword ++ " is malformed"
  | .unresolved reference => "reference " ++ reference ++ " leads nowhere"
  | .refused => "the document breaks the rules of its dialect"
  | .endless => "references have no end"

/-- A schema that can be referred to. -/
structure SchemaResource where
  contents : Json
  dialect : Dialect
deriving Inhabited

/-- A schema with an anchor, in the resource of a URI. -/
structure AnchoredSchema where
  base : Uri
  name : String
  isDynamic : Bool
  resource : SchemaResource

/-- What can be referred to. Of several resources or anchors of one name the first counts. -/
structure Library where
  resources : List (Uri × SchemaResource)
  anchors : List AnchoredSchema

namespace Library

/-- The library of nothing. -/
def empty : Library := ⟨[], []⟩

/-- The resource of a URI. -/
def resource? (l : Library) (uri : Uri) : Option SchemaResource :=
  (l.resources.find? fun r => r.1 == uri).map (·.2)

/-- The anchor of a name in the resource of a URI. -/
def anchor? (l : Library) (uri : Uri) (name : String) : Option AnchoredSchema :=
  l.anchors.find? fun a => a.base == uri && a.name == name

/-! ## Schemas in documents -/

/-- A schema that stands in a document. -/
structure Entry where
  /-- the URI references in it are relative to -/
  base : Uri
  resource : SchemaResource
  isNamed : Bool

/-- The entry of a schema in the resource of a URI, which its own name may change. -/
def Entry.of (base : Uri) (resource : SchemaResource) : Except SchemaFault Entry :=
  match resource.dialect.id? resource.contents with
  | none => .ok ⟨base, resource, false⟩
  | some id =>
    match Uri.resolve? base id with
    | some uri => .ok ⟨uri, resource, true⟩
    | none => .error (.unresolved id)

/-- The schemas that stand directly in the schema of an entry. -/
def Entry.inner (e : Entry) : List (Uri × SchemaResource) :=
  (e.resource.dialect.subschemas e.resource.contents).map fun v =>
    (e.base, ⟨v, e.resource.dialect.detect v⟩)

/-- The entries of schemas and of all schemas inside them, outer ones first. Fuel bounds the depth. -/
def entries : Nat → List (Uri × SchemaResource) → Except SchemaFault (List Entry)
  | 0, _ => .ok []
  | _ + 1, [] => .ok []
  | depth + 1, level =>
    (level.mapM fun (base, r) => Entry.of base r).bind fun here =>
      (entries depth (here.flatMap Entry.inner)).map (here ++ ·)

/-- Adds an entry, over older ones of its names. -/
def insert (l : Library) (e : Entry) : Library :=
  let anchors := (e.resource.dialect.anchors e.resource.contents).map fun (name, isDynamic) =>
    AnchoredSchema.mk e.base name isDynamic e.resource
  ⟨if e.isNamed then (e.base, e.resource) :: l.resources else l.resources, anchors ++ l.anchors⟩

/-- Adds a document under a URI, with all that stands in it. -/
def addDocument (l : Library) (uri : Uri) (r : SchemaResource) : Except SchemaFault (Library × List Entry) :=
  (entries (r.contents.weight + 1) [(uri, r)]).map fun es =>
    (es.foldl insert ⟨(uri, r) :: l.resources, l.anchors⟩, es)

/-- The library of the documents that describe the dialects. -/
def standard : Library :=
  Metaschema.documents.foldl (fun l (name, d, v) =>
    match (Uri.parse? name).map fun u => l.addDocument u.normal ⟨v, d⟩ with
    | some (.ok (l, _)) => l
    | _ => l) empty

/-! ## References to other documents -/

/-- Undoes percent codes; none if the bytes are no text. -/
def percentDecoded? (cs : List Char) : Option String := String.fromUTF8? ⟨(Percent.decode cs).toArray⟩

/-- Undoes the escapes of a pointer token: `~1` for a slash, `~0` for a tilde. -/
def unescaped : List Char → List Char
  | '~' :: '1' :: r => '/' :: unescaped r
  | '~' :: '0' :: r => '~' :: unescaped r
  | c :: r => c :: unescaped r
  | [] => []

/-- Reads the index of an array, which may have a sign in front. -/
def index? (cs : List Char) : Option Nat := Decimal.read? (if cs.head? = some '+' then cs.drop 1 else cs)

/-- The value one token of a pointer leads to. -/
def step? (v : Json) (token : List Char) : Option Json :=
  match v with
  | .object ms => Json.lookup (String.ofList (unescaped token)) ms
  | .array xs => (index? token).bind fun i => xs[i]?
  | _ => none

/-- The tokens of a pointer behind its first slash. -/
def tokens (pointer : String) : List (List Char) := Text.split '/' pointer.toList

/-- The starts of references that lead to the schemas of dialects. -/
def isWellKnown (reference : String) : Bool :=
  Dialect.known.any fun d => d.home.toList.isPrefixOf reference.toList

/-- The references of a schema: what it refers to, and the name of its dialect, which need not lead
anywhere. -/
def references (v : Json) : List (String × Bool) :=
  let of (key : String) (needed : Bool) : List (String × Bool) :=
    (((v.get? key).bind Json.string?).map fun s => (s, needed)).toList
  of "$ref" true ++ of "$schema" false

/-- A reference that stays in its document. -/
def isLocal (reference : String) : Bool := reference.toList.head? == some '#'

/-- Checks that what an entry refers to outside of its document is there. -/
def Entry.check (l : Library) (e : Entry) : Except SchemaFault Unit :=
  if e.base.scheme = some "urn".toList then .ok ()
  else
    (references e.resource.contents).forM fun (reference, needed) =>
      if isLocal reference || isWellKnown reference then .ok ()
      else
        match Uri.resolve? e.base reference with
        | none => .error (.unresolved reference)
        | some uri =>
          if needed && (l.resource? uri.document).isNone then .error (.unresolved reference) else .ok ()

/-- The pointers of local references in entries, with the bases they stand in. -/
def pointers (es : List Entry) : List (Uri × Dialect × String) :=
  es.flatMap fun e =>
    (references e.resource.contents).filterMap fun (reference, _) =>
      match reference.toList with
      | '#' :: '/' :: pointer => some (e.base, e.resource.dialect, String.ofList pointer)
      | _ => none

/-- Checks entries, and what local references lead to from them. `met` are the references followed so far,
and each round of fuel follows some for the first time. -/
def checkFrom (l : Library) (document : Json) :
    Nat → List (Uri × String) → List Entry → Except SchemaFault Unit
  | 0, _, _ => .ok ()
  | rounds + 1, met, es => do
    es.forM (Entry.check l)
    let fresh := ((pointers es).filter fun (base, _, p) => !met.contains (base, p))
    if fresh.isEmpty then return
    let level := fresh.filterMap fun (base, d, p) =>
      ((tokens p).foldlM step? document).map fun v => (base, SchemaResource.mk v (d.detect v))
    let next ← entries (document.weight + 1) level
    checkFrom l document rounds (fresh.map (fun (base, _, p) => (base, p)) ++ met) next

/-- The library of a document, which stands under a URI. -/
def ofDocument (uri : Uri) (r : SchemaResource) : Except SchemaFault Library := do
  let (l, es) ← standard.addDocument uri r
  checkFrom l r.contents (r.contents.weight + 1) [] es
  return l

/-! ## Vocabularies -/

/-- The vocabularies a document switches on. -/
def switchedOn (v : Json) : Option Vocabularies :=
  match v.get? "$vocabulary" with
  | some (.object ms) =>
    let on (name : String) : Bool := Dialect.known.any fun d =>
      match Json.lookup (d.home ++ "vocab/" ++ name) ms with
      | some (.boolean b) => b
      | _ => false
    some ⟨on "applicator", on "validation", on "unevaluated"⟩
  | _ => none

/-- The vocabularies of a schema inside one of a dialect. -/
def vocabularies (l : Library) (d : Dialect) (v : Json) : Vocabularies :=
  let d := d.detect v
  let described := (((v.get? "$schema").bind Json.string?).bind Uri.parse?).bind fun u =>
    l.resource? u.normal.document
  match d, described.bind fun r => switchedOn r.contents with
  | .unknown, some vs => vs
  | d, _ => d.vocabularies

end Library

/-! ## Places -/

/-- Where a schema stands. -/
structure Place where
  /-- the URI references are relative to -/
  base : Uri
  dialect : Dialect
  vocabularies : Vocabularies
  /-- the outermost resource on the way for each dynamic anchor -/
  dynamic : List (String × Uri)
  /-- the outermost of the resources on the way that stand for their whole dialect -/
  recursive : Option Uri
deriving DecidableEq

namespace Place

/-- The name by which a resource stands for its whole dialect. -/
def isRecursive (l : Library) (uri : Uri) : Bool :=
  match (l.resource? uri).bind fun r => r.contents.get? "$recursiveAnchor" with
  | some (.boolean b) => b
  | _ => false

/-- Binds names that are not bound. -/
def bindNames (bound : List (String × Uri)) (uri : Uri) (names : List String) : List (String × Uri) :=
  names.foldl (fun bound name => if (bound.lookup name).isSome then bound else (name, uri) :: bound) bound

/-- Leads into the resource of another URI. The one that is left keeps the dynamic anchors that it binds
first. -/
def move (l : Library) (p : Place) (uri : Uri) : Place :=
  if uri = p.base then p
  else
    let names := (l.anchors.filter fun a => a.isDynamic && a.base == p.base).map (·.name)
    { p with
      base := uri
      dynamic := bindNames p.dynamic p.base names
      recursive := if isRecursive l p.base then some (p.recursive.getD p.base) else none }

/-- Leads into a schema, which may have a name of its own. -/
def enter (l : Library) (p : Place) (v : Json) : Except SchemaFault Place :=
  match p.dialect.id? v with
  | none => .ok p
  | some id =>
    match Uri.resolve? p.base id with
    | some uri => .ok (p.move l uri)
    | none => .error (.unresolved id)

/-- The tokens of a pointer lead from a schema to a place where a schema stands. -/
def leadsToSchema (d : Dialect) : List String → Bool
  | [] => true
  | key :: rest =>
    if (d.singleKeys ++ d.mixedKeys).contains key then leadsToSchema d rest
    else if (d.listKeys ++ d.memberKeys ++ d.partlyKeys).contains key then
      match rest with
      | [] => false
      | _ :: rest => leadsToSchema d rest
    else (index? key.toList).isSome && leadsToSchema d rest
where
  /-- an index of an array -/
  index? (cs : List Char) : Option Nat := Library.index? cs

/-- Follows the tokens of a pointer in the schema at a place. `path` are the keys on the way since the last
schema with a name. -/
def follow (l : Library) (outer : Dialect) (p : Place) (path : List String) (v : Json) :
    List (List Char) → Except SchemaFault (Place × Json)
  | [] => .ok (p, v)
  | token :: rest =>
    match Library.step? v token with
    | none => .error (.unresolved (String.ofList token))
    | some w =>
      let path := path ++ [String.ofList (Library.unescaped token)]
      (if leadsToSchema outer path then p.enter l w else .ok p).bind fun q =>
        follow l outer { q with dialect := q.dialect.detect w } (if q.base = p.base then path else []) w rest

/-- Leads to the schema that an anchor stands for: a dynamic one for the outermost of its name. -/
def atAnchor (l : Library) (p : Place) (a : AnchoredSchema) : Except SchemaFault (Place × Json) :=
  if a.isDynamic then
    let r := (((p.dynamic.lookup a.name).bind fun uri => l.anchor? uri a.name).getD a).resource
    (({ p with dialect := r.dialect } : Place).enter l r.contents).map fun q => (q, r.contents)
  else .ok ({ p with dialect := a.resource.dialect }, a.resource.contents)

/-- The URI and the fragment of a reference. -/
def target? (p : Place) (reference : String) : Option (Uri × List Char) :=
  match reference.toList with
  | '#' :: fragment => some (p.base, fragment)
  | cs =>
    let back := cs.reverse
    let fragment := if cs.contains '#' then (back.takeWhile (· != '#')).reverse else []
    let front := if cs.contains '#' then ((back.dropWhile (· != '#')).drop 1).reverse else cs
    (Uri.resolve? p.base (String.ofList front)).map fun uri => (uri, fragment)

/-- Leads to the schema that a reference stands for. -/
def resolve (l : Library) (p : Place) (reference : String) : Except SchemaFault (Place × Json) :=
  let unresolved : Except SchemaFault (Place × Json) := .error (.unresolved reference)
  match p.target? reference with
  | none => unresolved
  | some (uri, fragment) =>
    match l.resource? uri with
    | none => unresolved
    | some r =>
      let q := { p.move l uri with dialect := r.dialect }
      match fragment with
      | [] => .ok (q, r.contents)
      | '/' :: pointer =>
        match Library.percentDecoded? pointer with
        | some pointer => follow l r.dialect q [] r.contents (Library.tokens pointer)
        | none => unresolved
      | name =>
        match l.anchor? uri (String.ofList name) with
        | some a => atAnchor l q a
        | none => unresolved

/-- Leads to the schema of the whole dialect: the outermost resource on the way that stands for it. -/
def resolveRecursive (l : Library) (p : Place) : Except SchemaFault (Place × Json) :=
  match p.resolve l "#", p.recursive with
  | .ok (q, v), some uri => if isRecursive l p.base then q.resolve l uri.text else .ok (q, v)
  | result, _ => result

end Place

end Conformance
