import Conformance.Json.Value
import Conformance.Storage.Disk
import Conformance.Verdict.Comparison
/-!
# Schema registries

A registry binds resource paths to schemas, each under the label it is reported by. Binding a path again
replaces what it was bound to; a document that is no schema leaves the registry as it was. As a
validator the registry judges the body of a bound path and stays silent about all others.

What a schema is and what it says about a value is up to a library, and so is what bytes are JSON.
-/

namespace Conformance

/-- A library that reads JSON texts. It says why it cannot read what it cannot read, and no law is asked of it. -/
class JsonLibrary where
  read : ByteArray → Except String Json

/-- A library of JSON schemas. It compiles documents or says why it cannot, and finds the first thing that is
wrong with a value. No law is asked of it: what compiling comes to hangs on the document alone, and what is wrong with
a value on the compiled schema and the value. -/
class SchemaLibrary where
  Compiled : Type
  compile : Json → Except String Compiled
  issue? : Compiled → Json → Option String

/-! ## Errors -/

/-- Why a schema could not be loaded. What a library says about it is kept. -/
inductive SchemaError where
  | unreadable (path : String) (error : FileError)
  | tooLarge (path : String) (size : Nat)
  | notJson (path message : String)
  | invalid (label message : String)
deriving DecidableEq, Repr

/-- The most bytes a schema file may have. -/
def maxSchemaSize : Nat := 1024 * 1024

def SchemaError.text : SchemaError → String
  | .unreadable path error => "schema " ++ path ++ ": io error: " ++ error.text
  | .tooLarge path size =>
    "schema " ++ path ++ ": exceeds size limit (" ++ Decimal.text size ++ " > " ++
      Decimal.text maxSchemaSize ++ " bytes)"
  | .notJson path message => "schema " ++ path ++ ": parse error: " ++ message
  | .invalid label message => "schema " ++ label ++ ": compile error: " ++ message

/-! ## Documents -/

/-- Reads the document of a schema file. -/
def SchemaRegistry.load [JsonLibrary] (disk : Disk) (path : String) : Except SchemaError Json :=
  match disk.read path with
  | .error error => .error (.unreadable path error)
  | .ok bytes =>
    if maxSchemaSize < bytes.size then .error (.tooLarge path bytes.size)
    else (JsonLibrary.read bytes).mapError (.notJson path)

/-! ## Labelled schemas -/

variable [SchemaLibrary]

/-- A schema and the label it is reported by. -/
structure LabelledSchema where
  label : String
  schema : SchemaLibrary.Compiled

/-- Judges a body. One that the JSON library cannot read is no instance, with what the library says about it. -/
def LabelledSchema.judge [JsonLibrary] (s : LabelledSchema) (body : ByteArray) : Judgement :=
  match JsonLibrary.read body with
  | .error message => .invalid s.label ("body is not valid JSON: " ++ message)
  | .ok v =>
    match SchemaLibrary.issue? s.schema v with
    | none => .valid s.label
    | some issue => .invalid s.label issue

/-! ## Registries -/

/-- Schemas by resource path. -/
structure SchemaRegistry where
  bindings : List (String × LabelledSchema)
  /-- each path is bound at most once -/
  distinct : (bindings.map (·.1)).Nodup

namespace SchemaRegistry

/-- The registry without schemas. -/
def empty : SchemaRegistry := ⟨[], List.nodup_nil⟩

/-- The number of bound paths. -/
def size (r : SchemaRegistry) : Nat := r.bindings.length

/-- The schema of a path in a list of bindings. -/
def find? (path : String) (bs : List (String × LabelledSchema)) : Option LabelledSchema :=
  (bs.find? fun b => b.1 == path).map (·.2)

/-- The schema of a path. -/
def get? (r : SchemaRegistry) (path : String) : Option LabelledSchema := find? path r.bindings

/-- Binds a path in a list of bindings. -/
def bindIn (path : String) (s : LabelledSchema) :
    List (String × LabelledSchema) → List (String × LabelledSchema)
  | [] => [(path, s)]
  | (p, t) :: rest => if p = path then (path, s) :: rest else (p, t) :: bindIn path s rest

theorem mem_map_bindIn {path p : String} {s : LabelledSchema} {bs : List (String × LabelledSchema)} :
    p ∈ (bindIn path s bs).map (·.1) ↔ p = path ∨ p ∈ bs.map (·.1) := by
  induction bs with
  | nil => simp [bindIn]
  | cons b rest ih =>
    obtain ⟨q, t⟩ := b
    by_cases hq : q = path
    · simp [bindIn, hq]
    · rw [bindIn, if_neg hq, List.map_cons, List.mem_cons, ih, List.map_cons, List.mem_cons]
      exact or_left_comm

theorem nodup_map_bindIn (path : String) (s : LabelledSchema) {bs : List (String × LabelledSchema)}
    (h : (bs.map (·.1)).Nodup) : ((bindIn path s bs).map (·.1)).Nodup := by
  induction bs with
  | nil => exact List.nodup_cons.2 ⟨List.not_mem_nil, List.nodup_nil⟩
  | cons b rest ih =>
    obtain ⟨q, t⟩ := b
    obtain ⟨hq, hrest⟩ := List.nodup_cons.1 h
    by_cases heq : q = path
    · rw [bindIn, if_pos heq]
      exact List.nodup_cons.2 ⟨heq ▸ hq, hrest⟩
    · rw [bindIn, if_neg heq]
      exact List.nodup_cons.2 ⟨mt mem_map_bindIn.1 (not_or.2 ⟨heq, hq⟩), ih hrest⟩

/-- Binds a path to a schema, in place of the one it was bound to. -/
def bind (r : SchemaRegistry) (path : String) (s : LabelledSchema) : SchemaRegistry :=
  ⟨bindIn path s r.bindings, nodup_map_bindIn path s r.distinct⟩

/-- Binds a path to a document under a label. -/
def insert (r : SchemaRegistry) (path label : String) (document : Json) :
    Except SchemaError SchemaRegistry :=
  match SchemaLibrary.compile document with
  | .ok schema => .ok (r.bind path ⟨label, schema⟩)
  | .error message => .error (.invalid label message)

theorem find?_bindIn (path q : String) (s : LabelledSchema) (bs : List (String × LabelledSchema)) :
    find? q (bindIn path s bs) = if path = q then some s else find? q bs := by
  induction bs with
  | nil => by_cases h : path = q <;> simp [find?, bindIn, h]
  | cons b rest ih =>
    obtain ⟨p, t⟩ := b
    simp only [find?] at ih
    by_cases hp : p = path
    · subst hp
      by_cases h : p = q <;> simp [find?, bindIn, h]
    · by_cases hq : p = q
      · subst hq
        simp [find?, bindIn, hp, Ne.symm hp]
      · simp [find?, bindIn, hp, hq, ih]

theorem get?_bind (r : SchemaRegistry) (path q : String) (s : LabelledSchema) :
    (r.bind path s).get? q = if path = q then some s else r.get? q :=
  find?_bindIn path q s r.bindings

/-- The registry as a validator. -/
def validator [JsonLibrary] (r : SchemaRegistry) : Validator := fun resource body =>
  match r.get? resource.path with
  | none => .notPerformed
  | some s => s.judge body

end SchemaRegistry

end Conformance
