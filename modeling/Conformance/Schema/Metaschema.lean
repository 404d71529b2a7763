import Conformance.Schema.Dialect
/-!
# Schemas of schemas

For each dialect the documents that describe its schemas, down to the parts that judge them. The later
dialects have one document for every vocabulary and one that takes them together.
-/

namespace Conformance.Metaschema

/-! ## Words -/

/-- A text. -/
def text (s : String) : Json := .string s

/-- A schema with one keyword. -/
def only (key : String) (v : Json) : Json := .object [(key, v)]

/-- A reference. -/
def reference (s : String) : Json := only "$ref" (text s)

/-- The schema of values of a type. -/
def typed (name : String) : Json := only "type" (text name)

/-- A schema that accepts everything. -/
def anything : Json := .boolean true

/-- Members with one value for several keys. -/
def each (keys : List String) (v : Json) : List (String × Json) := keys.map fun k => (k, v)

/-- The schema of texts of a format. -/
def formatted (format : String) : Json :=
  .object [("type", text "string"), ("format", text format)]

/-- The schema of arrays. -/
def arrayOf (items : Json) (more : List (String × Json)) : Json :=
  .object ([("type", text "array"), ("items", items)] ++ more)

/-- The schema of objects whose members have a schema. -/
def objectOf (members : Json) : Json :=
  .object [("type", text "object"), ("additionalProperties", members)]

/-- One or more items. -/
def filled : List (String × Json) := [("minItems", .nat 1)]

/-- No item twice. -/
def distinct : List (String × Json) := [("uniqueItems", .boolean true)]

/-- The types of values. -/
def simpleTypes : Json :=
  only "enum"
    (.array (["array", "boolean", "integer", "null", "number", "object", "string"].map text))

/-- A type or several, given where the types are described. -/
def typeKeyword (types : String) : Json :=
  only "anyOf" (.array [reference types, arrayOf (reference types) (filled ++ distinct)])

/-- The type of schemas. -/
def schemaType : String × Json := ("type", .array [text "object", text "boolean"])

/-- The keywords that limit sizes from above. -/
def upperSizes : List String := ["maxLength", "maxItems", "maxProperties"]

/-- The keywords that limit sizes from below. -/
def lowerSizes : List String := ["minLength", "minItems", "minProperties"]

/-- The schema of a number of things. -/
def natural : Json := .object [("type", text "integer"), ("minimum", .nat 0)]

/-! ## Early dialects -/

/-- A schema in the same document. -/
def here : Json := reference "#"

/-- Schemas in a list. -/
def hereList : Json := arrayOf here filled

/-- What the early dialects have in common behind the fourth draft: keywords of values, and keywords that
hold schemas. -/
def earlyProperties (d : Dialect) : List (String × Json) :=
  [("$id", formatted "uri-reference"), ("$schema", formatted "uri"), ("$ref", formatted "uri-reference"),
    ("default", anything), ("examples", arrayOf anything []),
    ("multipleOf", .object [("type", text "number"), ("exclusiveMinimum", .nat 0)])] ++
  each ["title", "description", "format"] (typed "string") ++
  each ["maximum", "exclusiveMaximum", "minimum", "exclusiveMinimum"] (typed "number") ++
  each upperSizes (reference "#/definitions/nonNegativeInteger") ++
  each lowerSizes (reference "#/definitions/nonNegativeIntegerDefault0") ++
  [("pattern", formatted "regex"), ("uniqueItems", typed "boolean"),
    ("items", only "anyOf" (.array [here, reference "#/definitions/schemaArray"])),
    ("required", reference "#/definitions/stringArray"), ("const", anything),
    ("enum", arrayOf anything (if d = .draft6 then filled ++ distinct else [])),
    ("type", typeKeyword "#/definitions/simpleTypes"), ("definitions", objectOf here),
    ("properties", objectOf here),
    ("patternProperties", .object [("type", text "object"), ("additionalProperties", here),
      ("propertyNames", only "format" (text "regex"))]),
    ("dependencies", objectOf (only "anyOf" (.array [here, reference "#/definitions/stringArray"])))] ++
  each ["additionalItems", "contains", "additionalProperties", "propertyNames", "not"] here ++
  each ["allOf", "anyOf", "oneOf"] (reference "#/definitions/schemaArray")

/-- What the seventh draft adds. -/
def addedIn7 : List (String × Json) :=
  each ["$comment", "contentMediaType", "contentEncoding"] (typed "string") ++
  each ["readOnly", "writeOnly"] (typed "boolean") ++ each ["if", "then", "else"] here

/-- The schema of the sixth or the seventh draft. -/
def ofEarly (d : Dialect) : Json :=
  .object [("$schema", text (d.name ++ "#")), ("$id", text (d.name ++ "#")), schemaType,
    ("definitions", .object [("schemaArray", hereList), ("nonNegativeInteger", natural),
      ("nonNegativeIntegerDefault0", only "allOf"
        (.array [reference "#/definitions/nonNegativeInteger", only "default" (.nat 0)])),
      ("simpleTypes", simpleTypes), ("stringArray", arrayOf (typed "string") distinct)]),
    ("properties", .object (earlyProperties d ++ if d = .draft7 then addedIn7 else []))]

/-- The schema of the fourth draft. -/
def of4 : Json :=
  let orSchema : Json := only "anyOf" (.array [typed "boolean", here])
  .object [("id", text (Dialect.draft4.name ++ "#")), ("$schema", text (Dialect.draft4.name ++ "#")),
    ("type", text "object"),
    ("definitions", .object [("schemaArray", hereList), ("positiveInteger", natural),
      ("positiveIntegerDefault0", only "allOf"
        (.array [reference "#/definitions/positiveInteger", only "default" (.nat 0)])),
      ("simpleTypes", simpleTypes), ("stringArray", arrayOf (typed "string") (filled ++ distinct))]),
    ("properties", .object (
      each ["id", "$schema", "title", "description", "format"] (typed "string") ++
      [("default", .object []), ("multipleOf", .object [("type", text "number"), ("minimum", .nat 0),
        ("exclusiveMinimum", .boolean true)])] ++
      each ["maximum", "minimum"] (typed "number") ++
      each ["exclusiveMaximum", "exclusiveMinimum", "uniqueItems"] (typed "boolean") ++
      each upperSizes (reference "#/definitions/positiveInteger") ++
      each lowerSizes (reference "#/definitions/positiveIntegerDefault0") ++
      [("pattern", formatted "regex"),
        ("items", only "anyOf" (.array [here, reference "#/definitions/schemaArray"])),
        ("required", reference "#/definitions/stringArray"), ("not", here),
        ("enum", .object [("type", text "array"), ("minItems", .nat 1), ("uniqueItems", .boolean true)]),
        ("type", typeKeyword "#/definitions/simpleTypes"),
        ("dependencies", objectOf
          (only "anyOf" (.array [here, reference "#/definitions/stringArray"])))] ++
      each ["additionalItems", "additionalProperties"] orSchema ++
      each ["definitions", "properties", "patternProperties"] (objectOf here) ++
      each ["allOf", "anyOf", "oneOf"] (reference "#/definitions/schemaArray"))),
    ("dependencies", .object [("exclusiveMaximum", .array [text "maximum"]),
      ("exclusiveMinimum", .array [text "minimum"])])]

/-! ## Dialects with vocabularies -/

/-- A schema of the whole dialect, from inside one of its vocabularies. -/
def whole (d : Dialect) : Json :=
  if d = .draft2019 then only "$recursiveRef" (text "#") else only "$dynamicRef" (text "#meta")

/-- The mark by which a document can stand for the whole dialect. -/
def mark (d : Dialect) : String × Json :=
  if d = .draft2019 then ("$recursiveAnchor", .boolean true) else ("$dynamicAnchor", text "meta")

/-- The description of one vocabulary. -/
def vocabulary (d : Dialect) (name : String) (properties definitions : List (String × Json)) : Json :=
  .object [("$schema", text d.name), ("$id", text (d.home ++ "meta/" ++ name)),
    ("$vocabulary", .object [(d.home ++ "vocab/" ++ name, .boolean true)]), mark d, schemaType,
    ("properties", .object properties), ("$defs", .object definitions)]

/-- The form of the name of a schema. -/
def idPattern : String × Json := ("pattern", text "^[^#]*#?$")

/-- Names and references. -/
def core (d : Dialect) : Json :=
  let comment : List (String × Json) := [("$comment", typed "string"), ("$defs", objectOf (whole d))]
  if d = .draft2019 then
    vocabulary d "core"
      ([("$id", .object [("type", text "string"), ("format", text "uri-reference"), idPattern]),
        ("$schema", formatted "uri"),
        ("$anchor", .object [("type", text "string"), ("pattern", text "^[A-Za-z][-A-Za-z0-9.:_]*$")]),
        ("$ref", formatted "uri-reference"), ("$recursiveRef", formatted "uri-reference"),
        ("$recursiveAnchor", typed "boolean"),
        ("$vocabulary", .object [("type", text "object"), ("propertyNames", formatted "uri"),
          ("additionalProperties", typed "boolean")])] ++ comment) []
  else
    vocabulary d "core"
      ([("$id", .object [("$ref", text "#/$defs/uriReferenceString"), idPattern]),
        ("$schema", reference "#/$defs/uriString"), ("$ref", reference "#/$defs/uriReferenceString"),
        ("$anchor", reference "#/$defs/anchorString"),
        ("$dynamicRef", reference "#/$defs/uriReferenceString"),
        ("$dynamicAnchor", reference "#/$defs/anchorString"),
        ("$vocabulary", .object [("type", text "object"),
          ("propertyNames", reference "#/$defs/uriString"),
          ("additionalProperties", typed "boolean")])] ++ comment)
      [("anchorString",
          .object [("type", text "string"), ("pattern", text "^[A-Za-z_][-A-Za-z0-9._]*$")]),
        ("uriString", formatted "uri"), ("uriReferenceString", formatted "uri-reference")]

/-- Keywords that hold schemas. -/
def applicator (d : Dialect) : Json :=
  let list : Json := reference "#/$defs/schemaArray"
  let own : List (String × Json) :=
    if d = .draft2019 then
      ("items", only "anyOf" (.array [whole d, list])) ::
        each ["additionalItems", "unevaluatedItems", "unevaluatedProperties"] (whole d)
    else [("prefixItems", list), ("items", whole d)]
  vocabulary d "applicator"
    (own ++
      each ["contains", "additionalProperties", "propertyNames", "if", "then", "else", "not"] (whole d) ++
      each ["properties", "dependentSchemas"] (objectOf (whole d)) ++
      [("patternProperties", .object [("type", text "object"), ("additionalProperties", whole d),
        ("propertyNames", only "format" (text "regex"))])] ++
      each ["allOf", "anyOf", "oneOf"] list)
    [("schemaArray", arrayOf (whole d) filled)]

/-- Keywords for what other keywords leave over. -/
def unevaluated (d : Dialect) : Json :=
  vocabulary d "unevaluated" (each ["unevaluatedItems", "unevaluatedProperties"] (whole d)) []

/-- Keywords that judge one value. -/
def validation (d : Dialect) : Json :=
  vocabulary d "validation"
    ([("type", typeKeyword "#/$defs/simpleTypes"), ("const", anything), ("enum", arrayOf anything []),
      ("multipleOf", .object [("type", text "number"), ("exclusiveMinimum", .nat 0)]),
      ("pattern", formatted "regex"), ("uniqueItems", typed "boolean"),
      ("required", reference "#/$defs/stringArray"),
      ("dependentRequired", objectOf (reference "#/$defs/stringArray"))] ++
      each ["maximum", "exclusiveMaximum", "minimum", "exclusiveMinimum"] (typed "number") ++
      each (["maxContains", "minContains"] ++ upperSizes) (reference "#/$defs/nonNegativeInteger") ++
      each lowerSizes (reference "#/$defs/nonNegativeIntegerDefault0"))
    [("nonNegativeInteger", natural),
      ("nonNegativeIntegerDefault0", .object [("$ref", text "#/$defs/nonNegativeInteger"),
        ("default", .nat 0)]),
      ("simpleTypes", simpleTypes), ("stringArray", arrayOf (typed "string") distinct)]

/-- Keywords that describe. -/
def metaData (d : Dialect) : Json :=
  vocabulary d "meta-data"
    (each ["title", "description"] (typed "string") ++ [("default", anything)] ++
      each ["deprecated", "readOnly", "writeOnly"] (typed "boolean") ++
      [("examples", arrayOf anything [])]) []

/-- The keyword for formats, under the name of a vocabulary. -/
def format (d : Dialect) (name : String) : Json := vocabulary d name [("format", typed "string")] []

/-- Keywords about the contents of texts. -/
def content (d : Dialect) : Json :=
  vocabulary d "content"
    (each ["contentMediaType", "contentEncoding"] (typed "string") ++ [("contentSchema", whole d)]) []

/-- The vocabularies a dialect takes together. -/
def parts : Dialect → List String
  | .draft2019 => ["core", "applicator", "validation", "meta-data", "format", "content"]
  | _ => ["core", "applicator", "unevaluated", "validation", "meta-data", "format-annotation", "content"]

/-- Keywords of earlier dialects, which keep their form. -/
def retired (d : Dialect) : List (String × Json) :=
  [("definitions", objectOf (whole d)),
    ("dependencies", objectOf
      (only "anyOf" (.array [whole d, reference "meta/validation#/$defs/stringArray"])))] ++
  if d = .draft2019 then []
  else
    [("$recursiveAnchor", reference "meta/core#/$defs/anchorString"),
      ("$recursiveRef", reference "meta/core#/$defs/uriReferenceString")]

/-- The schema of a dialect with vocabularies. -/
def together (d : Dialect) : Json :=
  .object [("$schema", text d.name), ("$id", text d.name),
    ("$vocabulary", .object ((parts d).map fun p => (d.home ++ "vocab/" ++ p, .boolean true))), mark d,
    ("allOf", .array ((parts d).map fun p => reference ("meta/" ++ p))), schemaType,
    ("properties", .object (retired d))]

/-! ## Documents -/

/-- The documents of a dialect with vocabularies. -/
def documentsOf (d : Dialect) : List Json :=
  let formats := if d = .draft2019 then ["format"] else ["format-annotation", "format-assertion"]
  [together d, core d, applicator d, validation d, metaData d, content d] ++ formats.map (format d) ++
    if d = .draft2019 then [] else [unevaluated d]

/-- All documents, with their names and dialects. -/
def documents : List (String × Dialect × Json) :=
  let early := [Dialect.draft4, .draft6, .draft7].map fun d =>
    (d.name, d, if d = .draft4 then of4 else ofEarly d)
  let late := [Dialect.draft2019, .draft2020].flatMap fun d =>
    (documentsOf d).map fun v => (((v.get? "$id").bind Json.string?).getD "", d, v)
  (early ++ late).map fun (name, d, v) => (name, d, v.sorted)

end Conformance.Metaschema
