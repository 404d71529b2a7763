import Conformance.Json.Reader
import Conformance.Run.Command
import Conformance.Schema.Check
import Conformance.Settings.Document
import Conformance.Url.Reader
/-!
# The program

The program runs with the readers of this project as its libraries. What they say about what they cannot read is
worded here.
-/

namespace Conformance

instance : JsonLibrary where
  read bytes :=
    match Json.ofBytes? bytes with
    | some v => .ok v
    | none => .error "not a JSON text"

/-- Schemas of the dialects. What a reference leads to is looked for in the document itself and in the documents of
the dialects; nothing is retrieved from elsewhere. -/
instance : SchemaLibrary where
  Compiled := CompiledSchema
  compile document := (CompiledSchema.ofJson document).mapError SchemaFault.text
  issue? schema v := (schema.issue? v).map Issue.text

instance : SettingsLibrary where
  read text := (Settings.read text).mapError Settings.Fault.text
  misfit _ := "unknown, missing or ill-typed key"

instance : UrlLibrary where
  parse := Url.parse
  parseHost s := Url.readHost s.toList

instance : ArgumentLibrary where
  read arguments := (Request.ofArguments arguments).mapError Misuse.text

end Conformance
