import Conformance.Json.Value
/-!
# Tables of a settings document

A settings document fills a tree of tables. A table is opened once by a header, made on the way to another
header, or made by a dotted key; these differ in who may still add to it. Values and inline tables are
closed as soon as they are written.
-/

namespace Conformance.Settings

/-- How a table came about. -/
inductive Origin where
  /-- opened by its own header -/
  | header
  /-- made on the way to another header -/
  | passage
  /-- made by a dotted key -/
  | dotted
deriving DecidableEq, Repr

/-- What stands at a key. -/
inductive Node where
  | closed (value : Json)
  | table (origin : Origin) (entries : List (String × Node))
  /-- tables under one header in double brackets; the last one is open, the others newest first -/
  | series (closed : List Json) (last : List (String × Node))

/-- The entries of an open table, each key once, newest first. -/
abbrev Entries := List (String × Node)

/-! ## As values -/

mutual

/-- The value of a node. -/
def Node.toJson : Node → Json
  | .closed value => value
  | .table _ entries => .object (members entries)
  | .series closed last => .array (closed.reverse ++ [.object (members last)])

/-- The members of a table. -/
def members : List (String × Node) → List (String × Json)
  | [] => []
  | (k, node) :: rest => (k, node.toJson) :: members rest

end

/-! ## Adding entries -/

namespace Entries

/-- The node at a key. -/
def get? (es : Entries) (key : String) : Option Node := es.lookup key

/-- Puts another node at a key that is there, or a new one in front. -/
def set (key : String) (node : Node) : Entries → Entries
  | [] => [(key, node)]
  | (k, n) :: rest => if k = key then (key, node) :: rest else (k, n) :: set key node rest

/-- Adds a node at a key that is not there yet. -/
def insert? (es : Entries) (key : String) (node : Node) : Option Entries :=
  if (es.get? key).isSome then none else some ((key, node) :: es)

/-- Who walks along a path: a header, or a dotted key. -/
inductive Walker where
  | header
  | key
deriving DecidableEq, Repr

/-- The origin of the tables a walker makes on its way. -/
def Walker.makes : Walker → Origin
  | .header => .passage
  | .key => .dotted

/-- A dotted key adds to no table that has a header of its own. -/
def Walker.mayEnter : Walker → Origin → Bool
  | .header, _ => true
  | .key, origin => origin != .header

/-- Changes the table at the end of a path, making the tables on the way that are missing. A header that
meets a series goes to its last table; a dotted key must not meet one. -/
def change? (w : Walker) (f : Entries → Option Entries) : List String → Entries → Option Entries
  | [], es => f es
  | k :: path, es =>
    match es.get? k with
    | none => (change? w f path []).map fun inner => (k, .table w.makes inner) :: es
    | some (.table origin inner) =>
      if w.mayEnter origin then
        (change? w f path inner).map fun inner => set k (.table origin inner) es
      else none
    | some (.series closed last) =>
      if w = .header then
        (change? w f path last).map fun last => set k (.series closed last) es
      else none
    | some (.closed _) => none

/-- Opens the table of a header. A table is opened once, unless it was only passed through before. -/
def openTable? (key : String) (es : Entries) : Option Entries :=
  match es.get? key with
  | none => some ((key, .table .header []) :: es)
  | some (.table .passage inner) => some (set key (.table .header inner) es)
  | some _ => none

/-- Opens the next table of a series. -/
def openNext? (key : String) (es : Entries) : Option Entries :=
  match es.get? key with
  | none => some ((key, .series [] []) :: es)
  | some (.series closed last) =>
    some (set key (.series (.object (members last) :: closed) []) es)
  | some _ => none

/-- Assigns a value to a dotted key. -/
def assign? (path : List String) (value : Json) (es : Entries) : Option Entries :=
  match path.getLast? with
  | none => none
  | some key => change? .key (fun es => es.insert? key (.closed value)) path.dropLast es

end Entries

/-! ## Statements -/

/-- A statement of a settings document. -/
inductive Statement where
  /-- a header in brackets -/
  | table (path : List String)
  /-- a header in double brackets -/
  | next (path : List String)
  | assign (path : List String) (value : Json)

/-- A document under way: what it holds, and the header that is in force. -/
structure Draft where
  entries : Entries
  header : List String

namespace Draft

/-- The empty document. -/
def empty : Draft := ⟨[], []⟩

/-- The document after a header, `enter` opening the table at its last key. -/
def head? (d : Draft) (enter : String → Entries → Option Entries) (path : List String) : Option Draft :=
  match path.getLast? with
  | none => none
  | some key =>
    (Entries.change? .header (enter key) path.dropLast d.entries).map fun entries => ⟨entries, path⟩

/-- The document after one more statement; none if the statement touches what is closed. -/
def add? (d : Draft) : Statement → Option Draft
  | .table path => d.head? Entries.openTable? path
  | .next path => d.head? Entries.openNext? path
  | .assign path value =>
    (Entries.change? .header (Entries.assign? path value) d.header d.entries).map
      fun entries => { d with entries := entries }

/-- The value of a document. -/
def toJson (d : Draft) : Json := .object (members d.entries)

end Draft

end Conformance.Settings
