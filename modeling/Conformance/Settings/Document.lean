import Conformance.Settings.Literal
import Conformance.Settings.Scalar
import Conformance.Settings.Tree
/-!
# Settings documents

A settings document is a sequence of statements, each on lines of its own: headers, which open a table, and
assignments of a value to a key of the open table. `Settings.read` gives the document as one object.
Values are strings, scalars, arrays and inline tables.

Arrays and inline tables may run over several lines and end with a comma; in an inline table line ends may
stand around the equals sign as well. The reader of values spends one unit of fuel on every call, and starts
with more units than the text has characters.
-/

namespace Conformance.Settings

/-! ## Values -/

/-- How many arrays and inline tables may be open at once, and how many keys a path may have. -/
def deepest : Nat := 80

/-- Reads a path and the equals sign behind it. -/
def target? (cs : List Char) : Option (List String × List Char) :=
  (path? deepest cs).bind fun (path, rest) =>
    match rest with
    | '=' :: rest => some (path, rest)
    | _ => none

/-- Reads a path and the equals sign behind it, with line ends around the sign if wanted. -/
def looseTarget? (cs : List Char) : Option (List String × List Char) :=
  (path? deepest cs).bind fun (path, rest) =>
    match skipLines? false rest with
    | some ('=' :: rest) => (skipLines? false rest).map fun rest => (path, rest)
    | _ => none

mutual

/-- Reads a value, with `depth` more levels of nesting allowed. -/
def readValue (fuel depth : Nat) (cs : List Char) : Option (Json × List Char) :=
  match fuel, depth, skipBlanks cs with
  | 0, _, _ => none
  | _ + 1, 0, '[' :: _ | _ + 1, 0, '\x7b' :: _ => none
  | fuel + 1, depth + 1, '[' :: rest =>
    (readItems fuel depth [] rest).map fun (xs, rest) => (.array xs, rest)
  | fuel + 1, depth + 1, '\x7b' :: rest =>
    (readPairs fuel depth [] rest).map fun (es, rest) => (.object (members es), rest)
  | _ + 1, _, '"' :: rest => (string? ('"' :: rest)).map fun (s, rest) => (.string s, rest)
  | _ + 1, _, '\'' :: rest => (string? ('\'' :: rest)).map fun (s, rest) => (.string s, rest)
  | _ + 1, _, cs =>
    let (word, rest) := spanWord cs
    (word? word).map fun v => (v, rest)

/-- Reads the items of an array up to its closing bracket. -/
def readItems (fuel depth : Nat) (done : List Json) (cs : List Char) :
    Option (List Json × List Char) :=
  match fuel, skipLines? false cs with
  | 0, _ | _, none => none
  | _ + 1, some (']' :: rest) => some (done.reverse, rest)
  | fuel + 1, some cs =>
    (readValue fuel depth cs).bind fun (v, rest) =>
      match skipLines? false rest with
      | some (',' :: rest) => readItems fuel depth (v :: done) rest
      | some (']' :: rest) => some ((v :: done).reverse, rest)
      | _ => none

/-- Reads the assignments of an inline table up to its closing brace. -/
def readPairs (fuel depth : Nat) (done : Entries) (cs : List Char) : Option (Entries × List Char) :=
  match fuel, skipLines? false cs with
  | 0, _ | _, none => none
  | _ + 1, some ('\x7d' :: rest) => some (done, rest)
  | fuel + 1, some cs =>
    (looseTarget? cs).bind fun (path, rest) =>
      (readValue fuel depth rest).bind fun (v, rest) =>
        (done.assign? path v).bind fun done =>
          match skipLines? false rest with
          | some (',' :: rest) => readPairs fuel depth done rest
          | some ('\x7d' :: rest) => some (done, rest)
          | _ => none

end

/-! ## Statements -/

/-- Reads the path of a header and the closing brackets behind it. -/
def header? (close : List Char) (cs : List Char) : Option (List String × List Char) :=
  (path? deepest cs).bind fun (path, rest) =>
    if close.isPrefixOf rest then some (path, rest.drop close.length) else none

/-- Reads a statement without the end of its line. -/
def statement? : List Char → Option (Statement × List Char)
  | '[' :: '[' :: cs => (header? [']', ']'] cs).map fun (path, rest) => (.next path, rest)
  | '[' :: cs => (header? [']'] cs).map fun (path, rest) => (.table path, rest)
  | cs =>
    (target? cs).bind fun (path, rest) =>
      (readValue (2 * rest.length + 2) deepest rest).map fun (v, rest) => (.assign path v, rest)

/-! ## Documents -/

/-- Why a text is no settings document. -/
inductive Fault where
  /-- a line that starts no statement -/
  | malformed (line : Nat)
  /-- a statement about what is closed or already there -/
  | conflict (line : Nat)
deriving DecidableEq, Repr

def Fault.text : Fault → String
  | .malformed line => "line " ++ Decimal.text line ++ ": malformed statement"
  | .conflict line => "line " ++ Decimal.text line ++ ": table or key is already defined"

/-- The number of the line of a text on which a later part of it starts. -/
def lineOf (text rest : List Char) : Nat := (text.take (text.length - rest.length)).count '\n' + 1

/-- Reads a statement to the end of its line. -/
def wholeStatement? (cs : List Char) : Option (Statement × List Char) :=
  (statement? cs).bind fun (s, rest) => (endLine? rest).map fun rest => (s, rest)

/-- Adds the statements in the rest `cs` of a text to a document; fuel bounds their number. -/
def readStatements (fuel : Nat) (text : List Char) (d : Draft) (cs : List Char) : Except Fault Draft :=
  match fuel, skipLines? false cs with
  | 0, _ | _, none => .error (.malformed (lineOf text cs))
  | _ + 1, some [] => .ok d
  | fuel + 1, some cs =>
    match wholeStatement? cs with
    | none => .error (.malformed (lineOf text cs))
    | some (s, rest) =>
      match d.add? s with
      | none => .error (.conflict (lineOf text cs))
      | some d => readStatements fuel text d rest

/-- A text without the byte order mark it may start with. -/
def dropMark : List Char → List Char
  | c :: cs => if c.toNat = 0xfeff then cs else c :: cs
  | [] => []

/-- Reads a settings document. -/
def read (text : String) : Except Fault Json :=
  let cs := dropMark text.toList
  (readStatements (cs.length + 1) cs .empty cs).map Draft.toJson

end Conformance.Settings
