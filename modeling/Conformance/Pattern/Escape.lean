import Conformance.Pattern.Basic
import Conformance.Number.Decimal
/-!
# Escapes in patterns

What a backslash and the characters behind it stand for, under the flags in force. The classes of digits,
word characters and blanks are ASCII classes unless the pattern takes them wide.

A pattern is read strictly up to the first look ahead or behind, and freely from there on: what is free
knows more escapes.
-/

namespace Conformance.Pattern

/-! ## Flags -/

/-- How the part of a pattern at hand is read. -/
structure Flags where
  ignoreCase : Bool
  multiLine : Bool
  dotAll : Bool
  /-- blanks and comments do not count -/
  spaced : Bool
  /-- classes reach beyond ASCII -/
  wide : Bool
deriving DecidableEq, Repr

namespace Flags

/-- Switches a flag on or off. Some flags say how to search, not what to find. -/
def set? (f : Flags) (on : Bool) : Char → Option Flags
  | 'i' => some { f with ignoreCase := on }
  | 'm' => some { f with multiLine := on }
  | 's' => some { f with dotAll := on }
  | 'x' => some { f with spaced := on }
  | 'U' | 'R' => some f
  | 'u' => if on then some f else none
  | _ => none

/-- Switches the flags of a list, behind a minus sign off. No flag stands twice. -/
def setAll? (f : Flags) (on : Bool) (met : List Char) : List Char → Option Flags
  | [] => some f
  | '-' :: cs => if !on || cs.isEmpty then none else setAll? f false met cs
  | c :: cs =>
    if met.contains c then none else (f.set? on c).bind fun f => setAll? f on (c :: met) cs

/-- A set as it is meant under the flags. -/
def meant (f : Flags) (s : CharSet) : CharSet := if f.ignoreCase then s.ignoringCase else s

/-- Drops blanks and comments, from inside a comment or not. -/
def dropSpace (inComment : Bool) : List Char → List Char
  | [] => []
  | c :: cs =>
    if inComment then dropSpace (c != '\n') cs
    else if Text.isBlank c then dropSpace false cs
    else if c == '#' then dropSpace true cs
    else c :: cs

/-- The text without blanks and comments in front that do not count. -/
def ready (f : Flags) (cs : List Char) : List Char := if f.spaced then dropSpace false cs else cs

end Flags

/-! ## Escapes -/

/-- What an escape stands for. -/
inductive Escape where
  | char (c : Char)
  | set (s : CharSet)
  | place (b : Boundary)

namespace Escape

/-- The character of a code point. -/
def scalar? (n : Nat) : Option Char := if n.isValidChar then some (Char.ofNat n) else none

/-- Reads a code point: as many digits as given, or any number of them in braces. -/
def codePoint? (count : Nat) (cs : List Char) : Option (Char × List Char) :=
  let (digits, rest) := match cs with
    | '\x7b' :: cs =>
      let (digits, rest) := cs.span (· != '\x7d')
      (digits, if rest.isEmpty then none else some (rest.drop 1))
    | cs => (cs.take count, if count ≤ cs.length then some (cs.drop count) else none)
  rest.bind fun rest =>
    if !digits.isEmpty && digits.all (Radix.isDigit 16) then
      (scalar? (Radix.value 16 digits)).map fun c => (c, rest)
    else none

/-! ## Properties -/

/-- The name of a property or of a value, without the word in front that only says that it is one. -/
def propertyName (cs : List Char) : String :=
  let rest := match cs with
    | i :: s :: rest => if i.toLower = 'i' ∧ s.toLower = 's' then rest else cs
    | cs => cs
  Unicode.Category.looseName rest

/-- Names of properties that stand for categories or kinds of properties all the same. -/
def reserved : List String := ["cf", "sc", "lc"]

/-- The set of a name that stands alone: of a property, of categories, or of a script. -/
def named? (name : String) : Option CharSet :=
  match if reserved.contains name then none else Unicode.Property.ofName? name with
  | some p => some (.property p)
  | none =>
    if name = "ascii" then some (.range '\x00' '\x7f')
    else
      match Unicode.Category.ofName? name with
      | some names => some (.categories names)
      | none => (Unicode.Script.ofName? name).map fun k => .script k false

/-- The set of a value of a kind of properties. -/
def valued? (kind value : String) : Option CharSet :=
  match kind with
  | "gc" | "generalcategory" => (Unicode.Category.ofName? value).map .categories
  | "sc" | "script" => (Unicode.Script.ofName? value).map fun k => .script k false
  | "scx" | "scriptextensions" => (Unicode.Script.ofName? value).map fun k => .script k true
  | _ => none

/-- The set of the text of a property: a name, or a kind with a value it has or has not. -/
def property? (text : List Char) : Option CharSet :=
  let (kind, value) := text.span fun c => c != '=' && c != ':'
  if value.isEmpty then named? (propertyName text)
  else
    let name := propertyName (value.drop 1)
    if kind.getLast? = some '!' ∧ value.head? = some '=' then
      (valued? (propertyName kind.dropLast) name).map .not
    else valued? (propertyName kind) name

/-- Reads a property: one letter, or a text in braces. -/
def readProperty? : List Char → Option (CharSet × List Char)
  | '\x7b' :: cs =>
    let (text, rest) := cs.span (· != '\x7d')
    if rest.isEmpty then none else (property? text).map fun s => (s, rest.drop 1)
  | c :: cs => (property? [c]).map fun s => (s, cs)
  | [] => none

/-! ## Reading -/

/-- The places named in braces. -/
def namedPlaces : List (List Char × Boundary) :=
  [("\x7bstart\x7d".toList, .wordStart), ("\x7bend\x7d".toList, .wordEnd)]

/-- Reads the edge of a word. -/
def readEdge (cs : List Char) : Boundary × List Char :=
  match namedPlaces.find? fun p => p.1.isPrefixOf cs with
  | some (name, b) => (b, cs.drop name.length)
  | none => (.wordEdge, cs)

/-- Escaped, a character that is neither a letter nor a digit stands for itself. -/
def isSelf (c : Char) : Bool := c.toNat < 0x80 && !c.isAlphanum

/-- The class of a letter. -/
def classOf? (wide : Bool) : Char → Option CharSet
  | 'd' => some (if wide then .wideDigit else .digit)
  | 'w' => some (if wide then .wideWord else .word)
  | 's' => some (if wide then .wideBlank else .ofText CharSet.blanks)
  | 'D' => some (.not (if wide then .wideDigit else .digit))
  | 'W' => some (.not (if wide then .wideWord else .word))
  | 'S' => some (.not (if wide then .wideBlank else .ofText CharSet.blanks))
  | _ => none

/-- The control character of a letter. -/
def control (c : Char) : Char := Char.ofNat (c.toNat % 32)

/-- The digits to base 16. -/
def hexDigit : CharSet := .property .asciiHexDigit

/-- The escape of a letter that is known where patterns are read freely. -/
def freeLetter? : Char → Option Escape
  | 'h' => some (.set hexDigit)
  | 'H' => some (.set (.not hexDigit))
  | 'e' => some (.char '\x1b')
  | 'Z' => some (.place .lastLineEnds)
  | _ => none

/-- Reads what stands behind a backslash. -/
def read? (f : Flags) (free : Bool) : List Char → Option (Escape × List Char)
  | [] => none
  | c :: cs =>
    match c with
    | 'n' => some (.char '\n', cs)
    | 't' => some (.char '\t', cs)
    | 'r' => some (.char '\r', cs)
    | 'a' => some (.char '\x07', cs)
    | 'f' => some (.char '\x0c', cs)
    | 'v' => some (.char '\x0b', cs)
    | 'x' => (codePoint? 2 cs).map fun (c, rest) => (.char c, rest)
    | 'u' => (codePoint? 4 cs).map fun (c, rest) => (.char c, rest)
    | 'U' => (codePoint? 8 cs).map fun (c, rest) => (.char c, rest)
    | 'c' =>
      match cs with
      | letter :: rest => if letter.isAlpha && !free then some (.char (control letter), rest) else none
      | [] => none
    | 'p' => (readProperty? cs).map fun (s, rest) => (.set s, rest)
    | 'P' => (readProperty? cs).map fun (s, rest) => (.set (.not s), rest)
    | 'A' => some (.place .textStart, cs)
    | 'z' => some (.place .textEnd, cs)
    | 'b' =>
      let (b, rest) := readEdge cs
      some (.place b, rest)
    | 'B' => some (.place .noWordEdge, cs)
    | '<' => some (.place .wordStart, cs)
    | '>' => some (.place .wordEnd, cs)
    | c =>
      match classOf? f.wide c, if free then freeLetter? c else none with
      | some s, _ => some (.set s, cs)
      | none, some e => some (e, cs)
      | none, none => if isSelf c then some (.char c, cs) else none

end Escape

end Conformance.Pattern
