import Conformance.Json.Value
import Conformance.Text.Character
/-!
# Writing JSON

A value is written as its tokens, with the blanks of a layout between them: `compact` has none, `pretty` puts
every item and member on a line of its own, indented by two spaces per level. Strings escape the quote, the
backslash and the characters below U+0020 and nothing else, so no layout has a line feed inside a string.
-/

namespace Conformance.Json

/-! ## Scalars -/

/-- A lower-case hexadecimal digit. -/
def hexDigit (n : Nat) : Char := if n < 10 then Char.ofNat (48 + n) else Char.ofNat (87 + n)

/-- The written form of a character inside a string. -/
def escape (c : Char) : List Char :=
  if c = '"' then ['\\', '"']
  else if c = '\\' then ['\\', '\\']
  else if c = '\n' then ['\\', 'n']
  else if c = '\r' then ['\\', 'r']
  else if c = '\t' then ['\\', 't']
  else if c.toNat = 8 then ['\\', 'b']
  else if c.toNat = 12 then ['\\', 'f']
  else if c.toNat < 32 then ['\\', 'u', '0', '0', hexDigit (c.toNat / 16), hexDigit (c.toNat % 16)]
  else [c]

/-- The written form of a string. -/
def quoted (s : String) : List Char := '"' :: s.toList.flatMap escape ++ ['"']

/-- The written form of a number. -/
def Number.written : Number → List Char
  | .integer n => Decimal.signed n
  | .binary x => x.written

/-! ## Layouts -/

/-- The blanks between the items or members of a level, and those behind a colon. -/
structure Layout where
  gap : Nat → List Char
  colon : List Char
  blank_gap : ∀ level, (gap level).all Text.isJsonBlank = true
  blank_colon : colon.all Text.isJsonBlank = true

namespace Layout

/-- A line feed and the indentation of a level. -/
def newline (level : Nat) : List Char := '\n' :: List.replicate (2 * level) ' '

/-- No blanks. -/
def compact : Layout := ⟨fun _ => [], [], fun _ => rfl, rfl⟩

/-- One item or member a line. -/
def pretty : Layout where
  gap := newline
  colon := [' ']
  blank_gap level := by simp [newline, Text.isJsonBlank]
  blank_colon := rfl

section
variable (l : Layout)

mutual

/-- The written form of a value at a level. -/
def chars (level : Nat) : Json → List Char
  | .array [] => ['[', ']']
  | .array (x :: xs) => '[' :: l.gap (level + 1) ++ items (level + 1) (x :: xs) ++ l.gap level ++ [']']
  | .object [] => ['{', '}']
  | .object (m :: ms) =>
    '{' :: l.gap (level + 1) ++ members (level + 1) (m :: ms) ++ l.gap level ++ ['}']
  | .null => ['n', 'u', 'l', 'l']
  | .boolean true => ['t', 'r', 'u', 'e']
  | .boolean false => ['f', 'a', 'l', 's', 'e']
  | .number n => n.written
  | .string s => quoted s

def items (level : Nat) : List Json → List Char
  | [] => []
  | [x] => chars level x
  | x :: y :: rest => chars level x ++ ',' :: l.gap level ++ items level (y :: rest)

def members (level : Nat) : List (String × Json) → List Char
  | [] => []
  | [(k, v)] => quoted k ++ ':' :: l.colon ++ chars level v
  | (k, v) :: m :: rest =>
    quoted k ++ ':' :: l.colon ++ chars level v ++ ',' :: l.gap level ++ members level (m :: rest)

end

end

end Layout

/-- The written form without blanks. -/
def compact (v : Json) : String := String.ofList (Layout.compact.chars 0 v)

/-- The written form with one item or member a line. -/
def pretty (v : Json) : String := String.ofList (Layout.pretty.chars 0 v)

end Conformance.Json
