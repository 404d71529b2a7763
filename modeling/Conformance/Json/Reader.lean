import Conformance.Json.Value
import Conformance.Number.Decimal
import Conformance.Text.Character
/-!
# Reading JSON

The strict grammar: one value, blanks around tokens only, no trailing comma, no leading zero, no raw
control character in a string, escaped surrogates in pairs. At most 127 arrays and objects may be open at
once, and a number must be within the range of 64-bit binary numbers.

The reader keeps members in the order of the text. Every step that calls itself spends one unit of
fuel, and `readAll?` starts with more units than the text has characters.
-/

namespace Conformance.Json

/-! ## Numbers -/

/-- The parts of a written number. -/
structure Numeral where
  negative : Bool
  whole : List Char
  fraction : List Char
  exponentNegative : Bool
  exponent : List Char
  /-- written with neither a fraction nor an exponent -/
  plain : Bool

/-- Digits taken into a significand as long as it stays below `2 ^ 64`, and the digits left over. -/
def takeDigits : Nat → List Char → Nat × List Char
  | n, [] => (n, [])
  | n, c :: cs =>
    let m := 10 * n + Decimal.digitValue c
    if m < UInt64.size then takeDigits m cs else (n, c :: cs)

/-- The number a numeral denotes: an integer of 64 bits if it is plain, else a binary number. -/
def Numeral.number? (t : Numeral) : Option Number :=
  let n := Decimal.value t.whole
  if t.plain && t.negative && n != 0 && n ≤ Nat.pow 2 63 then some (.integer (-n))
  else if t.plain && !t.negative && n < UInt64.size then some (.integer n)
  else
    let (significand, dropped) := takeDigits 0 t.whole
    let (full, ignored) := takeDigits significand t.fraction
    let kept : Int := t.fraction.length - ignored.length
    let power : Int := Decimal.value t.exponent
    let power := if t.exponentNegative then -power else power
    (Binary64.ofDecimal t.negative full (dropped.length - kept + power)).map .binary

/-- Reads a numeral behind its sign. -/
def unsigned? (negative : Bool) (cs : List Char) : Option (Numeral × List Char) :=
  let (whole, cs) := cs.span Decimal.isDigit
  if (Decimal.readPlain? whole).isNone then none
  else
    let fraction? : Option (List Char × Bool × List Char) := match cs with
      | '.' :: r =>
        let (ds, r) := r.span Decimal.isDigit
        if ds.isEmpty then none else some (ds, false, r)
      | _ => some ([], true, cs)
    fraction?.bind fun (fraction, plain, cs) =>
      match cs with
      | c :: r =>
        if c = 'e' ∨ c = 'E' then
          let (sign, r) := match r with
            | '-' :: r => (true, r)
            | '+' :: r => (false, r)
            | _ => (false, r)
          let (ds, r) := r.span Decimal.isDigit
          if ds.isEmpty then none else some (⟨negative, whole, fraction, sign, ds, false⟩, r)
        else some (⟨negative, whole, fraction, false, [], plain⟩, c :: r)
      | [] => some (⟨negative, whole, fraction, false, [], plain⟩, [])

/-- Reads a numeral at the start of a text. -/
def numeral? : List Char → Option (Numeral × List Char)
  | '-' :: r => unsigned? true r
  | cs => unsigned? false cs

/-! ## Strings -/

/-- The value of four hexadecimal digits. -/
def hexUnit? (a b c d : Char) : Option Nat :=
  if [a, b, c, d].all (Radix.isDigit 16) then some (Radix.value 16 [a, b, c, d]) else none

/-- The character behind a one-letter escape. -/
def escaped? (c : Char) : Option Char :=
  if c = '"' ∨ c = '\\' ∨ c = '/' then some c
  else if c = 'b' then some (Char.ofNat 8)
  else if c = 'f' then some (Char.ofNat 12)
  else if c = 'n' then some '\n'
  else if c = 'r' then some '\r'
  else if c = 't' then some '\t'
  else none

/-- Reads the rest of a string behind its opening quote. `high` is the first half of a surrogate
pair whose second half has to follow. -/
def stringRest (high : Option Nat) (done : List Char) : List Char → Option (String × List Char)
  | '"' :: r => if high.isNone then some (String.ofList done.reverse, r) else none
  | '\\' :: 'u' :: a :: b :: c :: d :: r =>
    match hexUnit? a b c d, high with
    | none, _ => none
    | some n, none =>
      if 0xd800 ≤ n ∧ n < 0xdc00 then stringRest (some n) done r
      else if 0xdc00 ≤ n ∧ n < 0xe000 then none
      else stringRest none (Char.ofNat n :: done) r
    | some n, some h =>
      if 0xdc00 ≤ n ∧ n < 0xe000 then
        stringRest none (Char.ofNat (0x10000 + (h - 0xd800) * 0x400 + (n - 0xdc00)) :: done) r
      else none
  | '\\' :: c :: r =>
    match escaped? c, high with
    | some c, none => stringRest none (c :: done) r
    | _, _ => none
  | c :: r => if c.toNat < 32 ∨ c = '\\' ∨ high.isSome then none else stringRest none (c :: done) r
  | [] => none

/-! ## Values -/

/-- A text without its leading blanks. -/
def skip (cs : List Char) : List Char := cs.dropWhile Text.isJsonBlank

section
-- the number a numeral denotes, if it is one that the reader takes
variable (number? : Numeral → Option Number)

mutual

/-- Reads a value at the start of a text, with `depth` more levels of nesting allowed. -/
def readValue (fuel depth : Nat) (cs : List Char) : Option (Json × List Char) :=
  match fuel with
  | 0 => none
  | fuel + 1 =>
    match skip cs with
    | '"' :: r => (stringRest none [] r).map fun (s, r) => (.string s, r)
    | '[' :: r =>
      match depth, skip r with
      | 0, _ => none
      | _ + 1, ']' :: r => some (.array [], r)
      | depth + 1, r => (readItems fuel depth r).map fun (xs, r) => (.array xs, r)
    | '{' :: r =>
      match depth, skip r with
      | 0, _ => none
      | _ + 1, '}' :: r => some (.object [], r)
      | depth + 1, r => (readMembers fuel depth r).map fun (ms, r) => (.object ms, r)
    | 'n' :: 'u' :: 'l' :: 'l' :: r => some (.null, r)
    | 't' :: 'r' :: 'u' :: 'e' :: r => some (.boolean true, r)
    | 'f' :: 'a' :: 'l' :: 's' :: 'e' :: r => some (.boolean false, r)
    | cs => (numeral? cs).bind fun (t, r) => (number? t).map fun n => (.number n, r)

/-- Reads one or more items up to the closing bracket. -/
def readItems (fuel depth : Nat) (cs : List Char) : Option (List Json × List Char) :=
  match fuel with
  | 0 => none
  | fuel + 1 =>
    (readValue fuel depth cs).bind fun (x, r) =>
      match skip r with
      | ']' :: r => some ([x], r)
      | ',' :: r => (readItems fuel depth r).map fun (xs, r) => (x :: xs, r)
      | _ => none

/-- Reads one or more members up to the closing brace. -/
def readMembers (fuel depth : Nat) (cs : List Char) : Option (List (String × Json) × List Char) :=
  match fuel with
  | 0 => none
  | fuel + 1 =>
    match skip cs with
    | '"' :: r =>
      (stringRest none [] r).bind fun (k, r) =>
        match skip r with
        | ':' :: r =>
          (readValue fuel depth r).bind fun (v, r) =>
            match skip r with
            | '}' :: r => some ([(k, v)], r)
            | ',' :: r => (readMembers fuel depth r).map fun (ms, r) => ((k, v) :: ms, r)
            | _ => none
        | _ => none
    | _ => none

end

/-- How many arrays and objects may be open at once. -/
def deepest : Nat := 127

/-- Reads a whole text as one value, given what numerals denote. -/
def readAll? (cs : List Char) : Option Json :=
  match readValue number? (2 * cs.length + 2) deepest cs with
  | some (v, r) => if (skip r).isEmpty then some v else none
  | none => none

end

/-- Reads a whole text as one value. -/
def read? (cs : List Char) : Option Json := readAll? Numeral.number? cs

/-- Reads a whole text as one value. -/
def parse? (s : String) : Option Json := read? s.toList

/-- Reads a whole sequence of bytes as one value in UTF-8. -/
def ofBytes? (bytes : ByteArray) : Option Json := (String.fromUTF8? bytes).bind parse?

end Conformance.Json
