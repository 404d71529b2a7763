import Conformance.Json.Value
import Conformance.Number.Decimal
import Conformance.Text.Character
/-!
# Scalars of a settings document

The values that are written as one word without quotes: booleans, integers, numbers with a fraction, and
points in time. Only booleans and integers mean something to a field. A word of another kind has to be well
formed and is kept as `null`, which stands for nothing else in a settings document and fits no field.
-/

namespace Conformance.Settings

/-! ## Digits -/

/-- Underscores stand between digits. `marked` says that a mark of the base stands in front of the text; a
sign may stand there otherwise. -/
def groupsFit (isDigit : Char → Bool) (marked : Bool) (cs : List Char) : Bool :=
  match Text.split '_' cs with
  | [] | [_] => true
  | first :: rest =>
    (first :: rest).all (fun g => !g.isEmpty) &&
      (if marked then first :: rest else rest).all (fun g => g.head?.any isDigit) &&
      (first :: rest).dropLast.all fun g => g.length ≤ 1 || g.getLast?.any isDigit

/-- The text without its underscores. -/
def ungrouped (cs : List Char) : List Char := cs.filter (· != '_')

/-- A digit or an underscore. -/
def isGroupChar (c : Char) : Bool := Decimal.isDigit c || c == '_'

/-- Reads digits and underscores, at least one digit, and no needless zero in front unless that is
allowed. -/
def spanDigits? (zeros : Bool) (cs : List Char) : Option (List Char) :=
  let (group, rest) := cs.span isGroupChar
  let count := (ungrouped group).length
  if count = 0 ∨ (1 < count ∧ group.head? = some '0' ∧ ¬zeros) then none else some rest

/-! ## Integers -/

/-- The integer of a text of digits; a text that has none, or holds something else besides, is kept all the
same. -/
def integerOf (isDigit : Char → Bool) (base : Nat) (negative : Bool) (cs : List Char) : Json :=
  let ds := ungrouped cs
  if ds.isEmpty || !ds.all isDigit then .null
  else
    let n : Int := Radix.value base ds
    .number (.integer (if negative then -n else n))

/-- The bases with a mark of their own. -/
def bases : List (Char × Nat) := [('x', 16), ('o', 8), ('b', 2)]

/-- An integer behind the mark of its base. -/
def marked? (base : Nat) (cs : List Char) : Option Json :=
  let isDigit := Radix.isDigit base
  if cs.all (fun c => isDigit c || c == '_') && groupsFit isDigit true cs then
    some (integerOf isDigit base false cs)
  else none

/-! ## Fractions -/

/-- An exponent, or nothing. -/
def isExponent : List Char → Bool
  | [] => true
  | c :: cs =>
    let digits := match cs with
      | '+' :: cs | '-' :: cs => cs
      | cs => cs
    (c == 'e' || c == 'E') && spanDigits? true digits == some []

/-- A number with a fraction or an exponent, behind its sign. -/
def isFraction (cs : List Char) : Bool :=
  match spanDigits? false cs with
  | none => false
  | some ('.' :: rest) => (spanDigits? true rest).any isExponent
  | some rest => isExponent rest

/-- A character that makes a number one with a fraction. -/
def isFractionMark (c : Char) : Bool := c == '.' || c == 'e' || c == 'E'

/-! ## Points in time -/

/-- Reads a number of so many digits within bounds. -/
def field? (size low high : Nat) (cs : List Char) : Option (Nat × List Char) :=
  let (ds, rest) := cs.span Decimal.isDigit
  let n := Decimal.value ds
  if ds.length = size ∧ low ≤ n ∧ n ≤ high then some (n, rest) else none

/-- The days of a month. -/
def daysIn (year month : Nat) : Nat :=
  if month = 2 then
    if year % 4 = 0 ∧ (year % 100 ≠ 0 ∨ year % 400 = 0) then 29 else 28
  else if month = 4 ∨ month = 6 ∨ month = 9 ∨ month = 11 then 30
  else 31

/-- Reads a date. -/
def date? (cs : List Char) : Option (List Char) := do
  let (year, cs) ← field? 4 0 9999 cs
  let '-' :: cs := cs | none
  let (month, cs) ← field? 2 1 12 cs
  let '-' :: cs := cs | none
  return (← field? 2 1 (daysIn year month) cs).2

/-- Reads hours and minutes. -/
def clock? (cs : List Char) : Option (List Char) := do
  let (_, cs) ← field? 2 0 23 cs
  let ':' :: cs := cs | none
  return (← field? 2 0 59 cs).2

/-- Reads a time of day; seconds and their fraction may be left out. -/
def time? (cs : List Char) : Option (List Char) :=
  (clock? cs).bind fun cs =>
    match cs with
    | ':' :: cs =>
      (field? 2 0 60 cs).bind fun (_, cs) =>
        match cs with
        | '.' :: cs =>
          let (ds, rest) := cs.span Decimal.isDigit
          if ds.isEmpty then none else some rest
        | cs => some cs
    | cs => some cs

/-- The distance to universal time, or nothing. -/
def isOffset : List Char → Bool
  | [] | ['Z'] | ['z'] => true
  | '+' :: cs | '-' :: cs => clock? cs == some []
  | _ => false

/-- A date, a time of day, or both with or without the distance to universal time. -/
def isMoment (cs : List Char) : Bool :=
  match date? cs with
  | none => time? cs == some []
  | some [] => true
  | some (sep :: rest) => (sep == 'T' || sep == 't' || sep == ' ') && (time? rest).any isOffset

/-! ## Words -/

/-- A number or a point in time. `word` is the text with its sign, `cs` the text behind it. -/
def number? (word : List Char) (negative : Bool) (cs : List Char) : Option Json :=
  let rest := cs.dropWhile Decimal.isDigit
  let isPlain := cs = ['0'] ∨ cs.head? ≠ some '0'
  if rest.isEmpty then if isPlain then some (integerOf Decimal.isDigit 10 negative cs) else none
  else if rest.head? = some '-' ∨ rest.head? = some ':' ∨ rest.contains ' ' then
    if isMoment word then some .null else none
  else if rest.any isFractionMark then
    if isFraction cs && groupsFit Decimal.isDigit false word then some .null else none
  else if rest.head? = some '_' ∧ isPlain ∧ groupsFit Decimal.isDigit false word then
    some (integerOf Decimal.isDigit 10 negative cs)
  else none

/-- What a word behind its sign stands for. -/
def unsigned? (word : List Char) (signed negative : Bool) (cs : List Char) : Option Json :=
  match cs with
  | [] => none
  | ['i', 'n', 'f'] | ['n', 'a', 'n'] => some .null
  | '0' :: mark :: digits =>
    match bases.lookup mark with
    | some base => if signed then none else marked? base digits
    | none => number? word negative cs
  | c :: _ => if isGroupChar c then number? word negative cs else none

/-- What a word stands for. -/
def word? : List Char → Option Json
  | ['t', 'r', 'u', 'e'] => some (.boolean true)
  | ['f', 'a', 'l', 's', 'e'] => some (.boolean false)
  | '+' :: cs => unsigned? ('+' :: cs) true false cs
  | '-' :: cs => unsigned? ('-' :: cs) true true cs
  | cs => unsigned? cs false false cs

/-- A character of a word. -/
def isWordChar (c : Char) : Bool := !"=,[]# \t\r\n\x7b\x7d".toList.contains c

/-- Reads a word. A date and a time of day are one word with a space between them. -/
def spanWord (cs : List Char) : List Char × List Char :=
  match cs.span isWordChar with
  | (word, ' ' :: c :: rest) =>
    if (date? word) = some [] ∧ Decimal.isDigit c then
      let (time, rest) := (c :: rest).span isWordChar
      (word ++ ' ' :: time, rest)
    else (word, ' ' :: c :: rest)
  | read => read

end Conformance.Settings
