import Conformance.Schema.Hostname
import Conformance.Uri.Reference
import Conformance.Pattern.Reader
import Conformance.Json.Reader
/-!
# Formats

What texts of a format look like. The early dialects check formats, each those that it knows; a format that
is not known says nothing. Contents are checked in the same way: a text can hold a JSON text, plain or as
bytes in base 64.
-/

namespace Conformance

/-- A form of texts. -/
inductive TextFormat where
  | date
  | dateTime
  | time
  | email
  | idnEmail
  | hostname
  | idnHostname
  | ipv4
  | ipv6
  | uri
  | uriReference
  | uriTemplate
  | iri
  | iriReference
  | jsonPointer
  | relativeJsonPointer
  | regex
deriving DecidableEq, Repr

namespace TextFormat

/-- The formats every dialect with formats knows. -/
def common : List (String × TextFormat) := [
  ("date", .date), ("date-time", .dateTime), ("time", .time), ("email", .email), ("idn-email", .idnEmail),
  ("hostname", .hostname), ("ipv4", .ipv4), ("ipv6", .ipv6), ("uri", .uri), ("regex", .regex)]

/-- The formats known from the sixth draft on. -/
def since6 : List (String × TextFormat) := [
  ("uri-reference", .uriReference), ("uri-template", .uriTemplate), ("json-pointer", .jsonPointer)]

/-- The formats known from the seventh draft on. -/
def since7 : List (String × TextFormat) := [
  ("idn-hostname", .idnHostname), ("iri", .iri), ("iri-reference", .iriReference),
  ("relative-json-pointer", .relativeJsonPointer)]

/-! ## Dates and times -/

/-- Reads a number of exactly so many digits. -/
def number? (count : Nat) (cs : List Char) : Option (Nat × List Char) :=
  let ds := cs.take count
  if ds.length = count ∧ ds.all Decimal.isDigit then some (Decimal.value ds, cs.drop count) else none

/-- The number of days of a month. -/
def daysOf (year month : Nat) : Nat :=
  if month = 2 then
    if year % 4 = 0 ∧ (year % 100 ≠ 0 ∨ year % 400 = 0) then 29 else 28
  else if [4, 6, 9, 11].contains month then 30 else 31

/-- Reads a date. -/
def readDate? (cs : List Char) : Option (List Char) := do
  let (year, rest) ← number? 4 cs
  let (month, rest) ← number? 2 (← mark? '-' rest)
  let (day, rest) ← number? 2 (← mark? '-' rest)
  if 1 ≤ month ∧ month ≤ 12 ∧ 1 ≤ day ∧ day ≤ daysOf year month then some rest else none
where
  /-- drops a mark -/
  mark? (mark : Char) (cs : List Char) : Option (List Char) :=
    if cs.head? = some mark then some (cs.drop 1) else none

/-- Reads the distance to universal time, in minutes. -/
def readOffset? (cs : List Char) : Option (Int × List Char) :=
  match cs with
  | 'Z' :: rest | 'z' :: rest => some (0, rest)
  | sign :: rest => do
    if sign ≠ '+' ∧ sign ≠ '-' then none
    let (hour, rest) ← number? 2 rest
    let (minute, rest) ← number? 2 (← readDate?.mark? ':' rest)
    if 23 < hour ∨ 59 < minute then none
    let minutes : Int := 60 * hour + minute
    return (if sign = '-' then -minutes else minutes, rest)
  | [] => none

/-- Drops a fraction of a second. -/
def dropFraction? (cs : List Char) : Option (List Char) :=
  match cs with
  | '.' :: rest =>
    let (digits, rest) := rest.span Decimal.isDigit
    if digits.isEmpty then none else some rest
  | _ => some cs

/-- Reads a time of day. A sixtieth second ends a day of universal time. -/
def readTime? (cs : List Char) : Option (List Char) := do
  let (hour, rest) ← number? 2 cs
  let (minute, rest) ← number? 2 (← readDate?.mark? ':' rest)
  let (second, rest) ← number? 2 (← readDate?.mark? ':' rest)
  let (offset, rest) ← readOffset? (← dropFraction? rest)
  let universal := (60 * (hour : Int) + minute - offset) % 1440
  if 23 < hour ∨ 59 < minute ∨ 60 < second ∨ (second = 60 ∧ universal ≠ 1439) then none else some rest

/-- A date and a time with a letter between them. -/
def isDateTime (cs : List Char) : Bool :=
  match readDate? cs with
  | some (mark :: rest) => (mark == 'T' || mark == 't') && readTime? rest == some []
  | _ => false

/-! ## References and pointers -/

/-- A reference with every character beyond ASCII replaced. -/
def narrowed (s : String) : String :=
  String.ofList (s.toList.map fun c => if 0xa0 ≤ c.toNat then 'x' else c)

/-- A URI with a scheme. -/
def isUri (s : String) : Bool := (Uri.parse? s).any fun u => u.scheme.isSome

/-- Reads characters of a template outside of expressions, or of a name inside them. -/
def dropTemplate (allowed : Char → Bool) : List Char → List Char
  | '%' :: a :: b :: cs =>
    if isTemplateDigit a && isTemplateDigit b then dropTemplate allowed cs else '%' :: a :: b :: cs
  | c :: cs => if allowed c then dropTemplate allowed cs else c :: cs
  | [] => []
where
  /-- a digit to base 16 in lower case -/
  isTemplateDigit (c : Char) : Bool := Decimal.isDigit c || ('a' ≤ c && c ≤ 'f')

/-- Stands in a template outside of expressions. -/
def inTemplate (c : Char) : Bool := 0x20 < c.toNat && !"\"'<>%\\^\x60\x7b|\x7d".toList.contains c

/-- Stands in a name in a template. -/
def inTemplateName (c : Char) : Bool := Decimal.isDigit c || ('a' ≤ c && c ≤ 'z') || c == '_'

/-- A name in a template, with a length of up to four digits or a star behind it. -/
def isTemplateName (cs : List Char) : Bool :=
  let rest := dropTemplate inTemplateName cs
  rest.length < cs.length &&
    match rest with
    | [] | ['*'] => true
    | ':' :: c :: digits => c != '0' && digits.length ≤ 3 && (c :: digits).all Decimal.isDigit
    | _ => false

/-- An expression of a template: an operator or none, and names between commas. -/
def isExpression (cs : List Char) : Bool :=
  let names := if cs.head?.any "+#./;?&=,!@|".toList.contains then cs.drop 1 else cs
  (Text.split ',' names).all isTemplateName

/-- Text and expressions in braces; fuel bounds their number. -/
def isTemplate : Nat → List Char → Bool
  | 0, _ => false
  | fuel + 1, cs =>
    match dropTemplate inTemplate cs with
    | [] => true
    | '\x7b' :: rest =>
      let (expression, rest) := rest.span (· != '\x7d')
      !rest.isEmpty && isExpression expression && isTemplate fuel (rest.drop 1)
    | _ => false

/-- All tildes are escapes. -/
def areEscaped : List Char → Bool
  | [] => true
  | '~' :: '0' :: cs | '~' :: '1' :: cs => areEscaped cs
  | c :: cs => c != '~' && areEscaped cs

/-- A pointer. -/
def isPointer : List Char → Bool
  | [] => true
  | c :: cs => c == '/' && areEscaped cs

/-- A pointer that starts some levels up. -/
def isRelativePointer (cs : List Char) : Bool :=
  let (up, rest) := cs.span Decimal.isDigit
  (Decimal.readPlain? up).isSome && (rest == ['#'] || isPointer rest)

/-- A text is of a format. -/
def accepts (f : TextFormat) (s : String) : Bool :=
  match f with
  | .date => readDate? s.toList == some []
  | .dateTime => isDateTime s.toList
  | .time => readTime? s.toList == some []
  | .email => Mail.isAddress Hostname.isNarrow s.toList
  | .idnEmail => Mail.isAddress Hostname.isWide s.toList
  | .hostname => Hostname.isNarrow s.toList
  | .idnHostname => Hostname.isWide s.toList
  | .ipv4 => Ipv4.isDotted s.toList
  | .ipv6 => (Ipv6.parse? s.toList).isSome
  | .uri => isUri s
  | .uriReference => (Uri.parse? s).isSome
  | .uriTemplate => isTemplate (s.length + 1) s.toList
  | .iri => isUri (narrowed s)
  | .iriReference => (Uri.parse? (narrowed s)).isSome
  | .jsonPointer => isPointer s.toList
  | .relativeJsonPointer => isRelativePointer s.toList
  | .regex => (Pattern.read? s).isSome

end TextFormat

/-! ## Contents -/

/-- What a text holds. -/
inductive TextContent where
  | json
  | base64
  | jsonInBase64
deriving DecidableEq, Repr

namespace TextContent

/-- The value of a digit to base 64. -/
def digit? (c : Char) : Option Nat :=
  if 'A' ≤ c ∧ c ≤ 'Z' then some (c.toNat - 65)
  else if 'a' ≤ c ∧ c ≤ 'z' then some (c.toNat - 71)
  else if Decimal.isDigit c then some (c.toNat + 4)
  else if c = '+' then some 62
  else if c = '/' then some 63
  else none

/-- The bytes of digits to base 64. The bits behind the last byte are zero. -/
def bytes? : List Nat → Option (List UInt8)
  | a :: b :: c :: d :: rest =>
    (bytes? rest).map fun bs =>
      UInt8.ofNat (4 * a + b / 16) :: UInt8.ofNat (b % 16 * 16 + c / 4) :: UInt8.ofNat (c % 4 * 64 + d) :: bs
  | [a, b, c] =>
    if c % 4 = 0 then some [UInt8.ofNat (4 * a + b / 16), UInt8.ofNat (b % 16 * 16 + c / 4)] else none
  | [a, b] => if b % 16 = 0 then some [UInt8.ofNat (4 * a + b / 16)] else none
  | [_] => none
  | [] => some []

/-- Reads bytes in base 64, filled up to groups of four. -/
def decode? (s : String) : Option (List UInt8) :=
  let cs := s.toList
  let digits := (cs.reverse.dropWhile (· == '=')).reverse
  if cs.length % 4 ≠ 0 ∨ 2 < cs.length - digits.length then none
  else (digits.mapM digit?).bind bytes?

/-- A text in base 64, as far as that is asked for. -/
def isEncoded (c : TextContent) (s : String) : Bool := c == .json || (decode? s).isSome

/-- A JSON text, as far as that is asked for. -/
def isJson (c : TextContent) (s : String) : Bool :=
  match c with
  | .json => (Json.ofBytes? s.toUTF8).isSome
  | .base64 => true
  | .jsonInBase64 => ((decode? s).bind fun bs => Json.ofBytes? ⟨bs.toArray⟩).isSome

end TextContent

end Conformance
