import Conformance.Url.Domain
import Conformance.Url.Address
/-!
# Host names and mail addresses

Host names as labels between dots, of ASCII letters, digits and hyphens, or of all characters that domain
names have a form for. Mail addresses are made of words and a host.
-/

namespace Conformance

/-- Four decimal bytes joined with dots. -/
def Ipv4.isDotted (cs : List Char) : Bool := (Ipv6.dotted? cs).isSome

namespace Hostname

/-! ## ASCII -/

/-- Hyphens join what stands in a label. -/
def areJoining (label : List Char) : Bool := label.head? != some '-' && label.getLast? != some '-'

/-- A label. -/
def isLabel (label : List Char) : Bool :=
  !label.isEmpty && label.length ≤ 63 && areJoining label && label.all fun c => c.isAlphanum || c == '-'

/-- A host name in ASCII. -/
def isNarrow (cs : List Char) : Bool := cs.length ≤ 253 && (Text.split '.' cs).all isLabel

/-! ## Beyond ASCII -/

/-- A character between two others. -/
structure Neighbours where
  before : Option Char
  here : Char
  behind : Option Char

/-- The characters of a text with their neighbours. -/
def neighbours (before : Option Char) : List Char → List Neighbours
  | [] => []
  | c :: cs => ⟨before, c, cs.head?⟩ :: neighbours (some c) cs

/-- A character of one of some blocks. -/
def isWithin (blocks : List (Char × Char)) (c : Char) : Bool := blocks.any fun b => b.1 ≤ c && c ≤ b.2

/-- The blocks of Greek letters. -/
def greek : List (Char × Char) := [('\u0370', '\u03ff'), ('\u1f00', '\u1fff')]

/-- The block of Hebrew letters. -/
def hebrew : List (Char × Char) := [('\u0590', '\u05ff')]

/-- The blocks of the Japanese syllabaries and of ideographs. -/
def japanese : List (Char × Char) :=
  [('\u3040', '\u30fa'), ('\u30fc', '\u30ff'), ('\u3400', '\u4dbf'), ('\u4e00', '\u9fff'),
    ('\uf900', '\ufaff')]

/-- Characters that names never hold: letters that only lengthen or repeat others, and tone marks. -/
def excluded : List (Char × Char) :=
  [('\u0640', '\u0640'), ('\u07fa', '\u07fa'), ('\u302e', '\u302f'), ('\u3031', '\u3035'),
    ('\u303b', '\u303b')]

/-- A character has the neighbours it needs. -/
def Neighbours.fit (n : Neighbours) : Bool :=
  match n.here with
  | '\u00b7' => n.before == some 'l' && n.behind == some 'l'
  | '\u0375' => n.behind.any (isWithin greek)
  | '\u05f3' | '\u05f4' => n.before.any (isWithin hebrew)
  | c => !isWithin excluded c

/-- A text in which characters stand in the company they need. -/
def isFitting (cs : List Char) : Bool :=
  (neighbours none cs).all Neighbours.fit && (!cs.contains '\u30fb' || cs.any (isWithin japanese)) &&
    !(cs.any (isWithin [('\u0660', '\u0669')]) && cs.any (isWithin [('\u06f0', '\u06f9')]))

/-- The hyphens of a label: none at its ends, and not two where a mark of Punycode would have them. -/
def areHyphensFit (label : List Char) : Bool :=
  areJoining label && !((label.drop 2).take 2 == ['-', '-'])

/-- A host name with characters beyond ASCII. -/
def isWide (cs : List Char) : Bool :=
  match Domain.labels? cs with
  | none => false
  | some labels =>
    isNarrow (Text.join "." (labels.map fun l => String.ofList l.ascii)).toList &&
      labels.all fun l => areHyphensFit l.text && isFitting l.text

end Hostname

namespace Mail

/-- The most bytes in front of the sign. -/
def maxLocal : Nat := 64

/-- A character of a word. -/
def inWord (c : Char) : Bool :=
  c.isAlphanum || "!#$%&'*+-/=?^_\x60\x7b|\x7d~".toList.contains c || 0x80 ≤ c.toNat

/-- The inside of a quoted text, in which backslashes escape. -/
def isQuoted : List Char → Bool
  | [] => true
  | '\\' :: c :: cs => 0x21 ≤ c.toNat && c.toNat ≤ 0x7e && isQuoted cs
  | c :: cs => c != '\\' && c != '"' && (c == '\t' || (0x20 ≤ c.toNat && c.toNat != 0x7f)) && isQuoted cs

/-- What stands in front of the sign: words between dots, or a quoted text. -/
def isLocal (cs : List Char) : Bool :=
  (String.ofList cs).utf8ByteSize ≤ maxLocal &&
    if cs.head? = some '"' ∧ cs.getLast? = some '"' then 2 < cs.length && isQuoted (cs.drop 1).dropLast
    else (Text.split '.' cs).all fun word => !word.isEmpty && word.all inWord

/-- What stands behind the sign: a host name, or an address in brackets. -/
def isHost (isName : List Char → Bool) (cs : List Char) : Bool :=
  match cs with
  | '[' :: rest =>
    let inner := rest.dropLast
    let tag := "IPv6:".toList
    rest.getLast? == some ']' &&
      if tag.isPrefixOf inner then (Ipv6.parse? (inner.drop tag.length)).isSome else Ipv4.isDotted inner
  | cs => isName cs

/-- The texts in front of and behind the last mark. -/
def cutAtLast? (mark : Char) (cs : List Char) : Option (List Char × List Char) :=
  if cs.contains mark then
    let behind := (cs.reverse.takeWhile (· != mark)).reverse
    some (cs.take (cs.length - behind.length - 1), behind)
  else none

/-- The address itself, which can stand in angle brackets behind a name and a blank. -/
def bare? (cs : List Char) : Option (List Char) :=
  match cutAtLast? '<' cs with
  | some (name, rest) =>
    if name.getLast? = some ' ' then
      let rest := (Text.trim (String.ofList rest)).toList
      if rest.getLast? = some '>' then some rest.dropLast else none
    else some cs
  | none => some cs

/-- A mail address with a host name of some kind. -/
def isAddress (isName : List Char → Bool) (cs : List Char) : Bool :=
  match (bare? cs).bind (cutAtLast? '@') with
  | some (words, host) => isLocal words && isHost isName host
  | none => false

end Mail

end Conformance
