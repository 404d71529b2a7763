import Conformance.Unicode.Table
import Conformance.Unicode.Property
import Conformance.Unicode.Script
/-!
# Patterns

Regular expressions over characters: sets of characters, places between characters, sequences, choices,
repetitions, looks ahead and behind, and groups, whose text can be asked for again. A pattern is shown by a
text of its own, which is not always the one it was read from.
-/

namespace Conformance

/-! ## Sets of characters -/

/-- A set of characters. -/
inductive CharSet where
  | range (first last : Char)
  | categories (names : List String)
  | property (p : Unicode.Property)
  /-- the characters of the script of a number, or all that are used in it -/
  | script (number : Nat) (used : Bool)
  | union (a b : CharSet)
  | both (a b : CharSet)
  | not (a : CharSet)
  /-- with all characters that differ in case only -/
  | anyCase (a : CharSet)
deriving DecidableEq, Repr

namespace CharSet

/-- A character belongs to a set. -/
def contains : CharSet → Char → Bool
  | .range first last, c => first ≤ c && c ≤ last
  | .categories names, c => Unicode.Category.isOf names c
  | .property p, c => p.holds c
  | .script number used, c => if used then Unicode.Script.isIn number c else Unicode.Script.isOf number c
  | .union a b, c => a.contains c || b.contains c
  | .both a b, c => a.contains c && b.contains c
  | .not a, c => !a.contains c
  | .anyCase a, c => a.contains c || (Unicode.Case.variants c).any a.contains

/-- The set of one character. -/
def single (c : Char) : CharSet := .range c c

/-- No character. -/
def empty : CharSet := .range '\x01' '\x00'

/-- The union of sets. -/
def unionOf : List CharSet → CharSet
  | [] => empty
  | [s] => s
  | s :: rest => .union s (unionOf rest)

/-- The set of the characters of a text. -/
def ofText (s : String) : CharSet := unionOf (s.toList.map single)

/-- The ASCII digits. -/
def digit : CharSet := .range '0' '9'

/-- ASCII letters, digits and the underscore. -/
def word : CharSet := unionOf [.range 'A' 'Z', .range 'a' 'z', digit, single '_']

/-- The blanks a pattern means by its class of blanks. -/
def blanks : String := " \t\n\r\x0b\x0c\u00a0\ufeff\u2003\u2029"

/-- The set without regard to case. What a complement leaves out, it leaves out in every case. -/
def ignoringCase : CharSet → CharSet
  | .not a => .not a.ignoringCase
  | a => .anyCase a

/-- Digits of every script. -/
def wideDigit : CharSet := .categories ["nd"]

/-- What Unicode counts as part of a word. -/
def wideWord : CharSet :=
  unionOf [.property .alphabetic, .categories ["mn", "mc", "me", "nd", "pc"], .range '\u200c' '\u200d']

/-- What Unicode counts as blank. -/
def wideBlank : CharSet := .property .whiteSpace

/-- The size of a set: little for a range of ASCII characters, as much as its bytes for another
character, and far more for what is cut out of all characters. -/
def size : CharSet → Nat
  | .range first last =>
    if first = last then 32 * first.utf8Size else if last.toNat < 0x80 then 72 else 300
  | .union a b => a.size + b.size
  | .both a b => max a.size b.size
  | .not _ => 1000
  | .anyCase a => a.size + 48
  | .categories _ | .property _ | .script _ _ => 15000

end CharSet

/-! ## Patterns -/

/-- A place between two characters. -/
inductive Boundary where
  | textStart
  | textEnd
  /-- nothing but line ends follows -/
  | lastLineEnds
  | lineStart
  | lineEnd
  | wordEdge
  | noWordEdge
  | wordStart
  | wordEnd
deriving DecidableEq, Repr

/-- A regular expression. -/
inductive Regex where
  | empty
  | one (set : CharSet)
  | at (place : Boundary)
  | seq (a b : Regex)
  | either (a b : Regex)
  /-- `few` says that fewer repetitions are preferred -/
  | repeated (a : Regex) (least : Nat) (most : Option Nat) (few : Bool)
  | ahead (a : Regex) (wanted : Bool)
  | behind (a : Regex) (wanted : Bool)
  | group (number : Nat) (a : Regex)
  /-- the text that a group covered last -/
  | again (number : Nat) (anyCase : Bool)
  /-- in no other way than the one it prefers -/
  | firm (a : Regex)
deriving DecidableEq, Repr, Inhabited

namespace Regex

/-- One after the other. -/
def seqOf : List Regex → Regex
  | [] => .empty
  | [r] => r
  | r :: rest => .seq r (seqOf rest)

/-- Any of several. -/
def eitherOf : List Regex → Regex
  | [] => .empty
  | [r] => r
  | r :: rest => .either r (eitherOf rest)

/-- Covers no character by its form, so it cannot be repeated. -/
def isPlace : Regex → Bool
  | .empty | .at _ | .ahead _ _ | .behind _ _ => true
  | _ => false

/-- It matters which way is preferred, and what groups covered on it. -/
def hasPreference : Regex → Bool
  | .empty | .one _ | .at _ => false
  | .seq a b | .either a b => a.hasPreference || b.hasPreference
  | .repeated a _ _ _ | .ahead a _ | .behind a _ | .group _ a => a.hasPreference
  | .again _ _ | .firm _ => true

/-- Looks further than what it covers, or insists on one way. -/
def isFree : Regex → Bool
  | .empty | .one _ | .at _ => false
  | .seq a b | .either a b => a.isFree || b.isFree
  | .repeated a _ _ _ | .group _ a => a.isFree
  | .ahead _ _ | .behind _ _ | .again _ _ | .firm _ => true

/-- The size of a regular expression whose repetitions are laid out as often as they are counted. Those that
are free are not laid out, and what covers nothing has no size. -/
def size : Regex → Nat
  | .empty | .at _ | .again _ _ => 0
  | .one set => set.size
  | .seq a b => a.size + b.size
  | .either a b => a.size + b.size + 36
  | .repeated a least most _ =>
    if a.isFree || a.size == 0 then a.size
    else
      match most with
      | none => least * a.size + 40
      | some most => least * a.size + (most - least) * (a.size + 40)
  | .ahead a _ | .behind a _ | .firm a => a.size
  | .group _ a => if a.size == 0 then 0 else a.size + 64

/-- The numbers of the groups that are asked for again. -/
def asked : Regex → List Nat
  | .empty | .one _ | .at _ => []
  | .seq a b | .either a b => a.asked ++ b.asked
  | .repeated a _ _ _ | .ahead a _ | .behind a _ | .group _ a | .firm a => a.asked
  | .again number _ => [number]

end Regex

/-- A regular expression with the text it is shown by. -/
structure Pattern where
  regex : Regex
  shown : String
deriving DecidableEq, Repr, Inhabited

end Conformance
