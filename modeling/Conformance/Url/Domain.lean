import Conformance.Url.Punycode
import Conformance.Unicode.Folding
import Conformance.Unicode.Direction
import Conformance.Unicode.Joining
/-!
# Domain names

A domain name is brought into the form in which it is looked up: folded and composed, and every label with
characters beyond ASCII written in Punycode behind the mark `xn--`. A name with a character that no
domain may hold, or with a label that could be misread, has no such form.
-/

namespace Conformance.Domain

open Unicode

/-! ## Characters -/

/-- ASCII characters no folded domain name may hold: controls, capital letters, the space, and the delimiters of
URLs. -/
def isForbidden (c : Char) : Bool :=
  Text.isAsciiControl c || c.isUpper || " %#/:<>?@[\\]^|".toList.contains c

/-- The form of a name in which its labels are told apart. -/
def prepare? (cs : List Char) : Option (List Char) :=
  (Folding.foldAll? cs).bind fun folded =>
    let composed := if folded.all Folding.isAscii then folded else Composition.compose folded
    if composed.any isForbidden then none else some composed

/-! ## Labels -/

/-- A label as it is read and as it is looked up. -/
structure Label where
  text : List Char
  ascii : List Char
deriving DecidableEq, Repr

/-- The mark of a label in Punycode. -/
def punycodeMark : List Char := ['x', 'n', '-', '-']

/-- The most characters a label may have for its Punycode to be made. -/
def maxEncoded : Nat := 1000

/-- The most characters Punycode may have to be read. -/
def maxDecoded : Nat := 2000

/-- No mark stands in front, and all joiners have their places. -/
def isReadable (label : List Char) : Bool :=
  !label.head?.any Joining.isMark && Joining.arePlaced [] label

/-- The label a label in Punycode stands for: one that needs Punycode and that folding and composing leave
as it is. -/
def decoded? (code : List Char) : Option (List Char) :=
  if !code.all Folding.isAscii || code.getLast? == some '-' || maxDecoded < code.length then none
  else
    match Punycode.decode? code with
    | none => none
    | some label =>
      if label.all Folding.isAscii || !label.all Folding.isFolded || label.any isForbidden then none
      else if Composition.compose label == label && isReadable label then some label
      else none

/-- The label of a prepared text. -/
def Label.ofText? (text : List Char) : Option Label :=
  if punycodeMark.isPrefixOf text then (decoded? (text.drop 4)).map fun label => ⟨label, text⟩
  else if text.all Folding.isAscii then some ⟨text, text⟩
  else if isReadable text && text.length ≤ maxEncoded then
    some ⟨text, punycodeMark ++ Punycode.encode text⟩
  else none

/-! ## Names -/

/-- Beside a label from right to left all labels have to keep their order. -/
def areSteady (labels : List Label) : Bool :=
  !(labels.any fun l => l.text.any fun c => !Folding.isAscii c && Direction.turns c) ||
    labels.all fun l => Direction.isSteady l.text

/-- The labels of a domain name. -/
def labels? (cs : List Char) : Option (List Label) :=
  (prepare? cs).bind fun prepared =>
    ((Text.split '.' prepared).mapM Label.ofText?).bind fun labels =>
      if areSteady labels then some labels else none

/-- The ASCII form of a domain name. -/
def toAscii? (cs : List Char) : Option String :=
  (labels? cs).map fun labels => Text.join "." (labels.map fun l => String.ofList l.ascii)

end Conformance.Domain
