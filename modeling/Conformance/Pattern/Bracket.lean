import Conformance.Pattern.Escape
/-!
# Classes in brackets

A class lists characters, ranges and other classes, and can be what two lists have in common, what the first
has more, or what only one of them has.
-/

namespace Conformance.Pattern.Bracket

/-! ## Members -/

/-- The classes that have names. -/
def named : List (String × CharSet) := [
  ("alnum", .unionOf [.range '0' '9', .range 'A' 'Z', .range 'a' 'z']),
  ("alpha", .unionOf [.range 'A' 'Z', .range 'a' 'z']), ("ascii", .range '\x00' '\x7f'),
  ("blank", .ofText "\t "), ("cntrl", .union (.range '\x00' '\x1f') (.single '\x7f')),
  ("digit", .digit), ("graph", .range '!' '~'), ("lower", .range 'a' 'z'), ("print", .range ' ' '~'),
  ("punct", .unionOf [.range '!' '/', .range ':' '@', .range '[' '\x60', .range '\x7b' '~']),
  ("space", .ofText "\t\n\x0b\x0c\r "), ("upper", .range 'A' 'Z'), ("word", .word),
  ("xdigit", .unionOf [.range '0' '9', .range 'A' 'F', .range 'a' 'f'])]

/-- Reads a named class behind its bracket. -/
def readNamed? : List Char → Option (CharSet × List Char)
  | ':' :: cs =>
    let (name, rest) := cs.span (· != ':')
    match rest with
    | ':' :: ']' :: rest =>
      let negated := name.head? == some '^'
      (named.lookup (String.ofList (if negated then name.drop 1 else name))).map fun s =>
        (if negated then .not s else s, rest)
    | _ => none
  | _ => none

/-- One member of a class: a character or a set. -/
inductive Member where
  | char (c : Char)
  | set (s : CharSet)

/-- Reads a member. Where patterns are read freely, an escaped `b` is a backspace here. -/
def readMember? (f : Flags) (free : Bool) : List Char → Option (Member × List Char)
  | '\\' :: cs =>
    if free ∧ cs.head? = some 'b' then some (.char '\x08', cs.drop 1)
    else
      match Escape.read? f free cs with
      | some (.char c, rest) => some (.char c, rest)
      | some (.set s, rest) => some (.set (f.meant s), rest)
      | _ => none
  | c :: cs => some (.char c, cs)
  | [] => none

/-- Reads a member or a range. -/
def readRange? (f : Flags) (free : Bool) (cs : List Char) : Option (CharSet × List Char) :=
  (readMember? f free cs).bind fun (first, rest) =>
    match first, rest with
    | first, '-' :: c :: rest =>
      if c = ']' ∨ c = '-' then
        some (match first with | .char a => .single a | .set s => s, '-' :: c :: rest)
      else
        match first, readMember? f free (c :: rest) with
        | .char a, some (.char b, rest) => if a ≤ b then some (.range a b, rest) else none
        | _, _ => none
    | .char a, rest => some (.single a, rest)
    | .set s, rest => some (s, rest)

/-! ## Operations -/

/-- An operation between two classes. -/
inductive Operation where
  | intersection
  | difference
  | symmetricDifference

/-- The class an operation makes of two. -/
def Operation.apply : Operation → CharSet → CharSet → CharSet
  | .intersection, a, b => .both a b
  | .difference, a, b => .both a (.not b)
  | .symmetricDifference, a, b => .union (.both a (.not b)) (.both b (.not a))

/-- Reads an operation. -/
def readOperation? : List Char → Option (Operation × List Char)
  | '&' :: '&' :: cs => some (.intersection, cs)
  | '-' :: '-' :: cs => some (.difference, cs)
  | '~' :: '~' :: cs => some (.symmetricDifference, cs)
  | _ => none

/-- The operations so far applied to the members so far. -/
def settled (pending : Option (CharSet × Operation)) (members : List CharSet) : CharSet :=
  let s := CharSet.unionOf members.reverse
  match pending with
  | some (left, op) => op.apply left s
  | none => s

/-! ## Classes -/

mutual

/-- Reads a class behind its opening bracket. -/
def readClass? (f : Flags) (free : Bool) : Nat → List Char → Option (CharSet × List Char)
  | 0, _ => none
  | fuel + 1, cs =>
    let negated := cs.head? == some '^'
    let cs := if negated then cs.drop 1 else cs
    let (dashes, rest) := cs.span (· == '-')
    let members := dashes.map CharSet.single
    let (members, rest) := match members, rest with
      | [], ']' :: rest => ([CharSet.single ']'], rest)
      | members, rest => (members, rest)
    (readMembers? f free fuel none members rest).map fun (s, rest) =>
      (if negated then .not (f.meant s) else f.meant s, rest)

/-- Reads the members of a class up to its closing bracket, the last one read first in the list. -/
def readMembers? (f : Flags) (free : Bool) :
    Nat → Option (CharSet × Operation) → List CharSet → List Char → Option (CharSet × List Char)
  | 0, _, _, _ => none
  | _ + 1, _, _, [] => none
  | _ + 1, pending, members, ']' :: cs => some (settled pending members, cs)
  | fuel + 1, pending, members, '[' :: cs =>
    match readNamed? cs with
    | some (s, rest) => readMembers? f free fuel pending (s :: members) rest
    | none =>
      (readClass? f free fuel cs).bind fun (s, rest) =>
        readMembers? f free fuel pending (s :: members) rest
  | fuel + 1, pending, members, c :: cs =>
    if f.spaced && Text.isBlank c then readMembers? f free fuel pending members cs
    else
      match readOperation? (c :: cs) with
      | some (op, rest) => readMembers? f free fuel (some (settled pending members, op)) [] rest
      | none =>
        (readRange? f free (c :: cs)).bind fun (s, rest) =>
          readMembers? f free fuel pending (s :: members) rest

end

/-- Reads the class behind an opening bracket. -/
def read? (f : Flags) (free : Bool) (cs : List Char) : Option (CharSet × List Char) :=
  readClass? f free (2 * cs.length + 2) cs

end Conformance.Pattern.Bracket
