import Conformance.Pattern.Bracket
/-!
# Reading patterns

The grammar of patterns: alternatives, groups with flags and names, and repetitions, which prefer many or
few, or insist on what they prefer. Up to the first look ahead or behind the reader is strict: a brace out
of place is an error, and nothing asks for the text of a group again. From there on it is free.

A pattern that looks ahead or behind takes its classes wide and is shown as it is written; all others are
shown with their classes spelled out.
-/

namespace Conformance.Pattern

/-! ## Repetition -/

/-- Counts are smaller than this. -/
def countLimit : Nat := UInt32.size

/-- Reads a count, which may have blanks around it if wanted. -/
def readCount? (loose : Bool) (cs : List Char) : Option (Nat × List Char) :=
  let trimmed (cs : List Char) : List Char := if loose then cs.dropWhile Text.isBlank else cs
  let (digits, rest) := (trimmed cs).span Decimal.isDigit
  if digits.isEmpty || countLimit ≤ Decimal.value digits then none
  else some (Decimal.value digits, trimmed rest)

/-- Braces hold a count, or a least one with or without a largest one. -/
def isCounted (cs : List Char) : Bool :=
  match readCount? true cs with
  | some (_, '\x7d' :: _) => true
  | some (least, ',' :: rest) =>
    match rest.dropWhile Text.isBlank with
    | '\x7d' :: _ => true
    | rest =>
      match readCount? true rest with
      | some (most, '\x7d' :: _) => least ≤ most
      | _ => false
  | _ => false

/-- Behind what can be repeated, braces hold counts, unless they are read freely. -/
def fitsBraces (free : Bool) : List Char → Bool
  | '\x7b' :: cs => free || isCounted cs
  | _ => true

/-- Reads a repetition behind its opening brace. A least count that is missing is none. -/
def readBraces? (cs : List Char) : Option (Nat × Option Nat × List Char) :=
  let least := if cs.head? = some ',' then some (0, cs) else readCount? false cs
  least.bind fun (least, rest) =>
    match rest with
    | '\x7d' :: rest => some (least, some least, rest)
    | ',' :: '\x7d' :: rest => some (least, none, rest)
    | ',' :: rest =>
      match readCount? false rest with
      | some (most, '\x7d' :: rest) => if least ≤ most then some (least, some most, rest) else none
      | _ => none
    | _ => none

/-- What a mark of repetition says: how often, as few or as many times as that may be. -/
def readTimes? : List Char → Option (Nat × Option Nat × List Char)
  | '*' :: cs => some (0, none, cs)
  | '+' :: cs => some (1, none, cs)
  | '?' :: cs => some (0, some 1, cs)
  | '\x7b' :: cs => readBraces? cs
  | _ => none

/-- Reads the marks behind a count: a question mark prefers few, a plus sign insists. -/
def readPreference (r : Regex) (least : Nat) (most : Option Nat) (cs : List Char) : Regex × List Char :=
  let few := cs.head? == some '?'
  let rest := if few then cs.drop 1 else cs
  let repeated := Regex.repeated r least most few
  if rest.head? = some '+' then (.firm repeated, rest.drop 1) else (repeated, rest)

/-- Reads the repetition of a regular expression, if there is one. Only one that covers something can be
repeated. -/
def readRepetition? (r : Regex) (cs : List Char) : Option (Regex × List Char) :=
  match readTimes? cs with
  | none => some (r, cs)
  | some (least, most, rest) => if r.isPlace then none else some (readPreference r least most rest)

/-! ## Groups -/

/-- What is left to read, and what has been met so far. -/
structure Cursor where
  rest : List Char
  /-- the names of groups with their numbers -/
  names : List (List Char × Nat)
  /-- the number of groups -/
  groups : Nat
  /-- the number of groups around -/
  depth : Nat
  /-- a look ahead or behind -/
  free : Bool
  /-- a group that was asked for by its number -/
  numbered : Bool

/-- Groups lie inside fewer groups than this. -/
def depthLimit : Nat := 63

/-- How a group starts. -/
inductive Opening where
  | capture (name : Option (List Char))
  | plain (flags : Flags)
  | firm
  | flags (flags : Flags)
  | look (ahead wanted : Bool)
  | again (name : List Char)
  | comment

/-- A character of a name. -/
def isNameChar (c : Char) : Bool := c.isAlphanum || c == '_'

/-- The form of a name. -/
def isName (cs : List Char) : Bool :=
  cs.head?.any (fun c => c.isAlpha || c == '_') && cs.all isNameChar

/-- Reads the name of a group up to a mark. -/
def readName? (mark : Char) (cs : List Char) : Option (List Char × List Char) :=
  let (name, rest) := cs.span (· != mark)
  if isName name && !rest.isEmpty then some (name, rest.drop 1) else none

/-- Reads what stands behind an opening parenthesis. -/
def readOpening? (f : Flags) (free : Bool) : List Char → Option (Opening × List Char)
  | '?' :: '=' :: cs => some (.look true true, cs)
  | '?' :: '!' :: cs => some (.look true false, cs)
  | '?' :: '<' :: '=' :: cs => some (.look false true, cs)
  | '?' :: '<' :: '!' :: cs => some (.look false false, cs)
  | '?' :: 'P' :: '<' :: cs => (readName? '>' cs).map fun (name, rest) => (.capture (some name), rest)
  | '?' :: '<' :: cs => (readName? '>' cs).map fun (name, rest) => (.capture (some name), rest)
  | '?' :: 'P' :: '=' :: cs =>
    if free then (readName? ')' cs).map fun (name, rest) => (.again name, rest) else none
  | '?' :: '>' :: cs => if free then some (.firm, cs) else none
  | '?' :: '#' :: cs =>
    let rest := cs.dropWhile (· != ')')
    if free && !rest.isEmpty then some (.comment, rest.drop 1) else none
  | '?' :: ':' :: cs => some (.plain f, cs)
  | '?' :: cs =>
    let (letters, rest) := cs.span fun c => c != ':' && c != ')'
    if letters.isEmpty then none
    else
      (f.setAll? true [] letters).bind fun g =>
        match rest with
        | ':' :: rest => some (.plain g, rest)
        | ')' :: rest => some (.flags g, rest)
        | _ => none
  | cs => some (.capture none, cs)

/-- The place in the next group, which may have a name that no other has. -/
def Cursor.enter? (c : Cursor) (name : Option (List Char)) : Option Cursor :=
  let number := c.groups + 1
  match name with
  | none => some { c with groups := number }
  | some name =>
    if (c.names.lookup name).isSome then none
    else some { c with groups := number, names := (name, number) :: c.names }

/-! ## Groups again -/

/-- The regular expression of the group of a name. -/
def Cursor.againNamed? (c : Cursor) (f : Flags) (name : List Char) : Option Regex :=
  (c.names.lookup name).map fun number => .again number f.ignoreCase

/-- Reads which group is asked for behind a backslash: by number, or by name in brackets or apostrophes. -/
def Cursor.readAgain? (c : Cursor) (f : Flags) : List Char → Option (Regex × Cursor)
  | 'k' :: mark :: cs =>
    if mark = '<' ∨ mark = '\'' then
      (readName? (if mark = '<' then '>' else mark) cs).bind fun (name, rest) =>
        (c.againNamed? f name).map fun r => (r, { c with rest := rest })
    else none
  | cs =>
    let (digits, rest) := cs.span Decimal.isDigit
    if digits.isEmpty then none
    else some (.again (Decimal.value digits) f.ignoreCase, { c with rest := rest, numbered := true })

/-! ## Regular expressions -/

/-- The regular expression of a single character outside of classes. -/
def plain (f : Flags) (c : Char) : Regex :=
  match c with
  | '.' => .one (if f.dotAll then .not .empty else .not (.single '\n'))
  | '^' => .at (if f.multiLine then .lineStart else .textStart)
  | '$' => .at (if f.multiLine then .lineEnd else .textEnd)
  | c => .one (f.meant (.single c))

/-- The regular expression of an escape. -/
def ofEscape (f : Flags) : Escape → Regex
  | .char c => .one (f.meant (.single c))
  | .set s => .one (f.meant s)
  | .place b => .at b

mutual

/-- Reads alternatives up to the end of the group: `done` are those read so far and `parts` the parts of the
one at hand, each with the last one first. -/
def readAlternatives? :
    Nat → Flags → List Regex → List Regex → Cursor → Option (Regex × Cursor)
  | 0, _, _, _, _ => none
  | fuel + 1, f, done, parts, cursor =>
    let whole := Regex.eitherOf (Regex.seqOf parts.reverse :: done).reverse
    let next (r : Regex) (rest : List Char) : Option (Regex × Cursor) :=
      readPart? fuel f done parts r { cursor with rest := rest }
    match f.ready cursor.rest with
    | [] => some (whole, { cursor with rest := [] })
    | ')' :: rest => some (whole, { cursor with rest := ')' :: rest })
    | '|' :: rest =>
      readAlternatives? fuel f (Regex.seqOf parts.reverse :: done) [] { cursor with rest := rest }
    | '(' :: rest =>
      let opening := if cursor.depth < depthLimit then readOpening? f cursor.free rest else none
      opening.bind fun (opening, rest) =>
        let inner := { cursor with rest := rest }
        match opening with
        | .flags g => readAlternatives? fuel g done parts inner
        | .comment => readAlternatives? fuel f done parts inner
        | .again name => (cursor.againNamed? f name).bind fun r => next r rest
        | .plain g => (readGroup? fuel g inner).bind fun (r, c) => readPart? fuel f done parts r c
        | .firm => (readGroup? fuel f inner).bind fun (r, c) => readPart? fuel f done parts (.firm r) c
        | .capture name =>
          (inner.enter? name).bind fun entered =>
            (readGroup? fuel f entered).bind fun (r, c) =>
              readPart? fuel f done parts (.group entered.groups r) c
        | .look ahead wanted =>
          (readGroup? fuel f { inner with free := true }).bind fun (r, c) =>
            readPart? fuel f done parts (if ahead then .ahead r wanted else .behind r wanted) c
    | '[' :: rest => (Bracket.read? f cursor.free rest).bind fun (s, rest) => next (.one s) rest
    | '\\' :: rest =>
      match if cursor.free then cursor.readAgain? f rest else none with
      | some (r, c) => readPart? fuel f done parts r c
      | none => (Escape.read? f cursor.free rest).bind fun (e, rest) => next (ofEscape f e) rest
    | c :: rest =>
      if c = '*' ∨ c = '+' ∨ c = '?' ∨ (c = '\x7b' ∧ ¬cursor.free) then none else next (plain f c) rest

/-- Reads the repetition of a part, and what follows. Braces that repeat nothing are characters; strictly
they look like a repetition even so. -/
def readPart? :
    Nat → Flags → List Regex → List Regex → Regex → Cursor → Option (Regex × Cursor)
  | 0, _, _, _, _, _ => none
  | fuel + 1, f, done, parts, r, cursor =>
    let start := f.ready cursor.rest
    if !fitsBraces cursor.free start then none
    else
      (readRepetition? r start).bind fun (r, rest) =>
        let parts := r :: parts
        match f.ready rest with
        | '\x7b' :: inside =>
          if fitsBraces cursor.free ('\x7b' :: inside) then
            readPart? fuel f done parts (plain f '\x7b') { cursor with rest := inside }
          else none
        | _ => readAlternatives? fuel f done parts { cursor with rest := rest }

/-- Reads a group up to its closing parenthesis. -/
def readGroup? : Nat → Flags → Cursor → Option (Regex × Cursor)
  | 0, _, _ => none
  | fuel + 1, f, cursor =>
    let depth := cursor.depth
    (readAlternatives? fuel f [] [] { cursor with depth := depth + 1 }).bind fun (r, cursor) =>
      match cursor.rest with
      | ')' :: rest => some (r, { cursor with rest := rest, depth := depth })
      | _ => none

end

/-! ## Patterns -/

/-- Regular expressions have this size at most. -/
def sizeLimit : Nat := 10 * 1024 * 1024

/-- The size is within the limit, and every group that is asked for is there, and is asked for by its name if
any group has one. -/
def Cursor.fits (c : Cursor) (r : Regex) : Bool :=
  r.size ≤ sizeLimit && r.asked.all (fun n => 1 ≤ n && n ≤ c.groups) && !(c.numbered && !c.names.isEmpty)

/-- Reads a regular expression with narrow or wide classes, and says whether it looks ahead or behind. -/
def readRegex? (wide : Bool) (cs : List Char) : Option (Regex × Bool) :=
  (readAlternatives? (3 * cs.length + 3) ⟨false, false, false, false, wide⟩ [] []
    ⟨cs, [], 0, 0, false, false⟩).bind fun (r, cursor) =>
      if cursor.rest.isEmpty && cursor.fits r then some (r, cursor.free) else none

/-- The text of a class that is spelled out. -/
def spelled? (c : Char) : Option String :=
  match c with
  | 'd' => some "[0-9]"
  | 'D' => some "[^0-9]"
  | 'w' => some "[A-Za-z0-9_]"
  | 'W' => some "[^A-Za-z0-9_]"
  | 's' => some ("[" ++ CharSet.blanks ++ "]")
  | 'S' => some ("[^" ++ CharSet.blanks ++ "]")
  | _ => none

/-- A pattern with its classes spelled out and its control characters in place of their escapes. -/
def spellOut : List Char → List Char
  | '\\' :: 'c' :: letter :: cs => Escape.control letter :: spellOut cs
  | '\\' :: c :: cs =>
    match spelled? c with
    | some s => s.toList ++ spellOut cs
    | none => '\\' :: c :: spellOut cs
  | c :: cs => c :: spellOut cs
  | [] => []

/-- Reads a pattern. -/
def read? (s : String) : Option Pattern :=
  (readRegex? false s.toList).bind fun (narrow, looks) =>
    if looks then (readRegex? true s.toList).map fun (wide, _) => ⟨wide, s⟩
    else some ⟨narrow, String.ofList (spellOut s.toList)⟩

end Conformance.Pattern
