import Conformance.Text.Character
import Conformance.Number.Decimal
/-!
# Words of a settings document

The parts of a settings document below its values: strings in their four spellings, keys, and what stands
between them. A reader takes a text and gives the value with the rest of the text, or nothing
if the text does not start with such a word.
-/

namespace Conformance.Settings

/-! ## Between the words -/

/-- A character that may stand in a comment or a literal string. -/
def isPlain (c : Char) : Bool := c == '\t' || !Text.isAsciiControl c

/-- Drops the blanks at the start of a line's rest. -/
def skipBlanks (cs : List Char) : List Char := cs.dropWhile Text.isInlineBlank

/-- Drops blanks, line ends and comments. Nothing comes of a comment with a control character, or of a
carriage return without its line feed. -/
def skipLines? (inComment : Bool) : List Char → Option (List Char)
  | [] => some []
  | '\n' :: cs | '\r' :: '\n' :: cs => skipLines? false cs
  | c :: cs =>
    if inComment then if isPlain c then skipLines? true cs else none
    else if Text.isInlineBlank c then skipLines? false cs
    else if c = '#' then skipLines? true cs
    else if c = '\r' then none
    else some (c :: cs)

/-- Ends a statement: nothing but blanks and a comment may follow on its line. -/
def endLine? (cs : List Char) : Option (List Char) :=
  match skipBlanks cs with
  | [] => some []
  | c :: cs => if c = '\n' ∨ c = '\r' ∨ c = '#' then skipLines? false (c :: cs) else none

/-! ## Strings -/

/-- Reads the character whose code point stands in a number of hexadecimal digits. -/
def codePoint? : Nat → Nat → List Char → Option (Char × List Char)
  | 0, n, cs => if n.isValidChar then some (Char.ofNat n, cs) else none
  | k + 1, n, c :: cs => (Radix.digitValue? c).bind fun d => codePoint? k (16 * n + d) cs
  | _ + 1, _, [] => none

/-- The characters behind the escapes of one letter. -/
def escapes : List (Char × Char) :=
  [('b', '\x08'), ('t', '\t'), ('n', '\n'), ('f', '\x0c'), ('r', '\r'), ('e', '\x1b'), ('"', '"'),
    ('\\', '\\')]

/-- Reads an escape behind its backslash. -/
def escape? : List Char → Option (Char × List Char)
  | 'x' :: cs => codePoint? 2 0 cs
  | 'u' :: cs => codePoint? 4 0 cs
  | 'U' :: cs => codePoint? 8 0 cs
  | c :: cs => (escapes.lookup c).map fun e => (e, cs)
  | [] => none

theorem length_codePoint? {k n : Nat} {cs : List Char} {c : Char} {rest : List Char}
    (h : codePoint? k n cs = some (c, rest)) : rest.length ≤ cs.length := by
  induction k generalizing n cs with
  | zero =>
    simp only [codePoint?] at h
    split at h <;> grind
  | succ k ih =>
    cases cs with
    | nil => simp [codePoint?] at h
    | cons d cs =>
      simp only [codePoint?, Option.bind_eq_some_iff] at h
      obtain ⟨_, _, h⟩ := h
      have := ih h
      grind

theorem length_escape? {cs : List Char} {c : Char} {rest : List Char}
    (h : escape? cs = some (c, rest)) : rest.length < cs.length := by
  unfold escape? at h
  split at h
  · have := length_codePoint? h
    grind
  · have := length_codePoint? h
    grind
  · have := length_codePoint? h
    grind
  · obtain ⟨e, _, h⟩ := Option.map_eq_some_iff.1 h
    grind
  · simp at h

/-- Reads a string in double quotes to its end, from behind the opening quote. -/
def quotedRest? (done : List Char) : List Char → Option (String × List Char)
  | [] => none
  | '"' :: cs => some (String.ofList done.reverse, cs)
  | '\\' :: cs =>
    match _h : escape? cs with
    | some (c, rest) => quotedRest? (c :: done) rest
    | none => none
  | c :: cs => if isPlain c then quotedRest? (c :: done) cs else none
termination_by cs => cs.length
decreasing_by
  · have := length_escape? _h; grind
  · grind

/-- Reads a string in single quotes to its end, from behind the opening quote. -/
def literalRest? (cs : List Char) : Option (String × List Char) :=
  match cs.span fun c => isPlain c && c != '\'' with
  | (body, '\'' :: rest) => some (String.ofList body, rest)
  | _ => none

/-- Drops blanks and line ends. -/
def skipSpace : List Char → List Char
  | '\r' :: '\n' :: cs => skipSpace cs
  | c :: cs => if Text.isInlineBlank c || c == '\n' then skipSpace cs else c :: cs
  | [] => []

theorem length_skipSpace (cs : List Char) : (skipSpace cs).length ≤ cs.length := by
  fun_induction skipSpace cs with
  | case1 cs ih => simp; omega
  | case2 c cs _ _ ih => simp; omega
  | case3 => simp
  | case4 => simp

/-- A backslash at the end of a line joins it with the next: the text behind the blanks and line ends that
follow, if only blanks stand in front of the first line end. -/
def joinedLine? (cs : List Char) : Option (List Char) :=
  match skipBlanks cs with
  | '\n' :: rest | '\r' :: '\n' :: rest => some (skipSpace rest)
  | _ => none

theorem length_joinedLine? {cs rest : List Char} (h : joinedLine? cs = some rest) :
    rest.length < cs.length := by
  have hle : (skipBlanks cs).length ≤ cs.length := (List.dropWhile_sublist _).length_le
  unfold joinedLine? at h
  split at h
  · rename_i r heq
    have := length_skipSpace r
    rw [heq] at hle
    grind
  · rename_i r heq
    have := length_skipSpace r
    rw [heq] at hle
    grind
  · simp at h

/-- Reads a string over several lines to its end. Up to two quotes may stand directly in front of the three
that close it. -/
def linesRest? (quote : Char) (done : List Char) : List Char → Option (String × List Char)
  | [] => none
  | '\r' :: '\n' :: cs => linesRest? quote ('\n' :: '\r' :: done) cs
  | '\n' :: cs => linesRest? quote ('\n' :: done) cs
  | a :: cs =>
    if a = quote then
      match cs with
      | b :: c :: cs' =>
        if b = quote ∧ c = quote then
          let extra := (cs'.take 2).takeWhile (· == quote)
          some (String.ofList (extra ++ done).reverse, cs'.drop extra.length)
        else linesRest? quote (a :: done) (b :: c :: cs')
      | _ => none
    else if a = '\\' ∧ quote = '"' then
      match _h : escape? cs, _h' : joinedLine? cs with
      | some (c, rest), _ => linesRest? quote (c :: done) rest
      | none, some rest => linesRest? quote done rest
      | none, none => none
    else if isPlain a then linesRest? quote (a :: done) cs
    else none
termination_by cs => cs.length
decreasing_by
  · grind
  · grind
  · grind
  · have := length_escape? _h; grind
  · have := length_joinedLine? _h'; grind
  · grind

/-- Drops the line end directly behind the quotes that open a string over several lines. -/
def dropLineEnd : List Char → List Char
  | '\n' :: cs | '\r' :: '\n' :: cs => cs
  | cs => cs

/-- Reads a string on one line. -/
def lineString? : List Char → Option (String × List Char)
  | '"' :: cs => quotedRest? [] cs
  | '\'' :: cs => literalRest? cs
  | _ => none

/-- Reads a string in any spelling. -/
def string? : List Char → Option (String × List Char)
  | '"' :: '"' :: '"' :: cs => linesRest? '"' [] (dropLineEnd cs)
  | '\'' :: '\'' :: '\'' :: cs => linesRest? '\'' [] (dropLineEnd cs)
  | cs => lineString? cs

/-! ## Keys -/

/-- A character of a key without quotes. -/
def isKeyChar (c : Char) : Bool := c.isAlphanum || c == '_' || c == '-'

/-- Reads a key. -/
def key? (cs : List Char) : Option (String × List Char) :=
  match cs.span isKeyChar with
  | ([], cs) => lineString? cs
  | (name, rest) => some (String.ofList name, rest)

/-- Reads the keys of a path, joined with dots; fuel bounds their number. -/
def path? : Nat → List Char → Option (List String × List Char)
  | 0, _ => none
  | fuel + 1, cs =>
    (key? (skipBlanks cs)).bind fun (k, rest) =>
      match skipBlanks rest with
      | '.' :: rest => (path? fuel rest).map fun (ks, rest) => (k :: ks, rest)
      | rest => some ([k], rest)

end Conformance.Settings
