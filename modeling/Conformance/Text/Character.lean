/-!
# Character classes and trimming

Blank means the Unicode property `White_Space`, control means the general category `Cc`, and case is
folded for ASCII letters alone. Every test on texts in this library names one of these classes.
-/

namespace Conformance.Text

/-! ## Classes -/

/-- The Unicode property `White_Space`. -/
def isBlank (c : Char) : Bool :=
  let n := c.toNat
  (0x09 ≤ n && n ≤ 0x0d) || n == 0x20 || n == 0x85 || n == 0xa0 || n == 0x1680 ||
    (0x2000 ≤ n && n ≤ 0x200a) || n == 0x2028 || n == 0x2029 || n == 0x202f || n == 0x205f ||
    n == 0x3000

/-- The ASCII control characters, delete included. -/
def isAsciiControl (c : Char) : Bool := c.toNat < 0x20 || c.toNat == 0x7f

/-- The general category `Cc`: the ASCII controls and the block from U+0080 to U+009F. -/
def isControl (c : Char) : Bool := c.toNat < 0x20 || (0x7f ≤ c.toNat && c.toNat ≤ 0x9f)

/-- Space, tab, line feed and carriage return, the only blanks between the tokens of a JSON text. -/
def isJsonBlank (c : Char) : Bool := c == ' ' || c == '\t' || c == '\n' || c == '\r'

/-- Tab and space, the only blanks inside a line of a settings document. -/
def isInlineBlank (c : Char) : Bool := c == ' ' || c == '\t'

/-! ## Trimming -/

/-- Drops the blanks at both ends. -/
def trimChars (cs : List Char) : List Char :=
  ((cs.dropWhile isBlank).reverse.dropWhile isBlank).reverse

/-- Drops the blanks at both ends. -/
def trim (s : String) : String := String.ofList (trimChars s.toList)

/-- No character but blanks. -/
def isBlankText (s : String) : Bool := s.toList.all isBlank

/-! ## Case -/

/-- Lower case for the ASCII letters, everything else unchanged. -/
def fold (s : String) : List Char := s.toList.map Char.toLower

/-- Equal up to the case of ASCII letters. -/
def sameName (a b : String) : Bool := fold a == fold b

@[simp] theorem sameName_iff {a b : String} : sameName a b = true ↔ fold a = fold b := by
  simp [sameName]

/-! ## Cutting -/

/-- The pieces of a text between the occurrences of a separator. -/
def split (sep : Char) : List Char → List (List Char)
  | [] => [[]]
  | c :: cs =>
    if c = sep then [] :: split sep cs
    else match split sep cs with
      | [] => [[c]]
      | piece :: rest => (c :: piece) :: rest

/-- The pieces of a text between the occurrences of a separator. -/
def pieces (sep : Char) (s : String) : List String := (split sep s.toList).map String.ofList

/-- Texts joined with a separator between each two. -/
def join (sep : String) : List String → String
  | [] => ""
  | [s] => s
  | s :: rest => s ++ sep ++ join sep rest

theorem split_ne_nil (sep : Char) (cs : List Char) : split sep cs ≠ [] := by
  cases cs with
  | nil => simp [split]
  | cons c cs =>
    rw [split]
    split
    · simp
    · split <;> simp

theorem split_of_notMem {sep : Char} {cs : List Char} (h : sep ∉ cs) : split sep cs = [cs] := by
  induction cs with
  | nil => rfl
  | cons c cs ih =>
    rw [List.mem_cons, not_or] at h
    rw [split, if_neg (Ne.symm h.1), ih h.2]

theorem split_eq_splitOn (sep : Char) (cs : List Char) : split sep cs = cs.splitOn sep := by
  induction cs with
  | nil => rw [split, List.splitOn_nil]
  | cons c cs ih =>
    rw [split, List.splitOn_cons_eq_if_modifyHead, ← ih]
    by_cases hc : c = sep
    · simp [hc]
    · rw [if_neg hc, if_neg (by simpa using hc)]
      cases hpieces : split sep cs with
      | nil => exact absurd hpieces (split_ne_nil sep cs)
      | cons piece rest => rfl

/-! ## Ascending characters -/

/-- Puts a character into its place in an ascending list, unless it is there. -/
def insertAscending (c : Char) : List Char → List Char
  | [] => [c]
  | d :: ds =>
    if c = d then d :: ds
    else if c < d then c :: d :: ds
    else d :: insertAscending c ds

/-- The characters of a list in ascending order, each once. -/
def ascending (cs : List Char) : List Char := cs.foldr insertAscending []

theorem mem_insertAscending {c x : Char} {ds : List Char} :
    x ∈ insertAscending c ds ↔ x = c ∨ x ∈ ds := by
  induction ds with
  | nil => simp [insertAscending]
  | cons d ds ih => grind [insertAscending]

theorem mem_ascending {x : Char} {cs : List Char} : x ∈ ascending cs ↔ x ∈ cs := by
  induction cs with
  | nil => simp [ascending]
  | cons c cs ih =>
    rw [show ascending (c :: cs) = insertAscending c (ascending cs) from rfl, mem_insertAscending, ih,
      List.mem_cons]

theorem pairwise_insertAscending {c : Char} {ds : List Char} (h : ds.Pairwise (· < ·)) :
    (insertAscending c ds).Pairwise (· < ·) := by
  induction ds with
  | nil => simp [insertAscending]
  | cons d ds ih =>
    obtain ⟨hd, hds⟩ := List.pairwise_cons.1 h
    rw [insertAscending]
    split
    · exact h
    split
    · rename_i hlt
      refine List.pairwise_cons.2 ⟨fun x hx => ?_, h⟩
      rcases List.mem_cons.1 hx with rfl | hx
      · exact hlt
      · exact Char.lt_trans hlt (hd x hx)
    · rename_i hne hge
      refine List.pairwise_cons.2 ⟨fun x hx => ?_, ih hds⟩
      rcases mem_insertAscending.1 hx with rfl | hx
      · exact Std.lt_of_le_of_ne (Char.not_lt.1 hge) (Ne.symm hne)
      · exact hd x hx

theorem pairwise_ascending (cs : List Char) : (ascending cs).Pairwise (· < ·) := by
  induction cs with
  | nil => exact .nil
  | cons c cs ih => exact pairwise_insertAscending ih

end Conformance.Text
