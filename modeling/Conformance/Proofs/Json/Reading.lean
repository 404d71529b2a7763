import Conformance.Proofs.Json.Tokens
/-!
# Documents that are written are read back

Both layouts write the same tokens with blanks between them, so one reading of `Layout.chars` serves both.
`Readable` says which documents are within the bounds of the reader: not too deep, and with no number but
integers that it takes.
-/

namespace Conformance.Json

/-! ## Blanks -/

section Blanks
variable {gap cs : List Char}

theorem skip_append (hgap : gap.all Text.isJsonBlank = true) : skip (gap ++ cs) = skip cs :=
  List.dropWhile_append_of_pos (List.all_eq_true.1 hgap)

theorem skip_cons {c : Char} (hc : Text.isJsonBlank c = false) : skip (c :: cs) = c :: cs :=
  List.dropWhile_cons_of_neg (by simp [hc])

theorem ends_cons {c : Char} (h : Decimal.isDigit c = false ∧ c ∉ ['.', 'e', 'E']) : Ends (c :: cs) := by
  rintro d ⟨⟩
  exact h

/-- Blanks end a number. -/
theorem Ends.append (hgap : gap.all Text.isJsonBlank = true) (h : Ends cs) : Ends (gap ++ cs) := by
  cases gap with
  | nil => exact h
  | cons c gap =>
    have hc : c = ' ' ∨ c = '\t' ∨ c = '\n' ∨ c = '\r' := by
      simpa [Text.isJsonBlank, or_assoc] using List.all_eq_true.1 hgap c List.mem_cons_self
    rintro d ⟨⟩
    rcases hc with rfl | rfl | rfl | rfl <;> decide

end Blanks

/-! ## What can be read -/

/-- A document with at most `depth` levels of arrays and objects, and with no number but integers that the
reader takes. -/
inductive Readable (number? : Numeral → Option Number) : Nat → Json → Prop
  | null {depth : Nat} : Readable number? depth .null
  | boolean {depth : Nat} (b : Bool) : Readable number? depth (.boolean b)
  | string {depth : Nat} (s : String) : Readable number? depth (.string s)
  | integer {depth : Nat} {n : Int} (taken : number? (.ofInt n) = some (.integer n)) :
    Readable number? depth (.number (.integer n))
  | array {depth : Nat} {xs : List Json} (items : ∀ x ∈ xs, Readable number? depth x) :
    Readable number? (depth + 1) (.array xs)
  | object {depth : Nat} {ms : List (String × Json)} (members : ∀ m ∈ ms, Readable number? depth m.2) :
    Readable number? (depth + 1) (.object ms)

/-- The reader takes a natural number as it stands. -/
def Takes (number? : Numeral → Option Number) (n : Nat) : Prop := number? (.ofInt n) = some (.integer n)

@[simp] theorem takes_unrounded (n : Nat) : Takes Numeral.unrounded? n := Numeral.unrounded?_ofInt n

theorem takes_number {n : Nat} (h : n < UInt64.size) : Takes Numeral.number? n :=
  Numeral.number?_ofInt (by omega) (Int.ofNat_lt.2 h)

theorem takes_word (n : Nat) (h : n < UInt16.size) : Takes Numeral.number? n :=
  takes_number (Nat.lt_trans h (by decide))

section
variable {number? : Numeral → Option Number} {l : Layout} {fuel depth level : Nat} {gap cs rest : List Char}

@[simp] theorem readable_null : Readable number? depth .null := .null

@[simp] theorem readable_string (s : String) : Readable number? depth (.string s) := .string s

@[simp] theorem readable_nat {n : Nat} : Readable number? depth (.nat n) ↔ Takes number? n := by
  refine ⟨fun h => ?_, .integer⟩
  cases h with
  | integer taken => exact taken

@[simp] theorem readable_array {xs : List Json} :
    Readable number? (depth + 1) (.array xs) ↔ ∀ x ∈ xs, Readable number? depth x := by
  refine ⟨fun h => ?_, .array⟩
  cases h with
  | array items => exact items

@[simp] theorem readable_object {ms : List (String × Json)} :
    Readable number? (depth + 1) (.object ms) ↔ ∀ m ∈ ms, Readable number? depth m.2 := by
  refine ⟨fun h => ?_, .object⟩
  cases h with
  | object members => exact members

@[simp] theorem readable_optional {α : Type} {f : α → Json} {o : Option α} :
    Readable number? depth (.optional f o) ↔ ∀ a ∈ o, Readable number? depth (f a) := by
  cases o <;> simp [Json.optional]

/-! ## Blanks in front -/

theorem readValue_append (hgap : gap.all Text.isJsonBlank = true) :
    readValue number? fuel depth (gap ++ cs) = readValue number? fuel depth cs := by
  cases fuel with
  | zero => rfl
  | succ fuel => rw [readValue, readValue, skip_append hgap]

theorem readItems_append (hgap : gap.all Text.isJsonBlank = true) :
    readItems number? fuel depth (gap ++ cs) = readItems number? fuel depth cs := by
  cases fuel with
  | zero => rfl
  | succ fuel => rw [readItems, readItems, readValue_append hgap]

theorem readMembers_append (hgap : gap.all Text.isJsonBlank = true) :
    readMembers number? fuel depth (gap ++ cs) = readMembers number? fuel depth cs := by
  cases fuel with
  | zero => rfl
  | succ fuel => rw [readMembers, readMembers, skip_append hgap]

/-! ## Tokens -/

theorem signed_head (n : Int) :
    ∃ c cs, Decimal.signed n = c :: cs ∧ (Decimal.isDigit c = true ∨ c = '-') := by
  rw [signed_eq]
  by_cases hn : n < 0
  · exact ⟨'-', _, by rw [if_pos hn]; rfl, .inr rfl⟩
  · cases hdigits : Decimal.digits n.natAbs with
    | nil => exact absurd hdigits (Decimal.digits_ne_nil _)
    | cons d ds =>
      have hd : Decimal.isDigit d = true := Decimal.isDigit_of_mem_digits (n := n.natAbs) (by simp [hdigits])
      exact ⟨d, ds, by rw [if_neg hn, List.nil_append], .inl hd⟩

/-- Nothing else starts with a digit or a minus sign. -/
theorem ne_of_number {c d : Char} (hc : Decimal.isDigit c = true ∨ c = '-')
    (hd : d ∈ ['"', '[', ']', '{', 'n', 't', 'f', ' ', '\t', '\n', '\r']) : c ≠ d := by
  have hother : (['"', '[', ']', '{', 'n', 't', 'f', ' ', '\t', '\n', '\r'].all fun d =>
      !(Decimal.isDigit d || d == '-')) = true := by decide
  rintro rfl
  have hnot := List.all_eq_true.1 hother c hd
  rcases hc with hc | rfl
  · simp [hc] at hnot
  · cases hnot

theorem not_blank_of_number {c : Char} (hc : Decimal.isDigit c = true ∨ c = '-') :
    Text.isJsonBlank c = false := by
  simp [Text.isJsonBlank, ne_of_number hc]

/-- Every value starts with a character that neither is blank nor closes an array. -/
theorem Readable.head {v : Json} (h : Readable number? depth v) :
    ∃ c cs, l.chars level v = c :: cs ∧ Text.isJsonBlank c = false ∧ c ≠ ']' := by
  cases h with
  | null => exact ⟨'n', _, rfl, by decide, by decide⟩
  | boolean b => cases b <;> exact ⟨_, _, rfl, by decide, by decide⟩
  | string s => exact ⟨'"', _, rfl, by decide, by decide⟩
  | @integer _ n =>
    obtain ⟨c, cs, hsigned, hc⟩ := signed_head n
    exact ⟨c, cs, hsigned, not_blank_of_number hc, ne_of_number hc (by decide)⟩
  | @array _ xs => cases xs <;> exact ⟨'[', _, rfl, by decide, by decide⟩
  | @object _ ms => cases ms <;> exact ⟨'{', _, rfl, by decide, by decide⟩

/-- What starts with a digit or a minus sign is read as a number. -/
theorem readValue_numeral {c : Char} (hc : Decimal.isDigit c = true ∨ c = '-') :
    readValue number? (fuel + 1) depth (c :: cs) =
      (numeral? (c :: cs)).bind fun (t, r) => (number? t).map fun n => (.number n, r) := by
  rw [readValue, skip_cons (not_blank_of_number hc)]
  split
  all_goals try exact absurd (List.cons.inj ‹_›).1 (ne_of_number hc (by decide))
  rfl

theorem Readable.length_pos {v : Json} (h : Readable number? depth v) : 0 < (l.chars level v).length := by
  obtain ⟨c, cs, hchars, -⟩ : ∃ c cs, l.chars level v = c :: cs ∧ _ := h.head
  rw [hchars]
  exact Nat.succ_pos _

/-! ## Arrays and objects -/

variable (number? l level depth) in
/-- A value is read back from its written form at a level, with enough fuel. -/
def Recovered (v : Json) : Prop :=
  ∀ fuel rest, Ends rest → 2 * (l.chars level v).length ≤ fuel + 1 →
    readValue number? fuel depth (l.chars level v ++ rest) = some (v, rest)

/-- Every written form has a character, so there is fuel to start with. -/
theorem Readable.recovered_of_succ {v : Json} (h : Readable number? depth v)
    (hread : ∀ fuel rest, Ends rest → 2 * (l.chars level v).length ≤ fuel + 2 →
      readValue number? (fuel + 1) depth (l.chars level v ++ rest) = some (v, rest)) :
    Recovered number? l depth level v := by
  intro fuel rest hrest hfuel
  have hpos : 0 < (l.chars level v).length := h.length_pos
  obtain ⟨fuel, rfl⟩ : ∃ k, fuel = k + 1 := ⟨fuel - 1, by omega⟩
  exact hread fuel rest hrest hfuel

theorem readItems_items {xs : List Json} (hne : xs ≠ []) (hitems : ∀ x ∈ xs, Readable number? depth x)
    (hread : ∀ x ∈ xs, Recovered number? l depth level x) (hgap : gap.all Text.isJsonBlank = true)
    (hfuel : 2 * (l.items level xs).length ≤ fuel) :
    readItems number? fuel depth (l.items level xs ++ (gap ++ ']' :: rest)) = some (xs, rest) := by
  induction xs generalizing fuel with
  | nil => exact absurd rfl hne
  | cons x xs ih =>
    have hpos : 0 < (l.chars level x).length := (hitems x List.mem_cons_self).length_pos
    have hx := hread x List.mem_cons_self
    cases xs with
    | nil =>
      rw [Layout.items] at hfuel ⊢
      obtain ⟨fuel, rfl⟩ : ∃ k, fuel = k + 1 := ⟨fuel - 1, by omega⟩
      rw [readItems, hx fuel _ (ends_cons (by decide) |>.append hgap) (by omega), Option.bind_some]
      simp only [skip_append hgap, skip_cons (c := ']') (by decide)]
    | cons y ys =>
      rw [Layout.items] at hfuel ⊢
      simp only [List.length_append, List.length_cons] at hfuel
      obtain ⟨fuel, rfl⟩ : ∃ k, fuel = k + 1 := ⟨fuel - 1, by omega⟩
      have hrest := @ih fuel (List.cons_ne_nil y ys) (fun z hz => hitems z (List.mem_cons_of_mem x hz))
        (fun z hz => hread z (List.mem_cons_of_mem x hz)) (by omega)
      simp only [List.append_assoc, List.cons_append]
      rw [readItems, hx fuel _ (ends_cons (by decide)) (by omega), Option.bind_some]
      simp only [skip_cons (c := ',') (by decide), readItems_append (l.blank_gap level), hrest, Option.map_some]

/-- One member is read as its key and its value; then the object closes, or more members follow. -/
theorem readMembers_member {k : String} {v : Json} (hv : Recovered number? l depth level v)
    (hrest : Ends rest) (hfuel : 2 * (l.chars level v).length ≤ fuel + 1) :
    let text := quoted k ++ ':' :: (l.colon ++ (l.chars level v ++ rest))
    (∀ r, skip rest = '}' :: r → readMembers number? (fuel + 1) depth text = some ([(k, v)], r)) ∧
    ∀ r, skip rest = ',' :: r → readMembers number? (fuel + 1) depth text =
      (readMembers number? fuel depth r).map fun (ms, r) => ((k, v) :: ms, r) := by
  obtain ⟨cs, hquoted, hk⟩ := stringRest_quoted k (':' :: (l.colon ++ (l.chars level v ++ rest)))
  constructor <;>
  · intro r hr
    rw [hquoted, readMembers, skip_cons (by decide)]
    simp only [hk, Option.bind_some]
    rw [skip_cons (by decide)]
    simp only [readValue_append l.blank_colon, hv fuel rest hrest hfuel, Option.bind_some, hr]

theorem readMembers_members {ms : List (String × Json)} (hne : ms ≠ [])
    (hread : ∀ m ∈ ms, Recovered number? l depth level m.2) (hgap : gap.all Text.isJsonBlank = true)
    (hfuel : 2 * (l.members level ms).length ≤ fuel) :
    readMembers number? fuel depth (l.members level ms ++ (gap ++ '}' :: rest)) = some (ms, rest) := by
  induction ms generalizing fuel with
  | nil => exact absurd rfl hne
  | cons m ms ih =>
    obtain ⟨k, v⟩ := m
    have hv : Recovered number? l depth level v := hread (k, v) List.mem_cons_self
    cases ms with
    | nil =>
      rw [Layout.members] at hfuel ⊢
      simp only [List.length_append, List.length_cons] at hfuel
      obtain ⟨fuel, rfl⟩ : ∃ k, fuel = k + 1 := ⟨fuel - 1, by omega⟩
      simp only [List.append_assoc, List.cons_append]
      refine (readMembers_member hv (ends_cons (by decide) |>.append hgap) (by omega)).1 rest ?_
      rw [skip_append hgap, skip_cons (by decide)]
    | cons n ns =>
      rw [Layout.members] at hfuel ⊢
      simp only [List.length_append, List.length_cons] at hfuel
      obtain ⟨fuel, rfl⟩ : ∃ k, fuel = k + 1 := ⟨fuel - 1, by omega⟩
      have hrest := @ih fuel (List.cons_ne_nil n ns) (fun m hm => hread m (List.mem_cons_of_mem _ hm))
        (by omega)
      simp only [List.append_assoc, List.cons_append]
      rw [(readMembers_member hv (ends_cons (by decide)) (by omega)).2 _ (skip_cons (by decide)),
        readMembers_append (l.blank_gap level), hrest, Option.map_some]

/-- An array that does not close at once has items. -/
theorem readValue_array {c : Char} (hgap : gap.all Text.isJsonBlank = true)
    (hblank : Text.isJsonBlank c = false) (hclose : c ≠ ']') :
    readValue number? (fuel + 1) (depth + 1) ('[' :: (gap ++ c :: cs)) =
      (readItems number? fuel depth (c :: cs)).map fun (xs, r) => (.array xs, r) := by
  rw [readValue, skip_cons (by decide)]
  simp only [skip_append hgap, skip_cons hblank]
  split
  · contradiction
  · exact absurd (List.cons.inj ‹_›).1 hclose
  · cases ‹_ + 1 = _›
    rfl

/-- An object that does not close at once has members. -/
theorem readValue_object (hgap : gap.all Text.isJsonBlank = true) :
    readValue number? (fuel + 1) (depth + 1) ('{' :: (gap ++ '"' :: cs)) =
      (readMembers number? fuel depth ('"' :: cs)).map fun (ms, r) => (.object ms, r) := by
  rw [readValue, skip_cons (by decide)]
  simp only [skip_append hgap, skip_cons (c := '"') (by decide)]
  rfl

theorem items_head {x : Json} (h : Readable number? depth x) (xs : List Json) :
    ∃ c cs, l.items level (x :: xs) = c :: cs ∧ Text.isJsonBlank c = false ∧ c ≠ ']' := by
  obtain ⟨c, cs, hchars, hc⟩ : ∃ c cs, l.chars level x = c :: cs ∧ _ := h.head
  cases xs with
  | nil => exact ⟨c, cs, by rw [Layout.items, hchars], hc⟩
  | cons y ys =>
    exact ⟨c, cs ++ ',' :: l.gap level ++ l.items level (y :: ys), by rw [Layout.items, hchars]; rfl, hc⟩

theorem members_head (m : String × Json) (ms : List (String × Json)) :
    ∃ cs, l.members level (m :: ms) = '"' :: cs := by
  obtain ⟨k, v⟩ := m
  cases ms <;> simp [Layout.members, quoted]

/-- What can be read is read back from any layout of it, whatever follows. -/
theorem Readable.recovered {v : Json} (h : Readable number? depth v) : Recovered number? l depth level v := by
  induction h generalizing level with
  | null =>
    refine Readable.null.recovered_of_succ fun fuel rest _ _ => ?_
    simp [Layout.chars, readValue, skip_cons, Text.isJsonBlank]
  | boolean b =>
    refine (Readable.boolean b).recovered_of_succ fun fuel rest _ _ => ?_
    cases b <;> simp [Layout.chars, readValue, skip_cons, Text.isJsonBlank]
  | string s =>
    refine (Readable.string s).recovered_of_succ fun fuel rest _ _ => ?_
    obtain ⟨cs, hquoted, hs⟩ := stringRest_quoted s rest
    rw [Layout.chars, hquoted, readValue, skip_cons (by decide)]
    simp only [hs, Option.map_some]
  | @integer depth n taken =>
    refine (Readable.integer taken).recovered_of_succ fun fuel rest hrest _ => ?_
    have hnumeral := numeral?_signed n hrest
    obtain ⟨c, cs, hsigned, hc⟩ := signed_head n
    rw [Layout.chars, Number.written]
    rw [hsigned, List.cons_append] at hnumeral ⊢
    rw [readValue_numeral hc, hnumeral, Option.bind_some]
    simp only [taken, Option.map_some]
  | @array depth xs items ih =>
    refine (Readable.array items).recovered_of_succ fun fuel rest _ hfuel => ?_
    cases xs with
    | nil => simp [Layout.chars, readValue, skip_cons, Text.isJsonBlank]
    | cons x xs =>
      rw [Layout.chars] at hfuel ⊢
      simp only [List.length_append, List.length_cons] at hfuel
      have hread : readItems number? fuel depth
          (l.items (level + 1) (x :: xs) ++ (l.gap level ++ ']' :: rest)) = some (x :: xs, rest) :=
        readItems_items (List.cons_ne_nil x xs) items (fun x hx => ih x hx) (l.blank_gap level) (by omega)
      obtain ⟨c, cs, hitems, hblank, hclose⟩ := items_head (items x List.mem_cons_self) xs
      rw [hitems] at hread ⊢
      simp only [List.append_assoc, List.cons_append, List.nil_append] at hread ⊢
      rw [readValue_array (l.blank_gap _) hblank hclose, hread, Option.map_some]
  | @object depth ms members ih =>
    refine (Readable.object members).recovered_of_succ fun fuel rest _ hfuel => ?_
    cases ms with
    | nil => simp [Layout.chars, readValue, skip_cons, Text.isJsonBlank]
    | cons m ms =>
      rw [Layout.chars] at hfuel ⊢
      simp only [List.length_append, List.length_cons] at hfuel
      have hread : readMembers number? fuel depth
          (l.members (level + 1) (m :: ms) ++ (l.gap level ++ '}' :: rest)) = some (m :: ms, rest) :=
        readMembers_members (List.cons_ne_nil m ms) (fun m hm => ih m hm) (l.blank_gap level) (by omega)
      obtain ⟨cs, hmembers⟩ := members_head m ms
      rw [hmembers] at hread ⊢
      simp only [List.append_assoc, List.cons_append, List.nil_append] at hread ⊢
      rw [readValue_object (l.blank_gap _), hread, Option.map_some]

/-- A whole document is read back from any layout of it. -/
theorem Readable.readAll?_chars {v : Json} (h : Readable number? deepest v) :
    readAll? number? (l.chars level v) = some v := by
  have hrecovered : Recovered number? l deepest level v := h.recovered
  have hread := hrecovered (2 * (l.chars level v).length + 2) [] (by simp [Ends]) (by omega)
  rw [List.append_nil] at hread
  rw [readAll?, hread]
  rfl

/-! ## One line -/

theorem mem_items {xs : List Json} {c : Char} (h : c ∈ l.items level xs) :
    c = ',' ∨ c ∈ l.gap level ∨ ∃ x ∈ xs, c ∈ l.chars level x := by
  induction xs with
  | nil => simp [Layout.items] at h
  | cons x xs ih =>
    cases xs with
    | nil => exact .inr (.inr ⟨x, List.mem_cons_self, by rwa [Layout.items] at h⟩)
    | cons y ys =>
      simp only [Layout.items, List.append_assoc, List.cons_append, List.mem_append, List.mem_cons] at h ih ⊢
      grind

theorem mem_members {ms : List (String × Json)} {c : Char} (h : c ∈ l.members level ms) :
    c ∈ [',', ':'] ∨ c ∈ l.gap level ∨ c ∈ l.colon ∨
      ∃ m ∈ ms, c ∈ quoted m.1 ∨ c ∈ l.chars level m.2 := by
  induction ms with
  | nil => simp [Layout.members] at h
  | cons m ms ih =>
    cases ms <;>
    · simp only [Layout.members, List.append_assoc, List.cons_append, List.mem_append, List.mem_cons] at h ih ⊢
      grind

theorem mem_array {xs : List Json} {c : Char} (h : c ∈ l.chars level (.array xs)) :
    c ∈ ['[', ',', ']'] ∨ (∃ k, c ∈ l.gap k) ∨ ∃ x ∈ xs, c ∈ l.chars (level + 1) x := by
  cases xs with
  | nil =>
    simp only [Layout.chars, List.mem_cons] at h ⊢
    grind
  | cons x xs =>
    simp only [Layout.chars, List.cons_append, List.mem_cons, List.mem_append] at h
    have hitems (h : c ∈ l.items (level + 1) (x :: xs)) := mem_items h
    simp only [List.mem_cons] at hitems ⊢
    grind

theorem mem_object {ms : List (String × Json)} {c : Char} (h : c ∈ l.chars level (.object ms)) :
    c ∈ ['{', ',', ':', '}'] ∨ (∃ k, c ∈ l.gap k) ∨ c ∈ l.colon ∨
      ∃ m ∈ ms, c ∈ quoted m.1 ∨ c ∈ l.chars (level + 1) m.2 := by
  cases ms with
  | nil =>
    simp only [Layout.chars, List.mem_cons] at h ⊢
    grind
  | cons m ms =>
    simp only [Layout.chars, List.cons_append, List.mem_cons, List.mem_append] at h
    have hmembers (h : c ∈ l.members (level + 1) (m :: ms)) := mem_members h
    simp only [List.mem_cons] at hmembers ⊢
    grind

theorem printed_of_mem {cs : List Char} (h : (cs.all fun c => decide (32 ≤ c.toNat)) = true) {c : Char}
    (hc : c ∈ cs) : 32 ≤ c.toNat := of_decide_eq_true (List.all_eq_true.1 h c hc)

/-- Without blanks a document has no control character. -/
theorem Readable.printed_compact {v : Json} (h : Readable number? depth v) {c : Char}
    (hc : c ∈ Layout.compact.chars level v) : 32 ≤ c.toNat := by
  induction h generalizing level c with
  | null =>
    rw [Layout.chars] at hc
    exact printed_of_mem (by decide) hc
  | boolean b =>
    cases b with
    | true =>
      rw [Layout.chars] at hc
      exact printed_of_mem (by decide) hc
    | false =>
      rw [Layout.chars] at hc
      exact printed_of_mem (by decide) hc
  | string s => exact printed_quoted hc
  | integer => exact printed_signed hc
  | array items ih =>
    rcases mem_array hc with hc | ⟨_, ⟨⟩⟩ | ⟨x, hx, hc⟩
    · exact printed_of_mem (by decide) hc
    · exact ih x hx hc
  | object members ih =>
    rcases mem_object hc with hc | ⟨_, ⟨⟩⟩ | ⟨⟨⟩⟩ | ⟨m, hm, hc | hc⟩
    · exact printed_of_mem (by decide) hc
    · exact printed_quoted hc
    · exact ih m hm hc

theorem Readable.lineFeed_notMem_compact {v : Json} (h : Readable number? depth v) :
    '\n' ∉ v.compact.toList := by
  rw [Json.compact, String.toList_ofList]
  intro hc
  exact absurd (h.printed_compact hc) (by decide)

end

/-! ## Whole texts -/

/-- Reads a whole text as one value, with integers of any length. -/
def unrounded? (s : String) : Option Json := readAll? Numeral.unrounded? s.toList

theorem unrounded?_compact {v : Json} (h : Readable Numeral.unrounded? deepest v) :
    unrounded? v.compact = some v := by
  rw [unrounded?, compact, String.toList_ofList, h.readAll?_chars]

theorem unrounded?_pretty {v : Json} (h : Readable Numeral.unrounded? deepest v) :
    unrounded? v.pretty = some v := by
  rw [unrounded?, pretty, String.toList_ofList, h.readAll?_chars]

theorem parse?_compact {v : Json} (h : Readable Numeral.number? deepest v) : parse? v.compact = some v := by
  rw [parse?, read?, compact, String.toList_ofList, h.readAll?_chars]

theorem parse?_pretty {v : Json} (h : Readable Numeral.number? deepest v) : parse? v.pretty = some v := by
  rw [parse?, read?, pretty, String.toList_ofList, h.readAll?_chars]

end Conformance.Json
