import Mathlib.Data.List.TakeDrop
import Conformance.Json.Printer
import Conformance.Json.Reader
/-!
# Tokens that are written are read back

A string in quotes and an integer in plain decimal are read back as what they were written from, whatever
follows the closing quote, and whatever that could not belong to a number follows the digits.
-/

namespace Conformance.Json

/-! ## Strings -/

/-- How a character is written inside a string: by a letter, by its number, or as itself. -/
inductive Escaped (c : Char) : List Char → Prop
  | letter {l : Char} (printed : 32 ≤ l.toNat) (notUnit : l ≠ 'u') (means : escaped? l = some c) :
    Escaped c ['\\', l]
  | unit (low : c.toNat < 32) : Escaped c ['\\', 'u', '0', '0', hexDigit (c.toNat / 16), hexDigit (c.toNat % 16)]
  | itself (printed : 32 ≤ c.toNat) (notQuote : c ≠ '"') (notBackslash : c ≠ '\\') : Escaped c [c]

theorem escaped_escape (c : Char) : Escaped c (escape c) := by
  by_cases hspecial : c ∈ ['"', '\\', '\n', '\r', '\t', Char.ofNat 8, Char.ofNat 12]
  · simp only [List.mem_cons, List.not_mem_nil, or_false] at hspecial
    rcases hspecial with rfl | rfl | rfl | rfl | rfl | rfl | rfl <;> exact .letter (by decide) (by decide) rfl
  · have hnumber (n : Nat) (h : c.toNat = n) : c = Char.ofNat n := by rw [← h, Char.ofNat_toNat]
    simp only [List.mem_cons, List.not_mem_nil, or_false, not_or] at hspecial
    obtain ⟨hquote, hbackslash, hfeed, hreturn, htab, hback, hform⟩ := hspecial
    rw [escape, if_neg hquote, if_neg hbackslash, if_neg hfeed, if_neg hreturn, if_neg htab,
      if_neg (mt (hnumber 8) hback), if_neg (mt (hnumber 12) hform)]
    split
    · exact .unit ‹_›
    · exact .itself (Nat.le_of_not_lt ‹_›) hquote hbackslash

/-- A character below U+0020 is told by its two last hexadecimal digits. -/
theorem hexUnit?_hexDigit {n : Nat} (h : n < 32) :
    hexUnit? '0' '0' (hexDigit (n / 16)) (hexDigit (n % 16)) = some n := by
  have hall : ∀ n < 32, hexUnit? '0' '0' (hexDigit (n / 16)) (hexDigit (n % 16)) = some n := by decide
  exact hall n h

/-- The written form of a character is read as that character. -/
theorem stringRest_escape (done : List Char) (c : Char) (rest : List Char) :
    stringRest none done (escape c ++ rest) = stringRest none (c :: done) rest := by
  have h := escaped_escape c
  generalize escape c = written at h ⊢
  cases h with
  | letter _ notUnit means => simp [stringRest, notUnit, means]
  | unit low =>
    refine (stringRest.eq_def ..).trans ?_
    simp only [List.cons_append, List.nil_append, hexUnit?_hexDigit low]
    rw [if_neg (by omega), if_neg (by omega), Char.ofNat_toNat]
  | itself printed notQuote notBackslash => simp [stringRest, notBackslash, Nat.not_lt.2 printed]

theorem stringRest_flatMap_escape (done cs rest : List Char) :
    stringRest none done (cs.flatMap escape ++ '"' :: rest) = some (String.ofList (done.reverse ++ cs), rest) := by
  induction cs generalizing done with
  | nil => simp [stringRest]
  | cons c cs ih =>
    rw [List.flatMap_cons, List.append_assoc, stringRest_escape, ih, List.reverse_cons, List.append_assoc]
    rfl

/-- A string in quotes is read up to the closing quote. -/
theorem stringRest_quoted (s : String) (rest : List Char) :
    ∃ cs, quoted s ++ rest = '"' :: cs ∧ stringRest none [] cs = some (s, rest) := by
  refine ⟨s.toList.flatMap escape ++ '"' :: rest, by simp [quoted], ?_⟩
  rw [stringRest_flatMap_escape]
  simp

/-- No control character is left in a string. -/
theorem printed_quoted {s : String} {c : Char} (h : c ∈ quoted s) : 32 ≤ c.toNat := by
  have hdigit : ∀ n < 16, 32 ≤ (hexDigit n).toNat := by decide
  simp only [quoted, List.cons_append, List.mem_cons, List.mem_append, List.mem_flatMap, List.not_mem_nil,
    or_false] at h
  rcases h with rfl | ⟨d, -, hc⟩ | rfl
  · decide
  · have hd := escaped_escape d
    generalize escape d = written at hc hd
    cases hd with
    | letter printed =>
      simp only [List.mem_cons, List.not_mem_nil, or_false] at hc
      rcases hc with rfl | rfl
      · decide
      · exact printed
    | unit low =>
      simp only [List.mem_cons, List.not_mem_nil, or_false] at hc
      rcases hc with rfl | rfl | rfl | rfl | rfl | rfl
      · decide
      · decide
      · decide
      · decide
      · exact hdigit _ (by omega)
      · exact hdigit _ (by omega)
    | itself printed =>
      rw [List.mem_singleton.1 hc]
      exact printed
  · decide

/-! ## Numbers -/

/-- What follows a number is no part of it. -/
def Ends (rest : List Char) : Prop := ∀ c ∈ rest.head?, Decimal.isDigit c = false ∧ c ∉ ['.', 'e', 'E']

/-- The numeral of an integer. -/
def Numeral.ofInt (n : Int) : Numeral := ⟨decide (n < 0), Decimal.digits n.natAbs, [], false, [], true⟩

theorem signed_eq (n : Int) :
    Decimal.signed n = (if n < 0 then ['-'] else []) ++ Decimal.digits n.natAbs := by
  cases n with
  | ofNat n => simp [Decimal.signed]
  | negSucc n => simp [Decimal.signed, Int.negSucc_lt_zero]

theorem printed_signed {n : Int} {c : Char} (h : c ∈ Decimal.signed n) : 32 ≤ c.toNat := by
  rw [signed_eq, List.mem_append] at h
  rcases h with h | h
  · split at h
    · rw [List.mem_singleton.1 h]
      decide
    · cases h
  · have hc := Decimal.isDigit_of_mem_digits h
    simp only [Decimal.isDigit, Bool.and_eq_true, decide_eq_true_eq] at hc
    have hle : '0'.toNat ≤ c.toNat := hc.1
    exact Nat.le_trans (by decide) hle

theorem span_digits (n : Nat) {rest : List Char} (h : Ends rest) :
    (Decimal.digits n ++ rest).span Decimal.isDigit = (Decimal.digits n, rest) := by
  have hdigits : ∀ c ∈ Decimal.digits n, Decimal.isDigit c = true := fun _ => Decimal.isDigit_of_mem_digits
  have hrest : rest.takeWhile Decimal.isDigit = [] ∧ rest.dropWhile Decimal.isDigit = rest := by
    cases rest with
    | nil => exact ⟨rfl, rfl⟩
    | cons c cs => simp [(h c rfl).1]
  rw [List.span_eq_takeWhile_dropWhile, List.takeWhile_append_of_pos hdigits,
    List.dropWhile_append_of_pos hdigits, hrest.1, hrest.2, List.append_nil]

theorem digits_ne_minus_cons (n : Nat) (rest r : List Char) : Decimal.digits n ++ rest ≠ '-' :: r := by
  intro h
  cases hdigits : Decimal.digits n with
  | nil => exact Decimal.digits_ne_nil n hdigits
  | cons d ds =>
    have hd : Decimal.isDigit d = true := Decimal.isDigit_of_mem_digits (n := n) (by simp [hdigits])
    rw [hdigits, List.cons_append, List.cons.injEq] at h
    rw [h.1] at hd
    cases hd

theorem unsigned?_digits (negative : Bool) (n : Nat) {rest : List Char} (h : Ends rest) :
    unsigned? negative (Decimal.digits n ++ rest) =
      some (⟨negative, Decimal.digits n, [], false, [], true⟩, rest) := by
  rw [unsigned?]
  simp only [span_digits n h, Decimal.readPlain?_digits]
  cases rest with
  | nil => rfl
  | cons c cs =>
    obtain ⟨-, hc⟩ := h c rfl
    simp only [List.mem_cons, List.not_mem_nil, or_false, not_or] at hc
    simp [hc]

/-- An integer is read up to the end of its digits. -/
theorem numeral?_signed (n : Int) {rest : List Char} (h : Ends rest) :
    numeral? (Decimal.signed n ++ rest) = some (.ofInt n, rest) := by
  rw [signed_eq, Numeral.ofInt]
  by_cases hn : n < 0
  · rw [if_pos hn, decide_eq_true hn]
    exact unsigned?_digits true n.natAbs h
  · rw [if_neg hn, decide_eq_false hn, List.nil_append, numeral?.eq_2 _ fun r => digits_ne_minus_cons _ _ r]
    exact unsigned?_digits false n.natAbs h

/-- The integers from `-2 ^ 63` up to `2 ^ 64` are read as such. -/
theorem Numeral.number?_ofInt {n : Int} (hleast : -9223372036854775808 ≤ n)
    (hgreatest : n < 18446744073709551616) :
    (ofInt n).number? = some (.integer n) := by
  have hpow : Nat.pow 2 63 = 9223372036854775808 := rfl
  rw [number?, ofInt]
  simp only [Decimal.value_digits, hpow, UInt64.size]
  by_cases hn : n < 0
  · have hnonzero : (n.natAbs != 0) = true := bne_iff_ne.2 (by omega)
    have hsize : n.natAbs ≤ 9223372036854775808 := by omega
    have hvalue : -(n.natAbs : Int) = n := by omega
    simp only [hn, hnonzero, decide_true, Bool.and_self, Bool.true_and, hvalue]
    rw [if_pos (decide_eq_true hsize)]
  · have hsize : n.natAbs < 18446744073709551616 := by omega
    have hvalue : (n.natAbs : Int) = n := by omega
    simp only [hn, decide_false, Bool.and_false, Bool.false_and, Bool.false_eq_true, if_false, hvalue]
    rw [if_pos (by simpa only [Bool.not_false, Bool.true_and, decide_eq_true_eq] using hsize)]

/-- The number a numeral denotes, an integer of any length as it stands. -/
def Numeral.unrounded? (t : Numeral) : Option Number :=
  let n := Decimal.value t.whole
  if t.plain then some (.integer (if t.negative then -n else n)) else t.number?

theorem Numeral.unrounded?_ofInt (n : Int) : (ofInt n).unrounded? = some (.integer n) := by
  have hvalue : (if n < 0 then -(n.natAbs : Int) else n.natAbs) = n := by omega
  simp only [unrounded?, ofInt, Decimal.value_digits, if_true, decide_eq_true_eq, hvalue]

end Conformance.Json
