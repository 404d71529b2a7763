/-!
# Written numbers

Natural numbers written with the digits 0 to 9, most significant first: how such a text is made, read,
and read back within a bound. Signs, separators and leading zeros are the business of each caller. Numbers in
other bases are only read.
-/

namespace Conformance.Decimal

/-- An ASCII digit. -/
def isDigit (c : Char) : Bool := '0' ≤ c && c ≤ '9'

/-- The number a digit stands for. -/
def digitValue (c : Char) : Nat := c.toNat - '0'.toNat

/-- The number a run of digits stands for; the empty run is 0. -/
def value (cs : List Char) : Nat := cs.foldl (fun n c => 10 * n + digitValue c) 0

/-- The digits of a number, without leading zeros. -/
def digits (n : Nat) : List Char := Nat.toDigits 10 n

/-- The digits of a number, without leading zeros. -/
def text (n : Nat) : String := String.ofList (digits n)

/-- Reads one or more digits. -/
def read? (cs : List Char) : Option Nat :=
  if cs.isEmpty || !cs.all isDigit then none else some (value cs)

/-- Reads one or more digits written without a needless leading zero. -/
def readPlain? (cs : List Char) : Option Nat :=
  match cs with
  | '0' :: _ :: _ => none
  | _ => read? cs

/-- A number as a 16-bit word, if it is one. -/
def word16? (n : Int) : Option UInt16 :=
  if 0 ≤ n ∧ n < 65536 then some (UInt16.ofNat n.toNat) else none

/-- A number as a 64-bit word, if it is one. -/
def word64? (n : Int) : Option UInt64 :=
  if 0 ≤ n ∧ n < 18446744073709551616 then some (UInt64.ofNat n.toNat) else none

/-- The digits of an integer, a minus sign in front if it is negative. -/
def signed : Int → List Char
  | .ofNat n => digits n
  | .negSucc n => '-' :: digits (n + 1)

theorem isDigit_of_mem_digits {n : Nat} {c : Char} (h : c ∈ digits n) : isDigit c = true := by
  have hd := Nat.isDigit_of_mem_toDigits (by decide) (by decide) h
  simpa [isDigit, Char.isDigit, Char.le_def] using hd

theorem value_digits (n : Nat) : value (digits n) = n := by
  have h := Nat.ofDigitChars_ten_toDigits (n := n)
  rwa [Nat.ofDigitChars_eq_foldl] at h

theorem digits_injective {m n : Nat} (h : digits m = digits n) : m = n := by
  rw [← value_digits m, h, value_digits]

theorem digits_ne_nil (n : Nat) : digits n ≠ [] := Nat.toDigits_ne_nil

/-- No number of two or more digits starts with a zero. -/
theorem digits_ne_zero_cons (n : Nat) (c : Char) (cs : List Char) : digits n ≠ '0' :: c :: cs := by
  induction n using Nat.strongRecOn generalizing c cs with
  | ind n ih =>
    intro h
    by_cases hn : n < 10
    · rw [digits, Nat.toDigits_of_lt_base hn] at h
      simp at h
    · have hd : digits n = digits (n / 10) ++ [Nat.digitChar (n % 10)] :=
        Nat.toDigits_of_base_le (by decide) (by omega)
      have hv := value_digits (n / 10)
      cases hq : digits (n / 10) with
      | nil => exact digits_ne_nil _ hq
      | cons d ds =>
        rw [hd, hq, List.cons_append, List.cons.injEq] at h
        obtain ⟨rfl, -⟩ := h
        cases ds with
        | nil =>
          rw [hq] at hv
          have : n / 10 = 0 := hv.symm
          omega
        | cons e es => exact ih (n / 10) (by omega) e es hq

theorem readPlain?_digits (n : Nat) : readPlain? (digits n) = some n := by
  have hread : read? (digits n) = some n := by
    simp [read?, digits_ne_nil, value_digits]
    intro c hc
    exact isDigit_of_mem_digits hc
  unfold readPlain?
  split
  · exact absurd ‹_› (digits_ne_zero_cons n _ _)
  · exact hread

theorem isDigit_iff {c : Char} : isDigit c = true ↔ 48 ≤ c.toNat ∧ c.toNat ≤ 57 := by
  rw [isDigit, Bool.and_eq_true, decide_eq_true_eq, decide_eq_true_eq]
  rfl

theorem digitValue_lt {c : Char} (h : isDigit c = true) : digitValue c < 10 := by
  have hc := isDigit_iff.1 h
  show c.toNat - 48 < 10
  omega

theorem digits_digitValue {c : Char} (h : isDigit c = true) : digits (digitValue c) = [c] := by
  have hc := isDigit_iff.1 h
  rw [digits, Nat.toDigits_of_lt_base (digitValue_lt h), List.singleton_inj]
  apply Char.toNat_inj.1
  rw [Nat.toNat_digitChar_of_lt_ten (digitValue_lt h)]
  show 48 + (c.toNat - 48) = c.toNat
  omega

/-- Digits written behind a number other than zero. -/
theorem digits_append {n : Nat} {cs : List Char} (hn : 0 < n) (h : ∀ c ∈ cs, isDigit c = true) :
    digits n ++ cs = digits (cs.foldl (fun n c => 10 * n + digitValue c) n) := by
  induction cs generalizing n with
  | nil => exact List.append_nil _
  | cons c cs ih =>
    obtain ⟨hc, hcs⟩ := List.forall_mem_cons.1 h
    have happend : digits n ++ [c] = digits (10 * n + digitValue c) := by
      rw [← digits_digitValue hc]
      exact Nat.toDigits_append_toDigits (by decide) hn (digitValue_lt hc)
    rw [List.foldl_cons, ← ih (by omega) hcs, ← happend, List.append_assoc]
    rfl

/-- A number is read only from its own digits. -/
theorem digits_of_readPlain? {cs : List Char} {n : Nat} (h : readPlain? cs = some n) : digits n = cs := by
  cases cs with
  | nil => cases h
  | cons c cs =>
    have hread : read? (c :: cs) = some n ∧ (c = '0' → cs = []) := by
      unfold readPlain? at h
      split at h
      · cases h
      · rename_i hplain
        refine ⟨h, fun hc => ?_⟩
        cases cs with
        | nil => rfl
        | cons d ds => exact absurd (hc ▸ rfl) (hplain d ds)
    obtain ⟨hread, hzero⟩ := hread
    rw [read?, Option.ite_none_left_eq_some, Option.some.injEq] at hread
    obtain ⟨hdigits, rfl⟩ := hread
    simp only [List.isEmpty_cons, Bool.false_or, Bool.not_eq_true, Bool.not_eq_false', List.all_eq_true] at hdigits
    obtain ⟨hc, hcs⟩ := List.forall_mem_cons.1 hdigits
    by_cases hpos : 0 < digitValue c
    · have happend := digits_append hpos hcs
      rw [digits_digitValue hc] at happend
      rw [value, List.foldl_cons, Nat.mul_zero, Nat.zero_add, ← happend]
      rfl
    · have hc0 : c = '0' := by
        have := isDigit_iff.1 hc
        have : c.toNat - 48 = 0 := Nat.eq_zero_of_not_pos hpos
        exact Char.toNat_inj.1 (show c.toNat = 48 by omega)
      rw [hzero hc0, hc0]
      rfl

theorem read?_eq_some_iff {cs : List Char} {n : Nat} :
    read? cs = some n ↔ cs ≠ [] ∧ (∀ c ∈ cs, isDigit c = true) ∧ value cs = n := by
  rw [read?, Option.ite_none_left_eq_some]
  simp [and_assoc]

theorem word16?_toNat (w : UInt16) : word16? w.toNat = some w := by
  have hlt := w.toNat_lt
  rw [word16?, if_pos (by omega)]
  simp

theorem word64?_eq_some_iff {n : Nat} {w : UInt64} : word64? n = some w ↔ w.toNat = n := by
  rw [word64?]
  constructor
  · intro h
    split at h
    · cases h
      rw [Int.toNat_natCast, UInt64.toNat_ofNat_of_lt']
      simp only [UInt64.size]
      omega
    · cases h
  · rintro rfl
    have hlt := w.toNat_lt
    rw [if_pos (by omega)]
    simp

end Conformance.Decimal

/-! ## Other bases -/

namespace Conformance.Radix

/-- The value of a hexadecimal digit. -/
def digitValue? (c : Char) : Option Nat :=
  if '0' ≤ c ∧ c ≤ '9' then some (c.toNat - 48)
  else if 'a' ≤ c ∧ c ≤ 'f' then some (c.toNat - 87)
  else if 'A' ≤ c ∧ c ≤ 'F' then some (c.toNat - 55)
  else none

/-- A digit of a base up to 16. -/
def isDigit (base : Nat) (c : Char) : Bool := (digitValue? c).any (· < base)

/-- The number that a run of digits stands for, most significant first; the empty run is 0. -/
def value (base : Nat) (cs : List Char) : Nat :=
  cs.foldl (fun n c => base * n + (digitValue? c).getD 0) 0

end Conformance.Radix
