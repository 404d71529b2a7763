import Conformance.Proofs.Text.Pieces
import Conformance.Url.Address
/-!
# Addresses are read back

Every address of four bytes and every address of eight pieces is read back from its text. In the latter the longest
run of zeros is left out where it is worth it, and the double colon in its place says how long it was.
-/

namespace Conformance

/-- Texts without a separator are the pieces of what they are joined to with it. -/
theorem Text.split_join {sep : Char} {texts : List String} (h : ∀ text ∈ texts, sep ∉ text.toList) (hne : texts ≠ []) :
    split sep (join (String.ofList [sep]) texts).toList = texts.map String.toList := by
  have hpieces : ∀ piece ∈ texts.map String.toList, sep ∉ piece := by
    simpa using h
  rw [split_eq_splitOn, join_eq_intercalate, String.toList_intercalate, String.toList_ofList,
    List.splitOn_intercalate sep hpieces (by simpa using hne)]

/-! ## Numbers -/

namespace Radix

theorem value_append (base : Nat) (cs : List Char) (c : Char) :
    value base (cs ++ [c]) = base * value base cs + (digitValue? c).getD 0 := by
  rw [value, List.foldl_append]
  rfl

/-- A number is read back from its digits. -/
theorem value_toDigits {base : Nat} (hlow : 1 < base) (hhigh : base ≤ 16) (n : Nat) :
    value base (Nat.toDigits base n) = n := by
  have hdigit : ∀ d < 16, digitValue? (Nat.digitChar d) = some d := by decide
  induction n using Nat.strongRecOn with
  | ind n ih =>
    by_cases hn : n < base
    · rw [Nat.toDigits_of_lt_base hn, ← List.nil_append [_], value_append, hdigit n (by omega)]
      simp [value]
    · have hmod := Nat.mod_lt n (show 0 < base by omega)
      rw [Nat.toDigits_of_base_le hlow (Nat.not_lt.1 hn), value_append,
        ih (n / base) (Nat.div_lt_self (by omega) hlow), hdigit _ (by omega)]
      exact Nat.div_add_mod n base

end Radix

theorem mem_toDigits {base n : Nat} {c : Char} (hlow : 1 < base) (hhigh : base ≤ 16) (h : c ∈ Nat.toDigits base n) :
    ∃ d < base, c = Nat.digitChar d := by
  induction n using Nat.strongRecOn with
  | ind n ih =>
    by_cases hn : n < base
    · rw [Nat.toDigits_of_lt_base hn, List.mem_singleton] at h
      exact ⟨n, hn, h⟩
    · rw [Nat.toDigits_of_base_le hlow (Nat.not_lt.1 hn), List.mem_append, List.mem_singleton] at h
      rcases h with h | rfl
      · exact ih (n / base) (Nat.div_lt_self (by omega) hlow) h
      · exact ⟨_, Nat.mod_lt n (by omega), rfl⟩

/-! ## Four bytes -/

namespace Ipv4
variable {a : Ipv4} {n : Nat} {c : Char}

/-- The bytes of an address, the highest first. -/
def bytes (a : Ipv4) : List Nat :=
  let n := a.value.toNat
  [n / Nat.pow 256 3, n / Nat.pow 256 2 % 256, n / 256 % 256, n % 256]

theorem text_ne_empty (a : Ipv4) : a.text ≠ "" := by simp [text, Text.join]

theorem text_eq (a : Ipv4) : a.text = Text.join "." (a.bytes.map Decimal.text) := rfl

theorem mem_text (h : c ∈ a.text.toList) : c = '.' ∨ Decimal.isDigit c = true := by
  rcases Text.mem_join h with h | ⟨piece, hpiece, h⟩
  · exact .inl (List.mem_singleton.1 h)
  · obtain ⟨n, -, rfl⟩ := List.mem_map.1 hpiece
    rw [Decimal.text, String.toList_ofList] at h
    exact .inr (Decimal.isDigit_of_mem_digits h)

/-- Digits without a needless zero in front are read as decimal. -/
theorem part?_digits (n : Nat) : part? (Decimal.digits n) = some n := by
  have hdigits : ∀ c ∈ Decimal.digits n, Radix.isDigit 10 c = true := by
    have hdigit : ∀ d < 10, Radix.isDigit 10 (Nat.digitChar d) = true := by decide
    intro c hc
    obtain ⟨d, hd, rfl⟩ := mem_toDigits (by decide) (by decide) hc
    exact hdigit d hd
  have hdecimal : digits? 10 (Decimal.digits n) = some n := by
    rw [digits?, if_pos (List.all_eq_true.2 hdigits), Decimal.digits, Radix.value_toDigits (by decide) (by decide)]
  unfold part?
  split
  · rename_i h
    exact absurd h (Decimal.digits_ne_nil n)
  · rename_i h
    exact absurd h (Decimal.digits_ne_zero_cons n _ _)
  · rename_i h
    exact absurd h (Decimal.digits_ne_zero_cons n _ _)
  · rename_i h
    exact absurd h (Decimal.digits_ne_zero_cons n _ _)
  · exact hdecimal

theorem parts_text (a : Ipv4) : parts a.text.toList = a.bytes.map Decimal.digits := by
  have hdot : ∀ text ∈ a.bytes.map Decimal.text, '.' ∉ text.toList := by
    intro text htext h
    obtain ⟨n, -, rfl⟩ := List.mem_map.1 htext
    rw [Decimal.text, String.toList_ofList] at h
    exact absurd (Decimal.isDigit_of_mem_digits h) (by decide)
  have hsplit : Text.split '.' a.text.toList = a.bytes.map Decimal.digits := by
    rw [text_eq, show "." = String.ofList ['.'] from rfl, Text.split_join hdot (by simp [bytes]), List.map_map]
    simp [Function.comp_def, Decimal.text]
  have hlast : (a.bytes.map Decimal.digits).getLast? ≠ some [] := by
    simp [bytes, Decimal.digits_ne_nil]
  rw [parts, hsplit]
  exact if_neg fun h => hlast h.2

theorem endsInNumber_text (a : Ipv4) : endsInNumber a.text.toList = true := by
  rw [endsInNumber, parts_text]
  simp [bytes, part?_digits]

/-- The bytes of an address make it up. -/
theorem ofParts?_bytes (a : Ipv4) : ofParts? a.bytes = some a := by
  have hlt := a.value.toNat_lt
  have hlast : a.bytes.getLast? = some (a.value.toNat % 256) := rfl
  have hfit : ¬(3 < a.bytes.dropLast.length ∨ a.bytes.dropLast.any (255 < ·) = true ∨
      Nat.pow 256 (4 - a.bytes.dropLast.length) ≤ a.value.toNat % 256) := by
    simp [bytes]
    omega
  have hsum : a.bytes.dropLast.foldl (fun n b => 256 * n + b) 0 * Nat.pow 256 (4 - a.bytes.dropLast.length) +
      a.value.toNat % 256 = a.value.toNat := by
    simp [bytes]
    omega
  rw [ofParts?, hlast]
  simp only
  rw [if_neg hfit, hsum, UInt32.ofNat_toNat]

/-- Every address is read back. -/
theorem parse?_text (a : Ipv4) : parse? a.text.toList = some a := by
  have hparts : (a.bytes.map Decimal.digits).mapM part? = some a.bytes := by
    simp [bytes, part?_digits]
  rw [parse?, parts_text, hparts]
  exact ofParts?_bytes a

end Ipv4

/-! ## Eight pieces -/

namespace Ipv6
variable {a : Ipv6} {p : UInt16} {ps : List UInt16} {c : Char}

theorem mem_pieceText (h : c ∈ (pieceText p).toList) : ∃ d < 16, c = Nat.digitChar d := by
  rw [pieceText, String.toList_ofList] at h
  exact mem_toDigits (by decide) (by decide) h

theorem mem_joined (h : c ∈ (joined ps).toList) : c = ':' ∨ ∃ d < 16, c = Nat.digitChar d := by
  rcases Text.mem_join h with h | ⟨piece, hpiece, h⟩
  · exact .inl (List.mem_singleton.1 h)
  · obtain ⟨p, -, rfl⟩ := List.mem_map.1 hpiece
    exact .inr (mem_pieceText h)

theorem mem_text (h : c ∈ a.text.toList) : c = ':' ∨ ∃ d < 16, c = Nat.digitChar d := by
  have hcolons : "::".toList = [':', ':'] := rfl
  unfold text at h
  simp only at h
  split at h
  · exact mem_joined h
  · simp only [String.toList_append, List.mem_append, hcolons, List.mem_cons, List.not_mem_nil, or_false, or_self] at h
    rcases h with (h | h) | h
    · exact mem_joined h
    · exact .inl h
    · exact mem_joined h

theorem pieceText_ne_nil (p : UInt16) : (pieceText p).toList ≠ [] := by
  rw [pieceText, String.toList_ofList]
  exact Nat.toDigits_ne_nil

theorem colon_notMem_pieceText (p : UInt16) : ':' ∉ (pieceText p).toList := fun h =>
  absurd (mem_pieceText h) (by decide)

theorem toList_joined_cons (p q : UInt16) (ps : List UInt16) :
    (joined (p :: q :: ps)).toList = (pieceText p).toList ++ ':' :: (joined (q :: ps)).toList := by
  simp [joined, Text.join]

/-- A text of pieces starts with a digit. -/
theorem exists_joined_cons (p : UInt16) (ps : List UInt16) : ∃ c cs, (joined (p :: ps)).toList = c :: cs ∧ c ≠ ':' := by
  obtain ⟨c, cs, hchars⟩ := List.exists_cons_of_ne_nil (pieceText_ne_nil p)
  have hc : c ≠ ':' := by
    rintro rfl
    exact colon_notMem_pieceText p (hchars ▸ List.mem_cons_self)
  cases ps with
  | nil => exact ⟨c, cs, hchars, hc⟩
  | cons q ps => exact ⟨c, _, by rw [toList_joined_cons, hchars, List.cons_append], hc⟩

theorem piece?_pieceText (p : UInt16) : piece? (pieceText p).toList = some p := by
  have hdigit : ∀ d < 16, Radix.isDigit 16 (Nat.digitChar d) = true := by decide
  have hall : (pieceText p).toList.all (Radix.isDigit 16) = true := by
    refine List.all_eq_true.2 fun c hc => ?_
    obtain ⟨d, hd, rfl⟩ := mem_pieceText hc
    exact hdigit d hd
  have hlength : (pieceText p).toList.length ≤ 4 := by
    rw [pieceText, String.toList_ofList, Nat.length_toDigits_le_iff (by decide) (by decide)]
    exact p.toNat_lt
  have hvalue : Radix.value 16 (pieceText p).toList = p.toNat := by
    rw [pieceText, String.toList_ofList, Radix.value_toDigits (by decide) (by decide)]
  have hbounds : ((pieceText p).toList.isEmpty || decide (4 < (pieceText p).toList.length)) = false := by
    simp only [Bool.or_eq_false_iff, List.isEmpty_eq_false_iff, decide_eq_false_iff_not, Nat.not_lt]
    exact ⟨pieceText_ne_nil p, hlength⟩
  rw [piece?, hbounds, hall, hvalue, UInt16.ofNat_toNat]
  rfl

theorem pieces?_map (ps : List UInt16) : pieces? (ps.map fun p => (pieceText p).toList) = some ps := by
  induction ps with
  | nil => rfl
  | cons p ps ih =>
    cases ps with
    | nil =>
      have hdot : (pieceText p).toList.contains '.' = false := by
        rw [List.contains_eq_mem, decide_eq_false_iff_not]
        exact fun h => absurd (mem_pieceText h) (by decide)
      simp only [List.map_cons, List.map_nil, pieces?, hdot, piece?_pieceText]
      rfl
    | cons q ps =>
      rw [List.map_cons] at ih ⊢
      rw [List.map_cons, pieces?, piece?_pieceText, ih]
      · rfl
      · exact nofun

/-- Pieces are read back, none of them dotted. -/
theorem side?_joined (ps : List UInt16) : side? (joined ps).toList = some ps := by
  by_cases hne : ps = []
  · rw [hne]
    rfl
  · have hcolon : ∀ text ∈ ps.map pieceText, ':' ∉ text.toList := by
      simp only [List.mem_map, forall_exists_index, and_imp, forall_apply_eq_imp_iff₂]
      exact fun p _ => colon_notMem_pieceText p
    have hsplit : Text.split ':' (joined ps).toList = ps.map fun p => (pieceText p).toList := by
      rw [joined, show ":" = String.ofList [':'] from rfl, Text.split_join hcolon (by simpa using hne), List.map_map]
      rfl
    obtain ⟨p, ps, rfl⟩ := List.exists_cons_of_ne_nil hne
    obtain ⟨c, cs, hchars, -⟩ := exists_joined_cons p ps
    rw [side?, hsplit, pieces?_map, hchars]
    rfl

/-- Characters other than colons open no gap. -/
theorem gap?_append {word : List Char} (h : ':' ∉ word) (rest : List Char) :
    gap? (word ++ rest) = (gap? rest).map fun (a, b) => (word ++ a, b) := by
  induction word with
  | nil => simp
  | cons c word ih =>
    rw [List.mem_cons, not_or] at h
    rw [List.cons_append, gap?, ih h.2, Option.map_map]
    · rfl
    · rintro cs rfl -
      exact h.1 rfl

/-- A single colon opens no gap. -/
theorem gap?_colon {c : Char} (h : c ≠ ':') (rest : List Char) :
    gap? (':' :: c :: rest) = (gap? (c :: rest)).map fun (a, b) => (':' :: a, b) := by
  rw [gap?]
  rintro cs - hcs
  exact h (List.cons.inj hcs).1

/-- The first gap behind a text of pieces is the first one behind it. -/
theorem gap?_joined_append (ps : List UInt16) (rest : List Char) :
    gap? ((joined ps).toList ++ rest) = (gap? rest).map fun (a, b) => ((joined ps).toList ++ a, b) := by
  induction ps with
  | nil => simp [joined, Text.join]
  | cons p ps ih =>
    cases ps with
    | nil => exact gap?_append (colon_notMem_pieceText p) rest
    | cons q ps =>
      obtain ⟨c, cs, hchars, hc⟩ := exists_joined_cons q ps
      rw [toList_joined_cons, List.append_assoc, gap?_append (colon_notMem_pieceText p), List.cons_append]
      rw [hchars] at ih ⊢
      rw [List.cons_append, gap?_colon hc, ← List.cons_append, ih, Option.map_map, Option.map_map]
      simp [Function.comp_def]

/-- What is left out is a run of zero pieces. -/
theorem longestGap_cases (i : Nat) (ps : List UInt16) :
    ∃ before behind, ps = before ++ List.replicate (longestGap i ps).2 0 ++ behind ∧
      (longestGap i ps).1 = i + before.length := by
  induction ps generalizing i with
  | nil => exact ⟨[], [], rfl, rfl⟩
  | cons p ps ih =>
    rw [longestGap]
    split
    · have hzero : ∀ q ∈ (p :: ps).takeWhile (· == 0), q = 0 := fun q hq => by
        simpa using List.mem_takeWhile_imp (p := (· == 0)) hq
      refine ⟨[], (p :: ps).dropWhile (· == 0), ?_, rfl⟩
      rw [List.nil_append, zeros, ← List.eq_replicate_of_mem hzero, List.takeWhile_append_dropWhile]
    · obtain ⟨before, behind, hps, hstart⟩ := ih (i + 1)
      refine ⟨p :: before, behind, ?_, ?_⟩
      · rw [List.cons_append, List.cons_append, ← hps]
      · rw [hstart, List.length_cons]
        omega

/-- Every address of eight pieces is read back. -/
theorem parse?_text (h : a.pieces.length = 8) : parse? a.text.toList = some a := by
  obtain ⟨before, behind, hpieces, hstart⟩ := longestGap_cases 0 a.pieces
  rw [Nat.zero_add] at hstart
  rw [text]
  simp only
  split
  · have hgap : gap? (joined a.pieces).toList = none := by
      have hnone := gap?_joined_append a.pieces []
      rwa [List.append_nil] at hnone
    rw [parse?, hgap]
    simp [side?_joined, h]
  · -- two texts of pieces stand around the double colon, and as many zeros as they lack of eight pieces go between
    rename_i hsize
    generalize (longestGap 0 a.pieces).2 = size at *
    have htake : a.pieces.take (longestGap 0 a.pieces).1 = before := by
      rw [hstart, hpieces]
      simp
    have hdrop : a.pieces.drop ((longestGap 0 a.pieces).1 + size) = behind := by
      rw [hstart, hpieces]
      simp
    have hchars : (joined before ++ "::" ++ joined behind).toList =
        (joined before).toList ++ ':' :: ':' :: (joined behind).toList := by simp
    have hgap : gap? ((joined before).toList ++ ':' :: ':' :: (joined behind).toList) =
        some ((joined before).toList, (joined behind).toList) := by
      rw [gap?_joined_append]
      simp [gap?]
    have hdot : (joined before).toList.contains '.' = false := by
      rw [List.contains_eq_mem, decide_eq_false_iff_not]
      exact fun hmem => absurd (mem_joined hmem) (by decide)
    have hlength : before.length + size + behind.length = 8 := by
      rw [← h, hpieces]
      simp [Nat.add_assoc]
    rw [htake, hdrop, hchars, parse?, hgap]
    have hshort : ¬8 ≤ before.length + behind.length := by omega
    have hmissing : 8 - before.length - behind.length = size := by omega
    simp only [hdot, side?_joined, Option.bind_eq_bind, Option.bind_some, Bool.false_eq_true, if_false, hshort,
      hmissing, ← hpieces]
    rfl

theorem length_of_parse? {cs : List Char} (h : parse? cs = some a) : a.pieces.length = 8 := by
  unfold parse? at h
  split at h
  · obtain ⟨ps, -, h⟩ := Option.bind_eq_some_iff.1 h
    rw [Option.ite_none_right_eq_some] at h
    obtain ⟨hlength, h⟩ := h
    cases h
    exact hlength
  · split at h
    · cases h
    · obtain ⟨before, -, h⟩ := Option.bind_eq_some_iff.1 h
      obtain ⟨behind, -, h⟩ := Option.bind_eq_some_iff.1 h
      split at h
      · cases h
      · cases h
        simp
        omega

end Ipv6

end Conformance
