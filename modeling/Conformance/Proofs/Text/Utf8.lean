/-!
# Texts, their bytes, and lines of bytes

A text is read back from its bytes, and its bytes have no line feed unless the text has one. So the lines of a
file that texts were appended to, each with a line feed behind it, are the lines it had and these texts.
-/

namespace Conformance.Text

/-! ## Bytes -/

theorem fromUTF8?_toUTF8 (s : String) : String.fromUTF8? s.toUTF8 = some s := dif_pos s.isValidUTF8

theorem fromUTF8?_eq_some_iff {bytes : ByteArray} {s : String} :
    String.fromUTF8? bytes = some s ↔ bytes = s.toUTF8 := by
  constructor
  · intro h
    unfold String.fromUTF8? at h
    split at h
    · cases h
      rfl
    · cases h
  · rintro rfl
    exact fromUTF8?_toUTF8 s

theorem toUTF8_injective {s t : String} (h : s.toUTF8 = t.toUTF8) : s = t := by
  have hs := fromUTF8?_toUTF8 s
  rw [h, fromUTF8?_toUTF8 t] at hs
  exact (Option.some.inj hs).symm

theorem toUTF8_append (s t : String) : (s ++ t).toUTF8 = s.toUTF8 ++ t.toUTF8 := String.toByteArray_append

/-- The byte of a line feed. -/
def lineFeed : UInt8 := 10

/-- No other character has the byte of a line feed in its encoding. -/
theorem eq_of_lineFeed_mem {c : Char} (h : lineFeed ∈ String.utf8EncodeChar c) : c = '\n' := by
  have hbyte (n : Nat) (h : lineFeed = UInt8.ofNat n) : n % 256 = 10 := by
    have h := congrArg UInt8.toNat h
    rw [UInt8.toNat_ofNat'] at h
    exact h.symm
  have hhigh (ns : List Nat) (hns : ∀ n ∈ ns, 128 ≤ n % 256) : lineFeed ∉ ns.map UInt8.ofNat := by
    intro h
    obtain ⟨n, hn, h⟩ := List.mem_map.1 h
    have := hns n hn
    have := hbyte n h.symm
    omega
  -- only the encoding in one byte has a byte below 128
  by_cases hone : c.val.toNat ≤ 127
  · simp only [String.utf8EncodeChar, hone, if_true, List.mem_singleton] at h
    have := hbyte _ h
    exact Char.ext (UInt32.toNat_inj.1 (show c.val.toNat = 10 by omega))
  · exfalso
    simp only [String.utf8EncodeChar, hone, if_false] at h
    repeat' split at h
    · exact hhigh [_, _] (by simp; omega) h
    · exact hhigh [_, _, _] (by simp; omega) h
    · exact hhigh [_, _, _, _] (by simp; omega) h

theorem toList_data_toUTF8 (s : String) : s.toUTF8.data.toList = s.toList.flatMap String.utf8EncodeChar := by
  rw [String.toUTF8_eq_toByteArray, ← String.utf8Encode_toList, List.utf8Encode, List.data_toByteArray]

theorem lineFeed_notMem_toUTF8 {s : String} (h : '\n' ∉ s.toList) : lineFeed ∉ s.toUTF8.data.toList := by
  rw [toList_data_toUTF8, List.mem_flatMap]
  rintro ⟨c, hc, hbyte⟩
  exact h (eq_of_lineFeed_mem hbyte ▸ hc)

/-! ## Lines -/

/-- The lines of a file, each up to its line feed, and what stands behind the last line feed. -/
def lines (file : ByteArray) : List ByteArray × ByteArray :=
  let pieces := (file.data.toList.splitOn lineFeed).map List.toByteArray
  (pieces.dropLast, pieces.getLast?.getD .empty)

theorem splitOn_append_cons (a b : List UInt8) :
    (a ++ lineFeed :: b).splitOn lineFeed = a.splitOn lineFeed ++ b.splitOn lineFeed :=
  List.splitOnP_append_cons a b (beq_self_eq_true lineFeed)

theorem toByteArray_toList_data (b : ByteArray) : b.data.toList.toByteArray = b := by
  apply ByteArray.ext
  rw [List.data_toByteArray]

/-- The bytes behind a line feed are lines of their own. -/
theorem lines_append {old added : ByteArray} (h : old = .empty ∨ ∃ before, old = before ++ "\n".toUTF8) :
    lines (old ++ added) = ((lines old).1 ++ (lines added).1, (lines added).2) := by
  rcases h with rfl | ⟨before, rfl⟩
  · rw [ByteArray.empty_append]
    rfl
  · have hold : (before ++ "\n".toUTF8).data.toList = before.data.toList ++ lineFeed :: [] :=
      ByteArray.toList_data_append
    have hnew : (before ++ "\n".toUTF8 ++ added).data.toList =
        before.data.toList ++ lineFeed :: added.data.toList := by
      rw [ByteArray.toList_data_append, hold, List.append_assoc]
      rfl
    have hne : (added.data.toList.splitOn lineFeed).map List.toByteArray ≠ [] := by simp
    simp only [lines, hold, hnew, splitOn_append_cons, List.map_append, List.splitOn_nil, List.map_singleton,
      List.dropLast_concat, List.dropLast_append_of_ne_nil hne, List.getLast?_append,
      List.getLast?_eq_some_getLast hne, Option.some_or]

/-- Texts without a line feed, each with one behind it, are lines. -/
theorem lines_join {texts : List String} (h : ∀ text ∈ texts, '\n' ∉ text.toList) :
    lines (String.join (texts.map (· ++ "\n"))).toUTF8 = (texts.map String.toUTF8, .empty) := by
  induction texts with
  | nil => rfl
  | cons text rest ih =>
    have hline : lines (text ++ "\n").toUTF8 = ([text.toUTF8], .empty) := by
      have hbytes : (text ++ "\n").toUTF8.data.toList = text.toUTF8.data.toList ++ lineFeed :: [] := by
        rw [toUTF8_append, ByteArray.toList_data_append]
        rfl
      have htext := lineFeed_notMem_toUTF8 (h text List.mem_cons_self)
      simp only [lines, hbytes, splitOn_append_cons, List.splitOn_eq_singleton htext, List.splitOn_nil,
        List.singleton_append, List.map_cons, List.map_nil, toByteArray_toList_data]
      rfl
    have hrest := ih fun t ht => h t (List.mem_cons_of_mem text ht)
    have happend : (String.join ((text :: rest).map (· ++ "\n"))).toUTF8 =
        (text ++ "\n").toUTF8 ++ (String.join (rest.map (· ++ "\n"))).toUTF8 := by
      rw [List.map_cons, String.join_cons, toUTF8_append]
    rw [happend, lines_append (.inr ⟨text.toUTF8, toUTF8_append text "\n"⟩), hline, hrest]
    rfl

end Conformance.Text
