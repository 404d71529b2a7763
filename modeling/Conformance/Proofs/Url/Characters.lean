import Mathlib.Data.List.TakeDrop
import Mathlib.Data.List.TakeWhile
import Conformance.Proofs.Result
import Conformance.Proofs.Text.Pieces
import Conformance.Url.Reader
/-!
# The characters of an authority

What is read as user information is encoded, and a name is looked up by plain characters of ASCII. So no character
of either ends an authority, is a blank or a control, or is the `@` that stands behind the user information.
-/

namespace Conformance

/-! ## Characters -/

namespace Url

/-- A character an authority is written with: it is neither a blank nor a control, and it ends no authority. -/
def InAuthority (c : Char) : Prop := 0x20 < c.toNat ∧ endsAuthority true c = false

/-- A character of user information, of a host or of a port. -/
def InPart (c : Char) : Prop := InAuthority c ∧ c ≠ '@'

instance (c : Char) : Decidable (InAuthority c) :=
  inferInstanceAs (Decidable (0x20 < c.toNat ∧ endsAuthority true c = false))

instance (c : Char) : Decidable (InPart c) := inferInstanceAs (Decidable (InAuthority c ∧ c ≠ '@'))

end Url

/-- What holds of all characters of ASCII, one by one. -/
theorem Text.ascii_induction {p : Char → Prop} (h : ∀ n < 0x80, p (Char.ofNat n)) {c : Char} (hc : c.toNat < 0x80) :
    p c := by
  simpa using h c.toNat hc

/-! ## Encoding -/

namespace Percent

variable {isEncoded : Char → Bool} {c : Char} {cs : List Char}

theorem mem_ofByte {b : UInt8} (h : c ∈ ofByte b) : c = '%' ∨ ∃ n < 16, c = hexDigit n := by
  have hhigh : b.toNat / 16 < 16 := by have := b.toNat_lt; omega
  have hlow : b.toNat % 16 < 16 := Nat.mod_lt _ (by decide)
  simp only [ofByte, List.mem_cons, List.not_mem_nil, or_false] at h
  rcases h with rfl | rfl | rfl
  · exact .inl rfl
  · exact .inr ⟨_, hhigh, rfl⟩
  · exact .inr ⟨_, hlow, rfl⟩

/-- An encoded text has characters that need not be encoded, percent signs and digits. -/
theorem mem_encode (h : c ∈ encode isEncoded cs) : isEncoded c = false ∨ c = '%' ∨ ∃ n < 16, c = hexDigit n := by
  obtain ⟨d, -, hc⟩ := List.mem_flatMap.1 h
  unfold encodeChar at hc
  split at hc
  · obtain ⟨b, -, hc⟩ := List.mem_flatMap.1 hc
    exact .inr (mem_ofByte hc)
  · rename_i hd
    rw [List.mem_singleton.1 hc]
    exact .inl (Bool.not_eq_true _ ▸ hd)

theorem encode_of_forall (h : ∀ c ∈ cs, isEncoded c = false) : encode isEncoded cs = cs := by
  induction cs with
  | nil => rfl
  | cons c cs ih =>
    obtain ⟨hc, hcs⟩ := List.forall_mem_cons.1 h
    rw [encode, List.flatMap_cons, encodeChar, hc, ← encode, ih hcs]
    rfl

theorem encode_ne_nil (h : cs ≠ []) : encode isEncoded cs ≠ [] := by
  obtain ⟨c, cs, rfl⟩ := List.exists_cons_of_ne_nil h
  have hchar : encodeChar isEncoded c ≠ [] := by
    unfold encodeChar
    split
    · obtain ⟨b, hb⟩ := List.exists_mem_of_ne_nil _ (String.utf8EncodeChar_ne_nil (c := c))
      exact List.ne_nil_of_mem (List.mem_flatMap_of_mem hb List.mem_cons_self)
    · exact List.cons_ne_nil c []
  rw [encode, List.flatMap_cons]
  exact List.append_ne_nil_of_left_ne_nil hchar _

/-- Characters of encoded user information. -/
theorem inUser_of_mem_encode (h : c ∈ encode inUser cs) : inUser c = false := by
  have hdigit : ∀ n < 16, inUser (hexDigit n) = false := by decide
  rcases mem_encode h with h | rfl | ⟨n, hn, rfl⟩
  · exact h
  · decide
  · exact hdigit n hn

theorem inPart_of_inUser (h : inUser c = false) : Url.InPart c ∧ c ≠ ':' := by
  have hascii : c.toNat < 0x80 := by
    simp [inUser, inPath, isControl] at h
    omega
  exact Text.ascii_induction (p := fun c => inUser c = false → Url.InPart c ∧ c ≠ ':') (by decide +kernel) hascii h

end Percent

/-! ## User information -/

namespace Url

theorem toList_userText (cs : List Char) : (userText cs).toList =
    Percent.encode Percent.inUser (cs.takeWhile (· != ':')) ++
      if (cs.dropWhile (· != ':')).drop 1 = [] then []
      else ':' :: Percent.encode Percent.inUser ((cs.dropWhile (· != ':')).drop 1) := by
  rw [userText, List.span_eq_takeWhile_dropWhile]
  simp only [String.toList_ofList, List.isEmpty_iff]
  split <;> simp

theorem inPart_of_mem_userText {cs : List Char} {c : Char} (h : c ∈ (userText cs).toList) : InPart c := by
  rw [toList_userText, List.mem_append] at h
  rcases h with h | h
  · exact (Percent.inPart_of_inUser (Percent.inUser_of_mem_encode h)).1
  · split at h
    · cases h
    · rcases List.mem_cons.1 h with rfl | h
      · decide
      · exact (Percent.inPart_of_inUser (Percent.inUser_of_mem_encode h)).1

/-- What is encoded is not encoded again. -/
theorem userText_userText (cs : List Char) : userText (userText cs).toList = userText cs := by
  have hencoded (cs : List Char) : Percent.encode Percent.inUser (Percent.encode Percent.inUser cs) =
      Percent.encode Percent.inUser cs :=
    Percent.encode_of_forall fun c => Percent.inUser_of_mem_encode
  rw [← String.toList_inj, toList_userText, toList_userText]
  generalize cs.takeWhile (· != ':') = name, (cs.dropWhile (· != ':')).drop 1 = password
  have hname : ∀ c ∈ Percent.encode Percent.inUser name, (c != ':') = true :=
    fun c hc => bne_iff_ne.2 (Percent.inPart_of_inUser (Percent.inUser_of_mem_encode hc)).2
  by_cases h : password = []
  · rw [if_pos h, List.append_nil, List.takeWhile_eq_self_iff.2 hname, List.dropWhile_eq_nil_iff.2 hname, hencoded,
      List.drop_nil, if_pos rfl, List.append_nil]
  · rw [if_neg h, List.takeWhile_append_of_pos hname, List.dropWhile_append_of_pos hname]
    simp [hencoded, Percent.encode_ne_nil h]

end Url

/-! ## Domain names -/

namespace Punycode

variable {c : Char} {cs : List Char}

theorem threshold_le (k bias : Nat) : threshold k bias ≤ 26 := by
  unfold threshold
  split <;> omega

theorem mem_writeCount {bias k q : Nat} (h : c ∈ writeCount bias k q) : ∃ d < 36, c = digit d := by
  have hbound (k : Nat) : 1 ≤ threshold k bias ∧ threshold k bias ≤ 26 := ⟨threshold_pos k bias, threshold_le k bias⟩
  fun_induction writeCount bias k q with
  | case1 k q t hlt =>
    have := (hbound k).2
    exact ⟨q, by omega, List.mem_singleton.1 h⟩
  | case2 k q t hge ih =>
    rcases List.mem_cons.1 h with rfl | h
    · refine ⟨_, ?_, rfl⟩
      have := hbound k
      have := Nat.mod_lt (q - t) (show 0 < 36 - t by omega)
      omega
    · exact ih h

theorem mem_writeAll {basic n : Nat} {p : Place} (h : c ∈ (writeAll basic n p cs).1) : ∃ d < 36, c = digit d := by
  induction cs generalizing p with
  | nil => cases h
  | cons d cs ih =>
    rw [writeAll] at h
    split at h
    · rcases List.mem_append.1 h with h | h
      · exact mem_writeCount h
      · exact ih h
    · exact ih h

theorem mem_writeCounts {basic n : Nat} {points : List Nat} {p : Place} (h : c ∈ writeCounts cs basic points n p) :
    ∃ d < 36, c = digit d := by
  induction points generalizing n p with
  | nil => cases h
  | cons m points ih =>
    rw [writeCounts] at h
    rcases List.mem_append.1 h with h | h
    · exact mem_writeAll h
    · exact ih h

/-- Punycode is written with ASCII characters of the label, hyphens and digits to base 36. -/
theorem mem_encode (h : c ∈ encode cs) : c ∈ cs ∧ c.toNat < 0x80 ∨ c = '-' ∨ ∃ d < 36, c = digit d := by
  rw [encode] at h
  rcases List.mem_append.1 h with h | h
  · split at h
    · cases h
    · rcases List.mem_append.1 h with h | h
      · exact .inl ((List.mem_filter.1 h).imp_right of_decide_eq_true)
      · exact .inr (.inl (List.mem_singleton.1 h))
  · exact .inr (.inr (mem_writeCounts h))

end Punycode

namespace Domain

/-- A character of a name in the form in which it is looked up. -/
def IsPlain (c : Char) : Prop := isForbidden c = false ∧ Unicode.Folding.isAscii c = true

instance (c : Char) : Decidable (IsPlain c) :=
  inferInstanceAs (Decidable (isForbidden c = false ∧ Unicode.Folding.isAscii c = true))

variable {c : Char} {cs : List Char}

theorem inPart_of_not_isForbidden (h : isForbidden c = false) : Url.InPart c ∧ c ≠ ':' ∧ c ≠ '[' := by
  simp [isForbidden, Text.isAsciiControl] at h
  obtain ⟨⟨⟨hcontrol, -⟩, -⟩, hblank, -, hhash, hslash, hcolon, -, -, hquestion, hat, hbracket, hback, -⟩ := h
  have hspace : c.toNat ≠ ' '.toNat := mt Char.toNat_inj.1 hblank
  refine ⟨⟨⟨Nat.lt_of_le_of_ne hcontrol (Ne.symm hspace), ?_⟩, hat⟩, hcolon, hbracket⟩
  simp [Url.endsAuthority, hslash, hquestion, hhash, hback]

theorem not_isForbidden_of_mem_prepared {prepared : List Char} (h : prepare? cs = some prepared) (hc : c ∈ prepared) :
    isForbidden c = false := by
  obtain ⟨folded, -, h⟩ := Option.bind_eq_some_iff.1 h
  simp only [Option.ite_none_left_eq_some, Option.some.injEq] at h
  obtain ⟨hnone, rfl⟩ := h
  exact Bool.eq_false_iff.2 fun h => hnone (List.any_eq_true.2 ⟨c, hc, h⟩)

theorem isAscii_of_decoded? {code label : List Char} (h : decoded? code = some label) (hc : c ∈ code) :
    Unicode.Folding.isAscii c = true := by
  unfold decoded? at h
  split at h
  · cases h
  · rename_i hcode
    simp only [Bool.or_eq_true, not_or, Bool.not_eq_true, Bool.not_eq_false'] at hcode
    exact List.all_eq_true.1 hcode.1.1 c hc

/-- A label is looked up by plain characters. -/
theorem isPlain_of_mem_label {text : List Char} {l : Label} (htext : ∀ c ∈ text, isForbidden c = false)
    (h : Label.ofText? text = some l) (hc : c ∈ l.ascii) : IsPlain c := by
  have hmark : ∀ c ∈ punycodeMark, IsPlain c := by
    have hall : punycodeMark.all (fun c => decide (IsPlain c)) = true := by decide
    simpa using hall
  have hdigit : ∀ d < 36, IsPlain (Punycode.digit d) := by decide
  unfold Label.ofText? at h
  split at h
  · rename_i hprefix
    obtain ⟨label, hlabel, rfl⟩ := Option.map_eq_some_iff.1 h
    obtain ⟨code, rfl⟩ := List.isPrefixOf_iff_prefix.1 hprefix
    rcases List.mem_append.1 hc with hmem | hmem
    · exact hmark c hmem
    · exact ⟨htext c hc, isAscii_of_decoded? hlabel hmem⟩
  · split at h
    · rename_i hascii
      cases h
      exact ⟨htext c hc, List.all_eq_true.1 hascii c hc⟩
    · split at h
      · cases h
        rcases List.mem_append.1 hc with hc | hc
        · exact hmark c hc
        · rcases Punycode.mem_encode hc with ⟨hc, hascii⟩ | rfl | ⟨d, hd, rfl⟩
          · exact ⟨htext c hc, decide_eq_true hascii⟩
          · decide
          · exact hdigit d hd
      · cases h

/-- A name is looked up by plain characters. -/
theorem isPlain_of_mem_toAscii {domain : String} (h : toAscii? cs = some domain) (hc : c ∈ domain.toList) :
    IsPlain c := by
  obtain ⟨labels, hlabels, rfl⟩ := Option.map_eq_some_iff.1 h
  obtain ⟨prepared, hprepared, hlabels⟩ := Option.bind_eq_some_iff.1 hlabels
  obtain ⟨all, hall, hlabels⟩ := Option.bind_eq_some_iff.1 hlabels
  rw [Option.ite_none_right_eq_some] at hlabels
  obtain ⟨-, hsome⟩ := hlabels
  cases hsome
  rcases Text.mem_join hc with hc | ⟨piece, hpiece, hc⟩
  · rw [List.mem_singleton.1 hc]
    decide
  · obtain ⟨l, hl, rfl⟩ := List.mem_map.1 hpiece
    obtain ⟨text, htext, hl⟩ := exists_of_mem_mapM hall hl
    rw [String.toList_ofList] at hc
    exact isPlain_of_mem_label
      (fun c hc => not_isForbidden_of_mem_prepared hprepared (Text.subset_of_mem_split htext hc)) hl hc

end Domain

end Conformance
