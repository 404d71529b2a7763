import Conformance.Text.Character
import Conformance.Number.Decimal
/-!
# Field ids

A field of the wizard is named by four 32-bit numbers: its step, its row, its column and its input. The
text of an id writes them in plain decimal, so ids and their texts determine one another. Ids are
ordered by their texts.
-/

namespace Conformance

/-- The name of a field. -/
structure FieldId where
  step : UInt32
  row : UInt32
  column : UInt32
  input : UInt32
deriving DecidableEq, Repr

namespace FieldId

/-- The text of an id, `step-<n>-field-<row>-<col>-input-<k>`. -/
def text (f : FieldId) : String :=
  "step-" ++ Decimal.text f.step.toNat ++ "-field-" ++ Decimal.text f.row.toNat ++ "-" ++
    Decimal.text f.column.toNat ++ "-input-" ++ Decimal.text f.input.toNat

/-- A 32-bit number in plain decimal. -/
def index? (cs : List Char) : Option UInt32 :=
  (Decimal.readPlain? cs).bind fun n => if n < UInt32.size then some (UInt32.ofNat n) else none

/-- The id a text names. -/
def parse? (s : String) : Option FieldId :=
  match Text.split '-' s.toList with
  | [['s', 't', 'e', 'p'], n, ['f', 'i', 'e', 'l', 'd'], r, c, ['i', 'n', 'p', 'u', 't'], k] => do
    let step ← index? n
    let row ← index? r
    let column ← index? c
    let input ← index? k
    return ⟨step, row, column, input⟩
  | _ => none

/-- The text shown when a text names no field. -/
def malformedText (s : String) : String :=
  "field id " ++ s ++ " is not of the form step-<n>-field-<row>-<col>-input-<k>"

/-! ## Ids and their texts -/

theorem index?_digits (n : UInt32) : index? (Decimal.digits n.toNat) = some n := by
  simp [index?, Decimal.readPlain?_digits, n.toNat_lt]

theorem index?_eq_some_iff {cs : List Char} {n : UInt32} :
    index? cs = some n ↔ cs = Decimal.digits n.toNat := by
  constructor
  · intro h
    obtain ⟨m, hm, hn⟩ := Option.bind_eq_some_iff.1 h
    rw [Option.ite_none_right_eq_some, Option.some.injEq] at hn
    obtain ⟨hlt, rfl⟩ := hn
    rw [UInt32.toNat_ofNat_of_lt' hlt, Decimal.digits_of_readPlain? hm]
  · rintro rfl
    exact index?_digits n

theorem hyphen_notMem_digits (n : Nat) : '-' ∉ Decimal.digits n :=
  fun h => absurd (Decimal.isDigit_of_mem_digits h) (by decide)

/-- Four numbers in the places of an id. -/
def spelled (step row column input : Nat) : String :=
  s!"step-{step}-field-{row}-{column}-input-{input}"

theorem text_eq_spelled (f : FieldId) :
    f.text = spelled f.step.toNat f.row.toNat f.column.toNat f.input.toNat := rfl

theorem toList_spelled (a b c d : Nat) : (spelled a b c d).toList = ['-'].intercalate [
    "step".toList, Decimal.digits a, "field".toList, Decimal.digits b, Decimal.digits c,
    "input".toList, Decimal.digits d] := by
  have happend : spelled a b c d = "step-" ++ Decimal.text a ++ "-field-" ++ Decimal.text b ++ "-" ++
      Decimal.text c ++ "-input-" ++ Decimal.text d := rfl
  simp [happend, Decimal.text, List.intercalate]

theorem split_spelled (a b c d : Nat) : Text.split '-' (spelled a b c d).toList = [
    "step".toList, Decimal.digits a, "field".toList, Decimal.digits b, Decimal.digits c,
    "input".toList, Decimal.digits d] := by
  rw [toList_spelled, Text.split_eq_splitOn]
  refine List.splitOn_intercalate '-' ?_ (List.cons_ne_nil _ _)
  simp [hyphen_notMem_digits]

/-- What stands between the hyphens of the text of an id. -/
def words (f : FieldId) : List (List Char) := [
  "step".toList, Decimal.digits f.step.toNat, "field".toList, Decimal.digits f.row.toNat,
  Decimal.digits f.column.toNat, "input".toList, Decimal.digits f.input.toNat]

theorem toList_text (f : FieldId) : f.text.toList = ['-'].intercalate f.words := toList_spelled ..

theorem split_text (f : FieldId) : Text.split '-' f.text.toList = f.words := split_spelled ..

/-- A text names an id exactly if it is the text of that id. -/
theorem parse?_eq_some_iff {s : String} {f : FieldId} : parse? s = some f ↔ s = f.text := by
  constructor
  · intro h
    unfold parse? at h
    split at h
    · rename_i n r c k hsplit
      simp only [bind, Option.bind_eq_some_iff, pure, Option.some.injEq, index?_eq_some_iff] at h
      obtain ⟨step, rfl, row, rfl, column, rfl, input, rfl, rfl⟩ := h
      have hchars : ['-'].intercalate (s.toList.splitOn '-') = s.toList := List.intercalate_splitOn '-'
      rw [← String.toList_inj, toList_text, ← hchars, ← Text.split_eq_splitOn, hsplit]
      rfl
    · cases h
  · rintro rfl
    unfold parse?
    rw [split_text]
    simp [words, index?_digits]

theorem parse?_text (f : FieldId) : parse? f.text = some f := parse?_eq_some_iff.2 rfl

theorem text_injective {f g : FieldId} (h : f.text = g.text) : f = g := by
  have hf := parse?_text f
  rw [h, parse?_text] at hf
  exact (Option.some.inj hf).symm

/-! ## Order -/

instance : LE FieldId := ⟨fun f g => f.text ≤ g.text⟩

instance : LT FieldId := ⟨fun f g => f.text < g.text⟩

instance : DecidableLT FieldId := fun f g => inferInstanceAs (Decidable (f.text < g.text))

instance : Std.IsLinearOrder FieldId where
  le_refl f := String.le_refl f.text
  le_trans _ _ _ := String.le_trans
  le_antisymm _ _ h h' := text_injective (String.le_antisymm h h')
  le_total f g := String.le_total f.text g.text

instance : Std.LawfulOrderLT FieldId where
  lt_iff f g := Std.LawfulOrderLT.lt_iff f.text g.text

end FieldId

end Conformance
