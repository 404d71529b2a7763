import Mathlib.Data.List.Basic
import Conformance.Number.Decimal
import Conformance.Proofs.Text.Pieces
/-!
# Texts of one line

A text with a line feed in it takes more than one line. Texts joined with line feeds are read back as its
lines exactly if none of them is broken.
-/

namespace Conformance.Text

/-- A line feed breaks the text. -/
def Breaks (s : String) : Prop := '\n' ∈ s.toList

instance : DecidablePred Breaks := fun s => inferInstanceAs (Decidable ('\n' ∈ s.toList))

variable {s t : String}

@[simp] theorem breaks_append : Breaks (s ++ t) ↔ Breaks s ∨ Breaks t := by
  rw [Breaks, String.toList_append, List.mem_append]
  rfl

@[simp] theorem not_breaks_text (n : Nat) : ¬ Breaks (Decimal.text n) := by
  rw [Breaks, Decimal.text, String.toList_ofList]
  exact fun h => absurd (Decimal.isDigit_of_mem_digits h) (by decide)

/-- What texts of one line are joined with decides whether they are one line together. -/
theorem not_breaks_join {sep : String} {texts : List String} (hsep : ¬ Breaks sep)
    (h : ∀ text ∈ texts, ¬ Breaks text) : ¬ Breaks (join sep texts) := by
  intro hbreaks
  rcases mem_join hbreaks with hmem | ⟨text, htext, hmem⟩
  · exact hsep hmem
  · exact h text htext hmem

/-! ## Lines -/

theorem notMem_of_mem_split {sep : Char} {cs piece : List Char} (h : piece ∈ split sep cs) : sep ∉ piece := by
  induction cs generalizing piece with
  | nil =>
    rw [split, List.mem_singleton] at h
    exact h ▸ List.not_mem_nil
  | cons c cs ih =>
    rw [split] at h
    by_cases hc : c = sep
    · rw [if_pos hc, List.mem_cons] at h
      rcases h with rfl | h
      · exact List.not_mem_nil
      · exact ih h
    · rw [if_neg hc] at h
      cases hpieces : split sep cs with
      | nil => exact absurd hpieces (split_ne_nil sep cs)
      | cons first rest =>
        rw [hpieces] at h ih
        rcases List.mem_cons.1 h with rfl | h
        · exact List.not_mem_cons_of_ne_of_not_mem (Ne.symm hc) (ih List.mem_cons_self)
        · exact ih (List.mem_cons_of_mem first h)

theorem pieces_of_not_breaks (h : ¬ Breaks s) : pieces '\n' s = [s] := by
  rw [pieces, split_of_notMem h, List.map_singleton, String.ofList_toList]

/-- Texts that are joined with line feeds fall into the pieces that each of them falls into. -/
theorem pieces_join {texts : List String} (hne : texts ≠ []) :
    pieces '\n' (join "\n" texts) = texts.flatMap (pieces '\n') := by
  induction texts with
  | nil => exact absurd rfl hne
  | cons text rest ih =>
    cases rest with
    | nil => simp [join]
    | cons next rest =>
      have hchars : (join "\n" (text :: next :: rest)).toList =
          text.toList ++ '\n' :: (join "\n" (next :: rest)).toList := by
        simp [join]
      rw [pieces, hchars, split_eq_splitOn, List.splitOn_append_cons_self, ← split_eq_splitOn,
        ← split_eq_splitOn, List.map_append, List.flatMap_cons, ← ih (List.cons_ne_nil next rest)]
      rfl

/-- Texts are the lines of what they are joined to with line feeds exactly if none of them is broken. -/
theorem pieces_join_eq_iff {texts : List String} (hne : texts ≠ []) :
    pieces '\n' (join "\n" texts) = texts ↔ ∀ text ∈ texts, ¬ Breaks text := by
  constructor
  · intro h text htext
    rw [← h] at htext
    obtain ⟨piece, hpiece, rfl⟩ := List.mem_map.1 htext
    rw [Breaks, String.toList_ofList]
    exact notMem_of_mem_split hpiece
  · intro h
    rw [pieces_join hne, List.flatMap_congr fun text htext => pieces_of_not_breaks (h text htext)]
    exact List.flatMap_singleton' texts

end Conformance.Text
