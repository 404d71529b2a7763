import Mathlib.Data.List.DropRight
import Conformance.Text.Character
/-!
# The blanks around a text

A text is the blanks in front of it, what trimming leaves of it, and the blanks behind it. Blanks that hold no
separator change only the first and the last piece of a text.
-/

namespace Conformance.Text

/-! ## The parts of a text -/

/-- The blanks in front of a text. A blank text is all of it. -/
def lead (s : String) : String := String.ofList (s.toList.takeWhile isBlank)

/-- The blanks behind a text that is not blank. -/
def trail (s : String) : String := String.ofList ((s.toList.dropWhile isBlank).rtakeWhile isBlank)

theorem lead_append_trim_append_trail (s : String) : lead s ++ trim s ++ trail s = s := by
  have hbehind : trimChars s.toList ++ (s.toList.dropWhile isBlank).rtakeWhile isBlank =
      s.toList.dropWhile isBlank := List.rdropWhile_append_rtakeWhile
  rw [← String.toList_inj, lead, trim, trail]
  simp only [String.toList_append, String.toList_ofList]
  rw [List.append_assoc, hbehind, List.takeWhile_append_dropWhile]

theorem utf8ByteSize_eq_padded (s : String) :
    s.utf8ByteSize = (lead s).utf8ByteSize + (trim s).utf8ByteSize + (trail s).utf8ByteSize := by
  conv_lhs => rw [← lead_append_trim_append_trail s]
  rw [String.utf8ByteSize_append, String.utf8ByteSize_append]

theorem trimChars_append_left {as cs : List Char} (h : ∀ c ∈ as, isBlank c = true) :
    trimChars (as ++ cs) = trimChars cs := by
  rw [trimChars, trimChars, List.dropWhile_append_of_pos h]

theorem trimChars_append_right {bs cs : List Char} (h : ∀ c ∈ bs, isBlank c = true) :
    trimChars (cs ++ bs) = trimChars cs := by
  have hback : ∀ c ∈ bs.reverse, isBlank c = true := fun c hc => h c (List.mem_reverse.1 hc)
  rw [trimChars, trimChars, List.dropWhile_append]
  split
  · rename_i hempty
    rw [List.isEmpty_iff.1 hempty, List.dropWhile_eq_nil_iff.2 h]
  · rw [List.reverse_append, List.dropWhile_append_of_pos hback]

/-- Trimming does not see more blanks in front. -/
theorem trim_append_left {a s : String} (h : ∀ c ∈ a.toList, isBlank c = true) : trim (a ++ s) = trim s := by
  rw [trim, trim, String.toList_append, trimChars_append_left h]

theorem isBlank_of_mem_lead {s : String} {c : Char} (h : c ∈ (lead s).toList) : isBlank c = true := by
  rw [lead, String.toList_ofList] at h
  exact List.mem_takeWhile_imp h

theorem isBlank_of_mem_trail {s : String} {c : Char} (h : c ∈ (trail s).toList) : isBlank c = true := by
  rw [trail, String.toList_ofList] at h
  exact List.mem_rtakeWhile_imp h

/-! ## Pieces -/

section Pieces
variable {sep : Char}

theorem split_append_left {as cs p : List Char} {ps : List (List Char)} (h : sep ∉ as)
    (hcs : split sep cs = p :: ps) : split sep (as ++ cs) = (as ++ p) :: ps := by
  induction as with
  | nil => exact hcs
  | cons a as ih =>
    rw [List.mem_cons, not_or] at h
    rw [List.cons_append, split, if_neg (Ne.symm h.1), ih h.2]
    rfl

theorem split_append_right {cs bs p : List Char} {ps : List (List Char)} (h : sep ∉ bs)
    (hcs : split sep cs = ps ++ [p]) : split sep (cs ++ bs) = ps ++ [p ++ bs] := by
  induction cs generalizing p ps with
  | nil =>
    cases ps with
    | nil =>
      cases hcs
      exact split_of_notMem h
    | cons q ps =>
      rw [split, List.cons_append, List.cons.injEq] at hcs
      simp at hcs
  | cons c cs ih =>
    rw [List.cons_append, split]
    by_cases hc : c = sep
    · rw [split, if_pos hc] at hcs
      cases ps with
      | nil => exact absurd (List.cons.inj hcs).2 (split_ne_nil sep cs)
      | cons q ps =>
        obtain ⟨rfl, hrest⟩ := List.cons.inj hcs
        rw [if_pos hc, ih hrest]
        rfl
    · rw [split, if_neg hc] at hcs
      cases hpieces : split sep cs with
      | nil => exact absurd hpieces (split_ne_nil sep cs)
      | cons piece rest =>
        rw [hpieces] at hcs
        cases ps with
        | nil =>
          obtain ⟨rfl, rfl⟩ := List.cons.inj hcs
          have hrest : split sep (cs ++ bs) = [] ++ [piece ++ bs] := ih hpieces
          rw [if_neg hc, hrest]
          rfl
        | cons q ps =>
          obtain ⟨rfl, rfl⟩ := List.cons.inj hcs
          have hrest : split sep (cs ++ bs) = (piece :: ps) ++ [p ++ bs] := ih hpieces
          rw [if_neg hc, hrest]
          rfl

variable {s : String}

theorem map_toList_pieces : (pieces sep s).map String.toList = split sep s.toList := by
  simp [pieces, Function.comp_def]

theorem pieces_append_left {a p : String} {ps : List String} (h : sep ∉ a.toList)
    (hs : pieces sep s = p :: ps) : pieces sep (a ++ s) = (a ++ p) :: ps := by
  have hsplit : split sep s.toList = p.toList :: ps.map String.toList := by
    rw [← map_toList_pieces, hs]
    rfl
  rw [pieces, String.toList_append, split_append_left h hsplit]
  simp [Function.comp_def]

theorem pieces_append_right {b p : String} {ps : List String} (h : sep ∉ b.toList)
    (hs : pieces sep s = ps ++ [p]) : pieces sep (s ++ b) = ps ++ [p ++ b] := by
  have hsplit : split sep s.toList = ps.map String.toList ++ [p.toList] := by
    rw [← map_toList_pieces, hs, List.map_append]
    rfl
  rw [pieces, String.toList_append, split_append_right h hsplit]
  simp [Function.comp_def]

/-- A text has one piece, or a first and a last one. -/
theorem pieces_cases (sep : Char) (s : String) :
    (∃ p, pieces sep s = [p]) ∨ ∃ first mid last, pieces sep s = first :: mid ++ [last] := by
  cases hpieces : pieces sep s with
  | nil => exact absurd (List.map_eq_nil_iff.1 hpieces) (split_ne_nil _ _)
  | cons first rest =>
    rcases List.eq_nil_or_concat rest with rfl | ⟨mid, last, rfl⟩
    · exact .inl ⟨first, rfl⟩
    · exact .inr ⟨first, mid, last, by simp⟩

/-- The only piece of a trimmed text, with the blanks around it. -/
theorem pieces_of_trim_one {p : String} (hsep : isBlank sep = false) (h : pieces sep (trim s) = [p]) :
    pieces sep s = [lead s ++ p ++ trail s] := by
  have hlead : sep ∉ (lead s).toList := fun hmem => by simp [isBlank_of_mem_lead hmem] at hsep
  have htrail : sep ∉ (trail s).toList := fun hmem => by simp [isBlank_of_mem_trail hmem] at hsep
  have hfront : pieces sep (lead s ++ trim s) = [] ++ [lead s ++ p] := pieces_append_left hlead h
  have hboth := pieces_append_right htrail hfront
  rwa [lead_append_trim_append_trail] at hboth

/-- Blanks stand in front of the first piece of a trimmed text and behind its last one. -/
theorem pieces_of_trim_more {first last : String} {mid : List String} (hsep : isBlank sep = false)
    (h : pieces sep (trim s) = first :: mid ++ [last]) :
    pieces sep s = (lead s ++ first) :: mid ++ [last ++ trail s] := by
  have hlead : sep ∉ (lead s).toList := fun hmem => by simp [isBlank_of_mem_lead hmem] at hsep
  have htrail : sep ∉ (trail s).toList := fun hmem => by simp [isBlank_of_mem_trail hmem] at hsep
  have hfront : pieces sep (lead s ++ trim s) = (lead s ++ first) :: mid ++ [last] :=
    pieces_append_left hlead h
  have hboth := pieces_append_right htrail hfront
  rwa [lead_append_trim_append_trail] at hboth

end Pieces

end Conformance.Text
