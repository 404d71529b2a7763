import Mathlib.Data.List.TakeWhile
import Conformance.Text.Character
/-!
# Texts in pieces

What trimming leaves of a text, and every way to cut a text at a separator.
-/

namespace Conformance.Text

/-! ## Trimming -/

theorem trimChars_eq_nil_iff {cs : List Char} : trimChars cs = [] ↔ ∀ c ∈ cs, isBlank c = true := by
  unfold trimChars
  rw [List.reverse_eq_nil_iff, List.dropWhile_eq_nil_iff]
  constructor
  · intro h c hc
    rw [← List.takeWhile_append_dropWhile (p := isBlank) (l := cs), List.mem_append] at hc
    rcases hc with hc | hc
    · exact List.mem_takeWhile_imp hc
    · exact h c (List.mem_reverse.2 hc)
  · intro h c hc
    exact h c ((List.dropWhile_sublist isBlank).subset (List.mem_reverse.1 hc))

/-- A text is blank when trimming leaves nothing of it. -/
theorem isBlankText_iff {s : String} : isBlankText s = true ↔ trim s = "" := by
  rw [isBlankText, List.all_eq_true, ← trimChars_eq_nil_iff, trim, String.ofList_eq_empty_iff]

/-! ## Joining -/

theorem join_eq_intercalate (sep : String) (pieces : List String) :
    join sep pieces = sep.intercalate pieces := by
  induction pieces with
  | nil => rfl
  | cons s rest ih =>
    cases rest with
    | nil => simp [join]
    | cons t rest => rw [join, ih, String.intercalate_cons_cons]; exact List.cons_ne_nil t rest

/-- A joined text holds characters of its pieces and of what they are joined with. -/
theorem mem_join {sep : String} {pieces : List String} {c : Char} (h : c ∈ (join sep pieces).toList) :
    c ∈ sep.toList ∨ ∃ piece ∈ pieces, c ∈ piece.toList := by
  induction pieces with
  | nil => cases h
  | cons piece rest ih =>
    cases rest with
    | nil => exact .inr ⟨piece, List.mem_cons_self, h⟩
    | cons next rest =>
      have hjoin : join sep (piece :: next :: rest) = piece ++ sep ++ join sep (next :: rest) := rfl
      rw [hjoin, String.toList_append, String.toList_append, List.mem_append, List.mem_append] at h
      rcases h with (h | h) | h
      · exact .inr ⟨piece, List.mem_cons_self, h⟩
      · exact .inl h
      · exact (ih h).imp_right fun ⟨p, hp, hc⟩ => ⟨p, List.mem_cons_of_mem piece hp, hc⟩

/-- A text is its pieces joined again. -/
theorem join_pieces (sep : Char) (s : String) : join (String.ofList [sep]) (pieces sep s) = s := by
  rw [join_eq_intercalate, ← String.toList_inj, String.toList_intercalate, String.toList_ofList, pieces, List.map_map,
    split_eq_splitOn]
  simp [Function.comp_def, List.intercalate_splitOn]

/-- The pieces of a text hold nothing but its characters. -/
theorem subset_of_mem_split {sep : Char} {cs piece : List Char} (h : piece ∈ split sep cs) : piece ⊆ cs := by
  induction cs generalizing piece with
  | nil =>
    rw [split, List.mem_singleton] at h
    exact h ▸ List.Subset.refl []
  | cons c cs ih =>
    rw [split] at h
    split at h
    · rcases List.mem_cons.1 h with rfl | h
      · exact List.nil_subset _
      · exact List.Subset.trans (ih h) (List.subset_cons_self c cs)
    · split at h
      · rw [List.mem_singleton.1 h]
        exact List.cons_subset_cons c (List.nil_subset cs)
      · rename_i first rest hpieces
        rcases List.mem_cons.1 h with rfl | h
        · exact List.cons_subset_cons c (ih (hpieces ▸ List.mem_cons_self))
        · exact List.Subset.trans (ih (hpieces ▸ List.mem_cons_of_mem first h)) (List.subset_cons_self c cs)

/-! ## Cutting -/

/-- The cut at the front, if the separator stands there. -/
def cutFront (sep cs : List Char) : List (List Char × List Char) :=
  if sep.isPrefixOf cs then [([], cs.drop sep.length)] else []

/-- Every cut of a list of characters in two at a separator. -/
def cutsChars (sep : List Char) : List Char → List (List Char × List Char)
  | [] => cutFront sep []
  | c :: cs => cutFront sep (c :: cs) ++ (cutsChars sep cs).map fun p => (c :: p.1, p.2)

/-- Every cut of a text in two at a separator. -/
def cuts (sep s : String) : List (String × String) :=
  (cutsChars sep.toList s.toList).map fun p => (String.ofList p.1, String.ofList p.2)

theorem mem_cutFront {sep cs a b : List Char} : (a, b) ∈ cutFront sep cs ↔ a = [] ∧ sep ++ b = cs := by
  unfold cutFront
  split
  · rename_i h
    obtain ⟨t, rfl⟩ := List.isPrefixOf_iff_prefix.1 h
    simp
  · rename_i h
    rw [List.isPrefixOf_iff_prefix] at h
    constructor
    · intro hmem
      cases hmem
    · rintro ⟨-, rfl⟩
      exact absurd (List.prefix_append sep b) h

theorem mem_cutsChars {sep cs a b : List Char} : (a, b) ∈ cutsChars sep cs ↔ a ++ sep ++ b = cs := by
  induction cs generalizing a with
  | nil =>
    rw [cutsChars, mem_cutFront]
    cases a <;> simp
  | cons c cs ih =>
    rw [cutsChars, List.mem_append, mem_cutFront, List.mem_map]
    cases a with
    | nil => simp
    | cons d a =>
      constructor
      · rintro (⟨hnil, -⟩ | ⟨⟨a', b'⟩, hmem, heq⟩)
        · cases hnil
        · cases heq
          rw [List.cons_append, List.cons_append, ih.1 hmem]
      · intro heq
        obtain ⟨rfl, htail⟩ := List.cons.inj heq
        exact .inr ⟨(a, b), ih.2 htail, rfl⟩

theorem mem_cuts {sep s a b : String} : (a, b) ∈ cuts sep s ↔ a ++ sep ++ b = s := by
  rw [← String.toList_inj, String.toList_append, String.toList_append, ← mem_cutsChars, cuts, List.mem_map]
  constructor
  · rintro ⟨⟨a', b'⟩, hmem, heq⟩
    cases heq
    simpa using hmem
  · intro hmem
    exact ⟨_, hmem, by simp⟩

/-- A joined text is its only piece, or is cut behind its first one. -/
theorem join_cons_eq_iff {sep s v : String} {vs : List String} :
    join sep (v :: vs) = s ↔ (vs = [] ∧ v = s) ∨ (vs ≠ [] ∧ (v, join sep vs) ∈ cuts sep s) := by
  rw [mem_cuts]
  cases vs with
  | nil => simp [join]
  | cons w ws => simp [join]

/-- A text that cannot be cut is the join of itself only. -/
theorem join_eq_iff_of_cuts {sep s : String} {vs : List String} (hcuts : cuts sep s = []) (hne : s ≠ "") :
    join sep vs = s ↔ vs = [s] := by
  cases vs with
  | nil => simp [join, hne.symm]
  | cons v vs => simp [join_cons_eq_iff, hcuts, and_comm]

end Conformance.Text
