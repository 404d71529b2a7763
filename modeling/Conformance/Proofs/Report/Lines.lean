import Conformance.Proofs.Report.Filling
import Conformance.Proofs.Text.Lines
/-!
# The lines of a report

A line of a report is a template with values filled in, and no template has a line feed. So a line is broken
exactly if a value in it is, and values are filled in as they stand: the path, the detail of a verdict or of a
note, the name of a scenario and what is said of its failure. The text of a run is read back as its lines
exactly if none of these is broken.
-/

namespace Conformance

open Text Wording

/-- A filled template is broken exactly if one of the values is. -/
theorem Wording.breaks_translate_iff {key : String} {args : List Argument} (names : List String)
    (hkey : Marks (template key).toList names ∧ ¬ Breaks (template key)) (hnames : args.map (·.1) = names) :
    Breaks (translate key args) ↔ ∃ a ∈ args, Breaks a.2 := by
  subst hnames
  obtain ⟨hmarks, hone⟩ := hkey
  have hmark : ∀ a ∈ args, '\n' ∉ placeholder a.1 := by
    intro a ha hmem
    exact hone ((hmarks.2 a.1 (List.mem_map_of_mem ha)).2.subset hmem)
  rw [Breaks, translate, String.toList_ofList, mem_foldl_fill_iff hmarks hmark]
  exact or_iff_right hone

/-! ## Words -/

@[simp] theorem Verb.not_breaks_label (v : Verb) : ¬ Breaks v.label := by cases v <;> decide

@[simp] theorem Note.not_breaks_label (n : Note) : ¬ Breaks n.label := by cases n <;> simp only [label] <;> decide

@[simp] theorem PhaseName.not_breaks_label (p : PhaseName) : ¬ Breaks p.label := by cases p <;> decide

@[simp] theorem ScenarioDeed.Kind.not_breaks_label (k : Kind) : ¬ Breaks k.label := by cases k <;> decide

@[simp] theorem Status.not_breaks_label (s : Status) : ¬ Breaks s.label := by cases s <;> decide

/-! ## Lines -/

theorem Note.breaks_line_iff {n : Note} : Breaks n.line ↔ Breaks n.detail := by
  rw [line, breaks_translate_iff ["label", "detail"] (by decide +kernel) rfl]
  simp

theorem ScenarioVerdict.breaks_line_iff {v : ScenarioVerdict} : Breaks v.line ↔
    Breaks v.scenario ∨ ∃ f, v.failure = some f ∧ (Breaks f.element ∨ Breaks f.reason) := by
  unfold line
  cases v.failure with
  | none =>
    simp only
    rw [breaks_translate_iff ["name", "phase", "transitions"] (by decide +kernel) rfl]
    simp [count]
  | some f =>
    simp only
    rw [breaks_translate_iff ["name", "step", "action", "element", "reason"] (by decide +kernel) rfl]
    simp [count]

theorem Verdict.breaks_line_iff {v : Verdict} : Breaks v.line ↔
    Breaks v.resource.path ∨ ∃ detail, v.outcome.detail? = some detail ∧ Breaks detail := by
  unfold line
  cases v.outcome with
  | pass =>
    simp only
    rw [breaks_translate_iff ["verb", "path", "status"] (by decide +kernel) rfl]
    simp [count, Outcome.detail?]
  | fail violations =>
    have hviolation : Breaks ((violations.head?.map Violation.text).getD "") ↔
        ∃ detail, violations.head?.map Violation.text = some detail ∧ Breaks detail := by
      cases violations.head?.map Violation.text <;> simp [Breaks]
    simp only
    split
    · rw [breaks_translate_iff ["verb", "path", "violation"] (by decide +kernel) rfl]
      simp [Outcome.detail?, hviolation]
    · rw [breaks_translate_iff ["verb", "path", "violation", "more"] (by decide +kernel) rfl]
      simp [count, Outcome.detail?, hviolation]
  | inconclusive failure =>
    simp only
    rw [breaks_translate_iff ["verb", "path", "failure"] (by decide +kernel) rfl]
    simp [Outcome.detail?]

theorem Summary.not_breaks_line (s : Summary) : ¬ Breaks s.line := by
  rw [line_eq]
  simp +decide

/-- Some line of a verdict, or of one of its notes, is broken. -/
def Verdict.IsBroken (v : Verdict) : Prop := Breaks v.line ∨ ∃ n ∈ v.notes, Breaks n.line

/-- The text of a run is read back as its lines exactly if none of them is broken. -/
theorem Results.pieces_render_iff {r : Results} : pieces '\n' (r.render .text) = r.lines ↔
    (∀ v ∈ r.verdicts, ¬ v.IsBroken) ∧ ∀ v ∈ r.scenarios, ¬ Breaks v.line := by
  have hne : r.lines ≠ [] := List.append_ne_nil_of_right_ne_nil _ (List.cons_ne_nil _ _)
  rw [render, pieces_join_eq_iff hne]
  simp only [lines, List.forall_mem_append, List.forall_mem_flatMap, List.forall_mem_cons, List.forall_mem_map]
  simp [Verdict.IsBroken, Summary.not_breaks_line]

/-- What a line falls into is found among the lines of the text. -/
theorem Results.mem_pieces_render {r : Results} {line piece : String} (hline : line ∈ r.lines)
    (hpiece : piece ∈ pieces '\n' line) : piece ∈ pieces '\n' (r.render .text) := by
  rw [render, pieces_join (List.ne_nil_of_mem hline)]
  exact List.mem_flatMap_of_mem hline hpiece

end Conformance
