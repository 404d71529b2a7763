import Mathlib.Data.Nat.Basic
import Mathlib.Order.MinMax
import Conformance.Report.Rendering
/-!
# Totals

A summary is a sum over what it sums up: the summary of two runs taken together is the sum of theirs, so
neither order nor batches matter to a count. The status of a sum is the worse of the two, in the order
pass, inconclusive, fail, so more results never make a status better.
-/

namespace Conformance

/-! ## Better and worse -/

namespace Status

/-- How bad a status is. -/
def rank : Status → Nat
  | .pass => 0
  | .inconclusive => 1
  | .fail => 2

theorem rank_injective : Function.Injective rank := by
  intro s t h
  cases s <;> cases t <;> first | rfl | cases h

/-- Statuses from best to worst. -/
instance : LinearOrder Status := LinearOrder.lift' rank rank_injective

theorem pass_le (t : Status) : .pass ≤ t := Nat.zero_le t.rank

end Status

namespace Summary

/-! ## Sums -/

@[simp] theorem checks_add (a b : Summary) : (a + b).checks = a.checks + b.checks := rfl

@[simp] theorem passed_add (a b : Summary) : (a + b).passed = a.passed + b.passed := rfl

@[simp] theorem failed_add (a b : Summary) : (a + b).failed = a.failed + b.failed := rfl

@[simp] theorem inconclusive_add (a b : Summary) :
    (a + b).inconclusive = a.inconclusive + b.inconclusive := rfl

@[simp] theorem scenariosFailed_add (a b : Summary) :
    (a + b).scenariosFailed = a.scenariosFailed + b.scenariosFailed := rfl

/-- The summary of several runs taken together. -/
def total (summaries : List Summary) : Summary := summaries.foldr (· + ·) zero

variable {vs ws : List Verdict} {ss ts : List ScenarioVerdict}

theorem ofResults_cons (v : Verdict) (vs : List Verdict) (ss : List ScenarioVerdict) :
    ofResults (v :: vs) ss = ofResults [v] [] + ofResults vs ss :=
  ofResults_append [v] vs [] ss

theorem ofResults_perm (hv : vs.Perm ws) (hs : ss.Perm ts) : ofResults vs ss = ofResults ws ts := by
  unfold ofResults
  rw [hv.length_eq, hs.length_eq, hs.countP_eq]
  simp only [hv.countP_eq]

/-- Summing up batch by batch gives the summary of the whole. -/
theorem total_map_summary (batches : List Results) :
    total (batches.map Results.summary) =
      ofResults (batches.flatMap (·.verdicts)) (batches.flatMap (·.scenarios)) := by
  induction batches with
  | nil => rfl
  | cons r rest ih =>
    rw [List.flatMap_cons, List.flatMap_cons, ofResults_append, ← ih]
    rfl

/-! ## Every check has one outcome -/

/-- Every check counts as passed, failed or inconclusive, and as one of them only. -/
def Balanced (s : Summary) : Prop := s.checks = s.passed + s.failed + s.inconclusive

theorem Balanced.add {a b : Summary} (ha : a.Balanced) (hb : b.Balanced) : (a + b).Balanced := by
  unfold Balanced at *
  simp only [checks_add, passed_add, failed_add, inconclusive_add]
  omega

theorem balanced_singleton (v : Verdict) : (ofResults [v] []).Balanced := by
  unfold Balanced ofResults
  -- the three tests of an outcome exclude one another
  cases h : v.outcome <;> simp [h, Outcome.isPass, Outcome.isFail, Outcome.isInconclusive]

theorem balanced_ofResults (vs : List Verdict) (ss : List ScenarioVerdict) :
    (ofResults vs ss).Balanced := by
  induction vs with
  | nil => rfl
  | cons v vs ih =>
    rw [ofResults_cons]
    exact (balanced_singleton v).add ih

/-! ## The status of a sum -/

theorem fail_le_status_iff {s : Summary} :
    .fail ≤ s.status ↔ 0 < s.failed ∨ 0 < s.scenariosFailed := by
  unfold status
  split
  case isTrue h => exact iff_of_true le_rfl h
  case isFalse h =>
    refine iff_of_false ?_ h
    split <;> decide

theorem inconclusive_le_status_iff {s : Summary} :
    .inconclusive ≤ s.status ↔ (0 < s.failed ∨ 0 < s.scenariosFailed) ∨ 0 < s.inconclusive := by
  unfold status
  split
  case isTrue h => exact iff_of_true (by decide) (.inl h)
  case isFalse h =>
    split
    case isTrue hi => exact iff_of_true le_rfl (.inr hi)
    case isFalse hi => exact iff_of_false (by decide) (not_or.2 ⟨h, hi⟩)

/-- The status of a sum is the worse of the two. -/
theorem status_add (a b : Summary) : (a + b).status = max a.status b.status := by
  -- a status is known by the statuses it is at least as bad as
  refine eq_of_forall_le_iff fun t => ?_
  rw [le_max_iff]
  cases t with
  | pass => exact iff_of_true (Status.pass_le _) (.inl (Status.pass_le _))
  | inconclusive =>
    simp only [inconclusive_le_status_iff, failed_add, scenariosFailed_add, inconclusive_add]
    omega
  | fail =>
    simp only [fail_le_status_iff, failed_add, scenariosFailed_add]
    omega

end Summary

/-! ## What a run found -/

namespace Outcome

theorem isFail_iff {o : Outcome} : o.isFail = true ↔ ∃ violations, o = .fail violations := by
  cases o <;> simp [isFail]

theorem isInconclusive_iff {o : Outcome} : o.isInconclusive = true ↔ ∃ failure, o = .inconclusive failure := by
  cases o <;> simp [isInconclusive]

end Outcome

namespace Results

variable {r t : Results}

/-- Two runs taken together. -/
def append (r t : Results) : Results := ⟨r.verdicts ++ t.verdicts, r.scenarios ++ t.scenarios⟩

instance : Append Results := ⟨append⟩

/-- Some check failed, or some scenario did. -/
def Fails (r : Results) : Prop :=
  (∃ v ∈ r.verdicts, ∃ violations, v.outcome = .fail violations) ∨
    ∃ v ∈ r.scenarios, v.failure ≠ none

/-- Some check was left without a response. -/
def Stalls (r : Results) : Prop := ∃ v ∈ r.verdicts, ∃ failure, v.outcome = .inconclusive failure

theorem fails_iff : r.Fails ↔ 0 < r.summary.failed ∨ 0 < r.summary.scenariosFailed := by
  refine or_congr ?_ ?_
  · show _ ↔ 0 < r.verdicts.countP fun v => v.outcome.isFail
    simp only [List.countP_pos_iff, Outcome.isFail_iff]
  · show _ ↔ 0 < r.scenarios.countP fun v => !v.passed
    simp [List.countP_pos_iff, ScenarioVerdict.passed, Option.isSome_iff_ne_none]

theorem stalls_iff : r.Stalls ↔ 0 < r.summary.inconclusive := by
  show _ ↔ 0 < r.verdicts.countP fun v => v.outcome.isInconclusive
  simp only [List.countP_pos_iff, Outcome.isInconclusive_iff, Stalls]

theorem status_eq_fail_iff : r.summary.status = .fail ↔ r.Fails := by
  rw [fails_iff, Summary.status]
  split
  case isTrue h => simp [h]
  case isFalse h => split <;> simp [h]

theorem status_eq_inconclusive_iff : r.summary.status = .inconclusive ↔ ¬ r.Fails ∧ r.Stalls := by
  rw [fails_iff, stalls_iff, Summary.status]
  split
  case isTrue h => simp [h]
  case isFalse => split <;> simp [*]

theorem status_eq_pass_iff : r.summary.status = .pass ↔ ¬ r.Fails ∧ ¬ r.Stalls := by
  rw [fails_iff, stalls_iff, Summary.status]
  split
  case isTrue h => simp [h]
  case isFalse => split <;> simp [*]

theorem summary_append (r t : Results) : (r ++ t).summary = r.summary + t.summary :=
  Summary.ofResults_append _ _ _ _

/-- More results never make a status better. -/
theorem status_le_append (r t : Results) : r.summary.status ≤ (r ++ t).summary.status := by
  rw [summary_append, Summary.status_add]
  exact le_max_left _ _

/-- Neither the order of the results nor their division into batches matters to the summary. -/
theorem summary_eq_total {batches : List Results}
    (hv : (batches.flatMap (·.verdicts)).Perm r.verdicts)
    (hs : (batches.flatMap (·.scenarios)).Perm r.scenarios) :
    r.summary = Summary.total (batches.map summary) := by
  rw [Summary.total_map_summary, summary, Summary.ofResults_perm hv hs]

end Results

end Conformance
