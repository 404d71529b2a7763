import Conformance.Verdict.Comparison
import Conformance.Proofs.Text.Pieces
/-!
# What a comparison reports

`Misses` says when a response misses its expectation and with which violation. The list of a comparison
holds these violations and no others, in the order of the dimensions and each dimension at most once; the
first violation, the finding and the verdict are all read off that one list.
-/

namespace Conformance

open scoped List

/-! ## The headers of a response -/

namespace HeaderList
variable {hs : HeaderList} {name : String}

theorem values_eq_nil_iff : hs.values name = [] ↔ ∀ x ∈ hs.entries, Text.fold x.1 ≠ Text.fold name := by
  simp [values]

theorem get?_eq_some_iff {v : String} : hs.get? name = some v ↔
    (∃ x ∈ hs.entries, Text.fold x.1 = Text.fold name) ∧ v = ", ".intercalate (hs.values name) := by
  have hex : hs.values name ≠ [] ↔ ∃ x ∈ hs.entries, Text.fold x.1 = Text.fold name := by
    simp [values_eq_nil_iff]
  rw [← hex, ← Text.join_eq_intercalate]
  unfold get?
  split
  · rename_i hnil
    simp [hnil]
  · rename_i hne
    rw [Option.some.injEq, eq_comm]
    exact (and_iff_right hne).symm

end HeaderList

/-! ## One dimension -/

/-- The ways in which the envelope of a response misses an expectation. -/
inductive Misses (r : Response) (e : Expectation) : Violation → Prop where
  | status (differs : r.status ≠ e.status) : Misses r e (.status e.status r.status)
  | contentType {t : String} (exact : e.contentType = .exact t) (differs : r.contentType ≠ some t) :
    Misses r e (.contentType t r.contentType)
  | missingHeader {h : SecurityHeader} (mem : h ∈ SecurityHeader.contract)
      (absent : ∀ x ∈ r.headers.entries, Text.fold x.1 ≠ Text.fold h.name) :
    Misses r e (.missingHeader h.name h.value)
  | headerValue {h : SecurityHeader} (mem : h ∈ SecurityHeader.contract)
      (present : ∃ x ∈ r.headers.entries, Text.fold x.1 = Text.fold h.name)
      (differs : ", ".intercalate (r.headers.values h.name) ≠ h.value) :
    Misses r e (.headerValue h.name h.value (", ".intercalate (r.headers.values h.name)))

section Dimensions
variable {v : Violation}

theorem statusViolation?_eq_some_iff {expected actual : UInt16} :
    statusViolation? expected actual = some v ↔ actual ≠ expected ∧ v = .status expected actual := by
  unfold statusViolation?
  split <;> simp_all [eq_comm]

theorem contentTypeViolation?_eq_some_iff {rule : ContentTypeRule} {actual : Option String} :
    contentTypeViolation? rule actual = some v ↔
      ∃ t, rule = .exact t ∧ actual ≠ some t ∧ v = .contentType t actual := by
  cases rule with
  | unconstrained => simp [contentTypeViolation?]
  | exact t =>
    unfold contentTypeViolation?
    simp only
    split <;> simp_all [eq_comm]

theorem headerViolation?_eq_some_iff {hs : HeaderList} {h : SecurityHeader} :
    headerViolation? hs h = some v ↔
      ((∀ x ∈ hs.entries, Text.fold x.1 ≠ Text.fold h.name) ∧ v = .missingHeader h.name h.value) ∨
      ((∃ x ∈ hs.entries, Text.fold x.1 = Text.fold h.name) ∧
        ", ".intercalate (hs.values h.name) ≠ h.value ∧
        v = .headerValue h.name h.value (", ".intercalate (hs.values h.name))) := by
  unfold headerViolation?
  split
  · rename_i hnone
    have habsent := HeaderList.values_eq_nil_iff.1 (HeaderList.get?_eq_none_iff.1 hnone)
    constructor
    · intro hv
      exact .inl ⟨habsent, (Option.some.inj hv).symm⟩
    · rintro (⟨-, rfl⟩ | ⟨⟨x, hx, hname⟩, -⟩)
      · rfl
      · exact absurd hname (habsent x hx)
  · rename_i actual hsome
    obtain ⟨hpresent, rfl⟩ := HeaderList.get?_eq_some_iff.1 hsome
    constructor
    · intro hv
      split at hv
      · cases hv
      · rename_i hne
        exact .inr ⟨hpresent, hne, (Option.some.inj hv).symm⟩
    · rintro (⟨habsent, -⟩ | ⟨-, hne, rfl⟩)
      · obtain ⟨x, hx, hname⟩ := hpresent
        exact absurd hname (habsent x hx)
      · rw [if_neg hne]

theorem subject_of_headerViolation? {hs : HeaderList} {h : SecurityHeader}
    (hv : headerViolation? hs h = some v) : v.subject = h.name := by
  rcases headerViolation?_eq_some_iff.1 hv with ⟨-, rfl⟩ | ⟨-, -, rfl⟩ <;> rfl

end Dimensions

/-! ## The whole list -/

/-- A list is exactly the mismatches: nothing else is reported and nothing is left out. -/
theorem mem_violations_iff {r : Response} {e : Expectation} {v : Violation} :
    v ∈ r.violations e ↔ Misses r e v := by
  simp only [Response.violations, List.mem_append, Option.mem_toList, List.mem_filterMap,
    statusViolation?_eq_some_iff, contentTypeViolation?_eq_some_iff, headerViolation?_eq_some_iff]
  constructor
  · rintro ((⟨hd, rfl⟩ | ⟨t, ht, hd, rfl⟩) | ⟨h, hmem, ⟨ha, rfl⟩ | ⟨hp, hd, rfl⟩⟩)
    · exact .status hd
    · exact .contentType ht hd
    · exact .missingHeader hmem ha
    · exact .headerValue hmem hp hd
  · intro hv
    cases hv with
    | status hd => exact .inl (.inl ⟨hd, rfl⟩)
    | contentType ht hd => exact .inl (.inr ⟨_, ht, hd, rfl⟩)
    | missingHeader hmem ha => exact .inr ⟨_, hmem, .inl ⟨ha, rfl⟩⟩
    | headerValue hmem hp hd => exact .inr ⟨_, hmem, .inr ⟨hp, hd, rfl⟩⟩

/-- What a comparison looks at, in this order. -/
def Response.subjects : List String := "status" :: "content-type" :: SecurityHeader.contract.map (·.name)

theorem Response.nodup_subjects : subjects.Nodup := by decide

/-- What is kept of a list stays in the order of the list. -/
theorem filterMap_map_sublist {α β γ : Type} {f : α → Option β} {g : β → γ} {key : α → γ}
    (h : ∀ a b, f a = some b → g b = key a) (as : List α) : (as.filterMap f).map g <+ as.map key := by
  induction as with
  | nil => exact .slnil
  | cons a as ih =>
    rw [List.filterMap_cons]
    split
    · exact ih.cons _
    · rename_i b hb
      rw [List.map_cons, List.map_cons, h a b hb]
      exact ih.cons_cons _

theorem Response.subjects_violations_sublist (r : Response) (e : Expectation) :
    (r.violations e).map Violation.subject <+ subjects := by
  have hstatus : (statusViolation? e.status r.status).toList.map Violation.subject <+ ["status"] := by
    cases h : statusViolation? e.status r.status with
    | none => exact List.nil_sublist _
    | some v =>
      obtain ⟨-, rfl⟩ := statusViolation?_eq_some_iff.1 h
      exact .refl _
  have htype : (contentTypeViolation? e.contentType r.contentType).toList.map Violation.subject <+
      ["content-type"] := by
    cases h : contentTypeViolation? e.contentType r.contentType with
    | none => exact List.nil_sublist _
    | some v =>
      obtain ⟨t, -, -, rfl⟩ := contentTypeViolation?_eq_some_iff.1 h
      exact .refl _
  have hheaders := filterMap_map_sublist (fun _ _ => subject_of_headerViolation?)
    (f := headerViolation? r.headers) SecurityHeader.contract
  rw [violations, List.map_append, List.map_append]
  exact (hstatus.append htype).append hheaders

/-! ## The body and the verdict -/

/-- The violation of a body that was expected to be JSON and judged invalid. -/
def PlannedCheck.bodyViolation? (check : PlannedCheck) (r : Response) (validator : Validator) :
    Option Violation :=
  if check.expected.expectsJson then
    match validator check.resource r.body with
    | .invalid schema detail => some (.bodySchema schema detail)
    | .notPerformed | .valid _ => none
  else none

theorem PlannedCheck.violations_examine (check : PlannedCheck) (r : Response) (validator : Validator) :
    (check.examine r validator).violations =
      r.violations check.expected ++ (check.bodyViolation? r validator).toList := by
  unfold examine bodyViolation?
  simp only
  split
  · cases validator check.resource r.body <;> simp [Finding.judged]
  · simp

theorem Finding.result_eq_error_iff {f : Finding} {v : Violation} :
    f.result = .error v ↔ f.violations.head? = some v := by
  unfold result
  split <;> simp_all

theorem Outcome.ofViolations_eq_fail_iff {vs ws : List Violation} :
    ofViolations vs = .fail ws ↔ ws ≠ [] ∧ ws = vs := by
  cases vs with
  | nil => simp [ofViolations]
  | cons v vs =>
    simp only [ofViolations, Outcome.fail.injEq]
    constructor
    · rintro rfl
      exact ⟨List.cons_ne_nil v vs, rfl⟩
    · exact fun h => h.2.symm

/-- A comparison lists exactly the mismatches of the envelope, in the order of the dimensions and each
dimension once; the first violation is the head of that list; and what is found about a check, and its
verdict, is that list with at most the violation of the body behind it. -/
theorem comparison_exact (r : Response) (e : Expectation) (check : PlannedCheck) (validator : Validator) :
    let found := r.violations check.expected ++ (check.bodyViolation? r validator).toList
    (∀ v, v ∈ r.violations e ↔ Misses r e v) ∧
    (r.violations e).map Violation.subject <+ Response.subjects ∧
    ((r.violations e).map Violation.subject).Nodup ∧
    (∀ v, r.firstViolation? e = some v ↔ ∃ vs, r.violations e = v :: vs) ∧
    (r.firstViolation? e = none ↔ ∀ v, ¬ Misses r e v) ∧
    (check.examine r validator).violations = found ∧
    (∀ v, (check.examine r validator).result = .error v ↔ ∃ vs, found = v :: vs) ∧
    (∀ vs, (check.verdict r validator).outcome = .fail vs ↔ vs ≠ [] ∧ vs = found) ∧
    ((check.verdict r validator).outcome = .pass ↔ found = []) := by
  intro found
  have hfound : (check.examine r validator).violations = found := check.violations_examine r validator
  have hsub := Response.subjects_violations_sublist r e
  refine ⟨fun v => mem_violations_iff, hsub, hsub.nodup Response.nodup_subjects, ?_, ?_, hfound, ?_, ?_, ?_⟩
  · intro v
    exact List.head?_eq_some_iff
  · rw [Response.firstViolation?, List.head?_eq_none_iff, List.eq_nil_iff_forall_not_mem]
    simp only [mem_violations_iff]
  · intro v
    rw [Finding.result_eq_error_iff, hfound, List.head?_eq_some_iff]
  · intro vs
    rw [← hfound]
    exact Outcome.ofViolations_eq_fail_iff
  · rw [← hfound]
    exact Outcome.ofViolations_eq_pass_iff

end Conformance
