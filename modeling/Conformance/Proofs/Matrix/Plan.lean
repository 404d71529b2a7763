import Conformance.Matrix.Policy
/-!
# What is planned

A plan holds every resource of its catalog with every verb, and the policy says what each pair owes. Which
pairs owe the error page is a matter of the path alone.
-/

namespace Conformance

theorem Text.isControl_of_isAsciiControl {ch : Char} (h : isAsciiControl ch = true) : isControl ch = true := by
  simp only [isAsciiControl, isControl, Bool.or_eq_true, Bool.and_eq_true, decide_eq_true_eq, beq_iff_eq] at h ⊢
  omega

namespace Policy
variable {p : Policy} {path : String} {r : Resource} {v : Verb} {check : PlannedCheck} {catalog : List Resource}

/-! ## Plans -/

theorem mem_plan_iff : check ∈ p.plan catalog ↔
    check.resource ∈ catalog ∧ check.expected = p.evaluate check.resource check.verb := by
  simp only [plan, checks, List.mem_flatMap, List.mem_map]
  constructor
  · rintro ⟨r, hr, v, -, rfl⟩
    exact ⟨hr, rfl⟩
  · rintro ⟨hr, hexpected⟩
    refine ⟨check.resource, hr, check.verb, ?_, ?_⟩
    · cases check.verb <;> decide
    · rw [← hexpected]

theorem mem_plan (h : r ∈ catalog) (v : Verb) : ⟨r, v, p.evaluate r v⟩ ∈ p.plan catalog :=
  mem_plan_iff.2 ⟨h, rfl⟩

theorem plan_cons (p : Policy) (r : Resource) (rs : List Resource) :
    p.plan (r :: rs) = p.checks r ++ p.plan rs := rfl

/-- The checks of the resource at a place stand together, in the order of the verbs. -/
theorem getElem?_plan {i j : Nat} (hr : catalog[i]? = some r) (hv : Verb.all[j]? = some v) :
    (p.plan catalog)[4 * i + j]? = some ⟨r, v, p.evaluate r v⟩ := by
  have hj : j < 4 := (List.getElem?_eq_some_iff.1 hv).1
  induction catalog generalizing i with
  | nil => cases hr
  | cons s rs ih =>
    have hlength : (p.checks s).length = 4 := rfl
    rw [plan_cons]
    cases i with
    | zero =>
      obtain rfl := Option.some.inj hr
      rw [List.getElem?_append_left (by omega), checks, List.getElem?_map, Nat.mul_zero, Nat.zero_add, hv]
      rfl
    | succ i =>
      rw [List.getElem?_append_right (by omega), hlength, show 4 * (i + 1) + j - 4 = 4 * i + j by omega]
      exact ih hr

/-! ## Malformed paths -/

/-- A path is valid if it starts with a slash and holds none of the characters that make it malformed. -/
theorem classify_eq_valid_iff : p.classify path = .valid ↔
    path.toList.head? = some '/' ∧ ∀ ch ∈ path.toList, p.refuses ch = false := by
  unfold classify
  split
  · rename_i hpath
    have hslash : path.toList.head? = some '/' := by rw [hpath]; rfl
    have hclean : (∀ ch ∈ path.toList, p.refuses ch = false) ↔ path.toList.any p.refuses = false := by simp
    rw [and_iff_right hslash, hclean]
    cases path.toList.any p.refuses <;> simp
  · rename_i hpath
    refine iff_of_false nofun ?_
    rintro ⟨hslash, -⟩
    obtain ⟨rest, hrest⟩ := List.head?_eq_some_iff.1 hslash
    exact hpath rest hrest

theorem refuses_eq_false_iff {rejected : String} {delete : DeleteRule} {ch : Char} :
    (ofText rejected delete).refuses ch = false ↔
      Text.isAsciiControl ch = false ∧ Text.isBlank ch = false ∧ ch ∉ rejected.toList := by
  simp [refuses, ofText, Text.mem_ascending, and_assoc]

/-- On a malformed path every verb owes the error page. -/
theorem evaluate_of_not_valid (h : p.classify r.path ≠ .valid) :
    p.evaluate r v = ⟨404, .exact Resource.errorPage⟩ := by
  unfold evaluate
  cases hclass : p.classify r.path with
  | valid => exact absurd hclass h
  | malformed => rfl

/-- A content type that is asked for is that of the error page, or is declared for a valid path. -/
theorem contentType_evaluate {t : String} (h : (p.evaluate r v).contentType = .exact t) :
    t = Resource.errorPage ∨ p.classify r.path = .valid ∧ t = r.contentType := by
  unfold evaluate at h
  split at h
  · cases h
    exact .inl rfl
  · rename_i hpath
    split at h <;> cases h <;> exact .inr ⟨hpath, rfl⟩

end Policy

end Conformance
