import Mathlib.Data.List.Forall2
import Mathlib.Data.List.Perm.Basic
import Conformance.Verdict.Comparison
/-!
# Headers that may stand for one another

A comparison asks a list of headers for nine names, and for each of them it sees the values in the order in
which they came. So entries of different names may change places, names may change the case of their letters,
and entries under any other name may come and go, and nothing that is said about the response changes. These
changes are all there are: lists with the same values under the nine names can be made out of one another.
-/

namespace Conformance

open Text

namespace HeaderList

/-- The names a comparison asks for. -/
def askedNames : List String := "content-type" :: SecurityHeader.contract.map (·.name)

/-- Lists of header entries that are made out of one another by changes a comparison does not see. -/
inductive Rewritten : List (String × String) → List (String × String) → Prop
  /-- entries change places, and those of one name stay in their order -/
  | reorder {es fs : List (String × String)} (perm : es.Perm fs)
    (stable : ∀ name, es.filter (fun x => sameName x.1 name) = fs.filter fun x => sameName x.1 name) :
    Rewritten es fs
  /-- names are written in another case -/
  | recase {es fs : List (String × String)}
    (recased : List.Forall₂ (fun x y => fold x.1 = fold y.1 ∧ x.2 = y.2) es fs) : Rewritten es fs
  /-- an entry is added under a name that is not asked for -/
  | add {before behind : List (String × String)} {x : String × String}
    (unasked : ∀ name ∈ askedNames, fold x.1 ≠ fold name) :
    Rewritten (before ++ behind) (before ++ x :: behind)
  | symm {es fs : List (String × String)} (back : Rewritten fs es) : Rewritten es fs
  | trans {es fs gs : List (String × String)} (first : Rewritten es fs) (second : Rewritten fs gs) :
    Rewritten es gs

variable {es fs : List (String × String)} {name : String}

/-! ## The same values -/

theorem values_recase (h : List.Forall₂ (fun x y => fold x.1 = fold y.1 ∧ x.2 = y.2) es fs) (name : String) :
    values ⟨es⟩ name = values ⟨fs⟩ name := by
  induction h with
  | nil => rfl
  | @cons x y es fs hxy _ ih =>
    have hname : sameName x.1 name = sameName y.1 name := by rw [sameName, sameName, hxy.1]
    simp only [values, List.filter_cons, hname] at ih ⊢
    split
    · rw [List.map_cons, List.map_cons, hxy.2, ih]
    · exact ih

/-- What is made out of a list has the same values under the names that are asked for. -/
theorem Rewritten.values_eq (h : Rewritten es fs) (hname : name ∈ askedNames) :
    values ⟨es⟩ name = values ⟨fs⟩ name := by
  induction h with
  | reorder _ stable => rw [values, values, stable]
  | recase recased => exact values_recase recased name
  | @add before behind x unasked =>
    have hx : sameName x.1 name = false := beq_eq_false_iff_ne.2 (unasked name hname)
    simp [values, hx]
  | symm _ ih => exact ih.symm
  | trans _ _ ih ih' => exact ih.trans ih'

/-! ## Nothing but these changes -/

theorem Rewritten.refl (es : List (String × String)) : Rewritten es es := .reorder .rfl fun _ => rfl

theorem Rewritten.cons (h : Rewritten es fs) (x : String × String) : Rewritten (x :: es) (x :: fs) := by
  induction h with
  | reorder perm stable => exact .reorder (perm.cons x) fun name => by simp only [List.filter_cons, stable]
  | recase recased => exact .recase (.cons ⟨rfl, rfl⟩ recased)
  | @add before behind y unasked => exact @add (x :: before) behind y unasked
  | symm _ ih => exact .symm ih
  | trans _ _ ih ih' => exact .trans ih ih'

/-- An entry under its name as it is asked for, if it is. -/
def asked? (x : String × String) : Option (String × String) :=
  (askedNames.find? fun name => sameName x.1 name).map fun name => (name, x.2)

/-- What is asked for of a list can be made out of it. -/
theorem rewritten_filterMap_asked? (es : List (String × String)) : Rewritten es (es.filterMap asked?) := by
  induction es with
  | nil => exact .refl []
  | cons x es ih =>
    cases hfind : askedNames.find? fun name => sameName x.1 name with
    | none =>
      have hasked : asked? x = none := by rw [asked?, hfind]; rfl
      rw [List.filterMap_cons_none hasked]
      refine .trans (.symm (@Rewritten.add [] es x ?_)) ih
      simpa using hfind
    | some name =>
      have hasked : asked? x = some (name, x.2) := by rw [asked?, hfind]; rfl
      rw [List.filterMap_cons_some hasked]
      have hname : fold x.1 = fold name := by simpa using List.find?_some hfind
      refine .trans (ih.cons x) (.recase (.cons ⟨hname, rfl⟩ ?_))
      exact List.forall₂_same.2 fun _ _ => ⟨rfl, rfl⟩

/-- No two of the names that are asked for are the same in another case. -/
theorem eq_of_fold_eq : ∀ name ∈ askedNames, ∀ other ∈ askedNames, fold name = fold other → name = other := by
  decide

theorem fst_mem_of_asked? {x y : String × String} (h : asked? x = some y) : y.1 ∈ askedNames := by
  obtain ⟨name, hfind, rfl⟩ := Option.map_eq_some_iff.1 h
  exact List.mem_of_find?_eq_some hfind

/-- The entries of one name, once all names are written as they are asked for. -/
theorem filter_asked? (es : List (String × String)) (hname : name ∈ askedNames) :
    (es.filterMap asked?).filter (fun x => sameName x.1 name) = (values ⟨es⟩ name).map fun v => (name, v) := by
  induction es with
  | nil => rfl
  | cons x es ih =>
    rw [values] at ih
    rw [values, List.filter_cons]
    cases hfind : askedNames.find? fun name => sameName x.1 name with
    | none =>
      have hx : ¬ sameName x.1 name = true := List.find?_eq_none.1 hfind name hname
      have hasked : asked? x = none := by rw [asked?, hfind]; rfl
      rw [List.filterMap_cons_none hasked, if_neg hx, ih]
    | some other =>
      have hother : fold x.1 = fold other := by simpa using List.find?_some hfind
      have hasked : asked? x = some (other, x.2) := by rw [asked?, hfind]; rfl
      rw [List.filterMap_cons_some hasked, List.filter_cons]
      by_cases hsame : fold x.1 = fold name
      · obtain rfl := eq_of_fold_eq other (List.mem_of_find?_eq_some hfind) name hname (hother.symm.trans hsame)
        rw [if_pos (sameName_iff.2 rfl), if_pos (sameName_iff.2 hsame), ih]
        rfl
      · rw [if_neg (mt sameName_iff.1 (hother ▸ hsame)), if_neg (mt sameName_iff.1 hsame), ih]

/-- Lists of entries can be made out of one another exactly if they have the same values under every name that
is asked for. -/
theorem rewritten_iff : Rewritten es fs ↔ ∀ name ∈ askedNames, values ⟨es⟩ name = values ⟨fs⟩ name := by
  refine ⟨fun h name hname => h.values_eq hname, fun h => ?_⟩
  have hstable : ∀ name, (es.filterMap asked?).filter (fun x => sameName x.1 name) =
      (fs.filterMap asked?).filter fun x => sameName x.1 name := by
    intro name
    by_cases hname : ∃ other ∈ askedNames, fold other = fold name
    · obtain ⟨other, hother, hfold⟩ := hname
      have hsame : ∀ x : String × String, sameName x.1 name = sameName x.1 other := by
        intro x
        rw [sameName, sameName, hfold]
      simp only [hsame, filter_asked? _ hother, h other hother]
    · have hnil : ∀ es : List (String × String),
          (es.filterMap asked?).filter (fun x => sameName x.1 name) = [] := by
        intro es
        rw [List.filter_eq_nil_iff]
        intro x hx hsame
        obtain ⟨y, -, hy⟩ := List.mem_filterMap.1 hx
        exact hname ⟨x.1, fst_mem_of_asked? hy, sameName_iff.1 hsame⟩
      rw [hnil, hnil]
  have hperm : (es.filterMap asked?).Perm (fs.filterMap asked?) := by
    rw [List.perm_iff_count]
    intro x
    have hself (es : List (String × String)) : (es.filter fun y => sameName y.1 x.1).count x = es.count x :=
      List.count_filter (sameName_iff.2 rfl)
    rw [← hself, hstable x.1, hself]
  exact .trans (rewritten_filterMap_asked? es)
    (.trans (.reorder hperm hstable) (.symm (rewritten_filterMap_asked? fs)))

end HeaderList

/-! ## What is said about a response -/

namespace Response
variable {hs hs' : HeaderList}

/-- A comparison sees nothing of the headers but their values under the names that are asked for. -/
theorem violations_congr (h : ∀ name ∈ HeaderList.askedNames, hs.values name = hs'.values name)
    (status : UInt16) (body : ByteArray) (e : Expectation) :
    (ofParts status hs body).violations e = (ofParts status hs' body).violations e := by
  have hget : ∀ name ∈ HeaderList.askedNames, hs.get? name = hs'.get? name := by
    intro name hname
    rw [HeaderList.get?, HeaderList.get?, h name hname]
  have hheaders : SecurityHeader.contract.filterMap (headerViolation? hs) =
      SecurityHeader.contract.filterMap (headerViolation? hs') := by
    refine List.filterMap_congr fun header hheader => ?_
    rw [headerViolation?, headerViolation?, hget]
    exact List.mem_cons_of_mem _ (List.mem_map_of_mem hheader)
  simp only [violations, ofParts, hget _ List.mem_cons_self, hheaders]

end Response

/-- What a comparison reports and the verdict on a check stay the same when entries change places without
passing one of their own name, when names are written in another case, and when entries come or go under a
name that is neither `content-type` nor one of the contract. -/
theorem rewritten_headers_same_verdict {es fs : List (String × String)} (h : HeaderList.Rewritten es fs)
    (status : UInt16) (body : ByteArray) (e : Expectation) (check : PlannedCheck) (validator : Validator) :
    let r := Response.ofParts status ⟨es⟩ body
    let r' := Response.ofParts status ⟨fs⟩ body
    r.violations e = r'.violations e ∧ r.firstViolation? e = r'.firstViolation? e ∧
      check.verdict r validator = check.verdict r' validator := by
  intro r r'
  have hviolations : ∀ e, r.violations e = r'.violations e :=
    Response.violations_congr (HeaderList.rewritten_iff.1 h) status body
  refine ⟨hviolations e, ?_, ?_⟩
  · rw [Response.firstViolation?, hviolations, ← Response.firstViolation?]
  · have hexamine : check.examine r validator = check.examine r' validator := by
      rw [PlannedCheck.examine, hviolations, PlannedCheck.examine]
      rfl
    rw [PlannedCheck.verdict, hexamine, PlannedCheck.verdict]
    rfl

/-- The headers of a proxy that sorts them, writes their names its own way and adds one. -/
theorem proxied_headers_same_verdict :
    let es := [("X-Frame-Options", "deny"), ("Server", "globaleaks"), ("x-frame-options", "sameorigin"),
      ("Content-Type", "text/html")]
    let fs := [("content-type", "text/html"), ("Date", "now"), ("SERVER", "globaleaks"),
      ("X-FRAME-OPTIONS", "deny"), ("X-Frame-Options", "sameorigin")]
    HeaderList.Rewritten es fs ∧ ∀ check validator,
      PlannedCheck.verdict check (.ofParts 200 ⟨es⟩ .empty) validator =
        check.verdict (.ofParts 200 ⟨fs⟩ .empty) validator := by
  intro es fs
  have h : HeaderList.Rewritten es fs := HeaderList.rewritten_iff.2 (by decide)
  refine ⟨h, fun check validator => ?_⟩
  exact (rewritten_headers_same_verdict h 200 .empty ⟨200, .unconstrained⟩ check validator).2.2

end Conformance
