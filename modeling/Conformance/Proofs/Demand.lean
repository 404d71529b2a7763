import Mathlib.Data.List.Basic
/-!
# Lists of rules

What is looked at in order is a list of rules, each given by the faults it finds. `Reports` says of an answer that
it is what the first broken rule of a list finds, and that there is none if every rule is kept.
-/

namespace Conformance

/-- A rule, given by the faults it finds. -/
abbrev Demand (φ : Type) : Type := φ → Prop

namespace Demand
variable {φ ψ α σ : Type}

/-- A rule is kept if it finds no fault. -/
def Kept (rule : Demand φ) : Prop := ∀ f, ¬ rule f

/-- Every rule of a list is kept. -/
def AllKept (rules : List (Demand φ)) : Prop := ∀ rule ∈ rules, rule.Kept

/-- The rule that asks for something and has one fault to find. -/
def asks (p : Prop) (fault : φ) : Demand φ := fun f => ¬ p ∧ f = fault

/-- A rule about a part, its faults told as faults of the whole. -/
def within (g : φ → ψ) (rule : Demand φ) : Demand ψ := fun f => ∃ f', rule f' ∧ f = g f'

/-- The rules for the items of a list from the first on, each given the items before it. -/
def each (rules : List α → α → List (Demand φ)) (xs : List α) : List (Demand φ) :=
  xs.zipIdx.flatMap fun x => rules (xs.take x.2) x.1

/-- The first rule of a list that is broken finds the fault. -/
def First (rules : List (Demand φ)) (f : φ) : Prop :=
  ∃ before rule behind, rules = before ++ rule :: behind ∧ AllKept before ∧ rule f

/-- The answer is what the first broken rule finds. -/
inductive Reports : List (Demand φ) → Option φ → Prop
  | nil : Reports [] none
  | broken {rule : Demand φ} {rules : List (Demand φ)} {f : φ} (finds : ∀ f', rule f' ↔ f' = f) :
    Reports (rule :: rules) (some f)
  | kept {rule : Demand φ} {rules : List (Demand φ)} {o : Option φ} (kept : rule.Kept)
    (rest : Reports rules o) : Reports (rule :: rules) o

variable {rules rules' : List (Demand φ)} {rule : Demand φ} {o o' : Option φ} {f fault : φ} {p : Prop}

@[simp] theorem kept_asks : (asks p fault).Kept ↔ p := by simp [Kept, asks]

@[simp] theorem kept_within {g : φ → ψ} : (rule.within g).Kept ↔ rule.Kept := by
  constructor
  · exact fun h f hf => h (g f) ⟨f, hf, rfl⟩
  · rintro h _ ⟨f, hf, -⟩
    exact h f hf

@[simp] theorem allKept_nil : AllKept ([] : List (Demand φ)) := by simp [AllKept]

@[simp] theorem allKept_cons : AllKept (rule :: rules) ↔ rule.Kept ∧ AllKept rules := List.forall_mem_cons

@[simp] theorem allKept_append : AllKept (rules ++ rules') ↔ AllKept rules ∧ AllKept rules' :=
  List.forall_mem_append

@[simp] theorem allKept_within {g : φ → ψ} : AllKept (rules.map (within g)) ↔ AllKept rules := by
  simp [AllKept]

theorem not_first_nil : ¬ First [] f := by simp [First]

theorem first_cons_iff : First (rule :: rules) f ↔ rule f ∨ rule.Kept ∧ First rules f := by
  constructor
  · rintro ⟨before, rule', behind, heq, hbefore, hf⟩
    cases before with
    | nil =>
      cases heq
      exact .inl hf
    | cons r before =>
      cases heq
      obtain ⟨hkept, hbefore⟩ := allKept_cons.1 hbefore
      exact .inr ⟨hkept, before, rule', behind, rfl, hbefore, hf⟩
  · rintro (hf | ⟨hkept, before, rule', behind, rfl, hbefore, hf⟩)
    · exact ⟨[], rule, rules, rfl, allKept_nil, hf⟩
    · exact ⟨rule :: before, rule', behind, rfl, allKept_cons.2 ⟨hkept, hbefore⟩, hf⟩

/-- Every rule of a list is kept, or there is a first one that is broken. -/
theorem allKept_or_first (rules : List (Demand φ)) : AllKept rules ∨ ∃ f, First rules f := by
  induction rules with
  | nil => exact .inl allKept_nil
  | cons rule rules ih =>
    by_cases hbroken : ∃ f, rule f
    · obtain ⟨f, hf⟩ := hbroken
      exact .inr ⟨f, first_cons_iff.2 (.inl hf)⟩
    have hkept : rule.Kept := fun f hf => hbroken ⟨f, hf⟩
    rcases ih with hrest | ⟨f, hf⟩
    · exact .inl (allKept_cons.2 ⟨hkept, hrest⟩)
    · exact .inr ⟨f, first_cons_iff.2 (.inr ⟨hkept, hf⟩)⟩

namespace Reports

theorem eq_none_iff (h : Reports rules o) : o = none ↔ AllKept rules := by
  induction h with
  | nil => simp
  | broken finds =>
    rw [allKept_cons]
    exact ⟨nofun, fun h => absurd ((finds _).2 rfl) (h.1 _)⟩
  | kept kept rest ih => rw [allKept_cons, ih, and_iff_right kept]

theorem eq_some_iff (h : Reports rules o) : o = some f ↔ First rules f := by
  induction h with
  | nil => simp [not_first_nil]
  | @broken rule rules f' finds =>
    have hbroken : ¬ rule.Kept := fun hkept => hkept f' ((finds f').2 rfl)
    rw [first_cons_iff, finds, or_iff_left fun h => hbroken h.1, Option.some.injEq, eq_comm]
  | @kept rule rules o kept rest ih => rw [first_cons_iff, ih, or_iff_right (kept f), and_iff_right kept]

/-- Rules behind others are asked when those found nothing. -/
theorem append (h : Reports rules o) (h' : Reports rules' o') : Reports (rules ++ rules') (o <|> o') := by
  induction h with
  | nil => exact h'
  | broken finds => exact .broken finds
  | kept kept rest ih => exact .kept kept ih

theorem asked (h : p) (rest : Reports rules o) : Reports (asks p fault :: rules) o :=
  .kept (kept_asks.2 h) rest

theorem not_asked (h : ¬p) : Reports (asks p fault :: rules) (some fault) :=
  .broken fun _ => and_iff_right h

theorem cons (h : Reports [rule] o) (h' : Reports rules o') : Reports (rule :: rules) (o <|> o') := h.append h'

theorem within (g : φ → ψ) (h : Reports rules o) : Reports (rules.map (Demand.within g)) (o.map g) := by
  induction h with
  | nil => exact .nil
  | broken finds => exact .broken fun f' => by simp [Demand.within, finds]
  | kept kept rest ih => exact .kept (kept_within.2 kept) ih

end Reports

/-! ## Items of a list -/

theorem each_cons (rules : List α → α → List (Demand φ)) (x : α) (xs : List α) :
    each rules (x :: xs) = rules [] x ++ each (fun before => rules (x :: before)) xs := by
  rw [each, List.zipIdx_cons, List.flatMap_cons, List.zipIdx_succ, List.flatMap_map]
  rfl

theorem mem_each {rules : List α → α → List (Demand φ)} {xs : List α} :
    rule ∈ each rules xs ↔ ∃ i x, xs[i]? = some x ∧ rule ∈ rules (xs.take i) x := by
  rw [each, List.mem_flatMap]
  constructor
  · rintro ⟨⟨x, i⟩, hx, hrule⟩
    exact ⟨i, x, List.mem_zipIdx_iff_getElem?.1 hx, hrule⟩
  · rintro ⟨i, x, hx, hrule⟩
    exact ⟨(x, i), List.mem_zipIdx_iff_getElem?.2 hx, hrule⟩

/-- A scan that carries what it needs of the items before reports by the rules for each item. -/
theorem Reports.each {rules : List α → α → List (Demand φ)} (scan : σ → List α → Option φ)
    (item : σ → α → Option φ) (next : σ → α → σ) (R : List α → σ → Prop)
    (hnil : ∀ s, scan s [] = none)
    (hcons : ∀ s x xs, scan s (x :: xs) = (item s x <|> scan (next s x) xs))
    (hitem : ∀ before s x, R before s → Reports (rules before x) (item s x))
    (hnext : ∀ before s x, R before s → R (before ++ [x]) (next s x)) {s : σ} (hs : R [] s) (xs : List α) :
    Reports (Demand.each rules xs) (scan s xs) := by
  -- with the items before the rest of the list in view, the scan is an induction on that rest
  have hrest : ∀ xs before s, R before s →
      Reports (Demand.each (fun more => rules (before ++ more)) xs) (scan s xs) := by
    intro xs
    induction xs with
    | nil =>
      intro before s _
      rw [hnil]
      exact .nil
    | cons x xs ih =>
      intro before s hs
      rw [each_cons, hcons, List.append_nil]
      refine (hitem before s x hs).append ?_
      have hxs := ih (before ++ [x]) (next s x) (hnext before s x hs)
      simpa only [List.append_assoc, List.singleton_append] using hxs
  exact hrest xs [] s hs

end Demand

end Conformance
