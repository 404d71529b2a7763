import Mathlib.Computability.Language
import Conformance.Proofs.Wizard.Acceptance
/-!
# The course of a submission

The commands a gate accepts one after the other form a regular language. `journey` is its whole words,
those that end with a submission; where there is nobody to select they end at the choice of a
recipient (`opening`). A phase stands for what is left of a word, and that is how the main statement is
proved: `rest` and `openingRest` give every phase its remaining words, and each is shown to follow the
rule of the gate letter by letter (`LeadsTo`).
-/

namespace Conformance.Gate

open scoped Computability List

/-! ## Languages of commands -/

/-- One command of a kind. -/
def one (kind : Command → Prop) : Language Command := {w | ∃ c, kind c ∧ w = [c]}

/-- Any number of commands of a kind. -/
def many (kind : Command → Prop) : Language Command := (one kind)∗

/-- The beginnings of words. -/
def begun (L : Language Command) : Language Command := {w | ∃ u ∈ L, w <+: u}

/-- The words themselves, and those without a submission with one `abandon` behind them. -/
def orAbandoned (L : Language Command) : Language Command :=
  {w | w ∈ L ∨ ∃ u ∈ L, .submit ∉ u ∧ w = u ++ [.abandon]}

section Languages
variable {kind kind' : Command → Prop} {L : Language Command} {c : Command} {w : List Command}

@[simp] theorem nil_notMem_one_mul : [] ∉ one kind * L := by
  rintro ⟨_, ⟨d, -, rfl⟩, b, -, h⟩
  cases h

@[simp] theorem cons_mem_one_mul : c :: w ∈ one kind * L ↔ kind c ∧ w ∈ L := by
  rw [Language.mem_mul]
  constructor
  · rintro ⟨_, ⟨d, hd, rfl⟩, b, hb, h⟩
    cases h
    exact ⟨hd, hb⟩
  · rintro ⟨hc, hw⟩
    exact ⟨[c], ⟨c, hc, rfl⟩, w, hw, rfl⟩

@[simp] theorem nil_notMem_one : [] ∉ one kind := by
  rw [← mul_one (one kind)]
  exact nil_notMem_one_mul

@[simp] theorem cons_mem_one : c :: w ∈ one kind ↔ kind c ∧ w = [] := by
  rw [← mul_one (one kind), cons_mem_one_mul, Language.mem_one]

theorem many_mul : many kind * L = L + one kind * (many kind * L) := by
  conv_lhs => rw [many, ← Language.one_add_self_mul_kstar_eq_kstar]
  rw [add_mul, one_mul, mul_assoc, many]

@[simp] theorem nil_mem_many_mul : [] ∈ many kind * L ↔ [] ∈ L := by
  rw [many_mul, Language.mem_add]
  simp

@[simp] theorem cons_mem_many_mul :
    c :: w ∈ many kind * L ↔ c :: w ∈ L ∨ kind c ∧ w ∈ many kind * L := by
  conv_lhs => rw [many_mul, Language.mem_add, cons_mem_one_mul]

@[simp] theorem nil_mem_many : [] ∈ many kind := Language.nil_mem_kstar _

@[simp] theorem cons_mem_many : c :: w ∈ many kind ↔ kind c ∧ w ∈ many kind := by
  rw [← mul_one (many kind), cons_mem_many_mul]
  simp

/-- One command among any number of commands of a wider kind is one of these. -/
theorem mem_many_mul_of_mem (h : ∀ c, kind c → kind' c)
    (hw : w ∈ many kind' * (one kind * (many kind' * L))) : w ∈ many kind' * L := by
  have hone : one kind ≤ many kind' := by
    refine le_trans ?_ (le_kstar (a := one kind'))
    rintro _ ⟨c, hc, rfl⟩
    exact ⟨c, h c hc, rfl⟩
  have hle : many kind' * (one kind * (many kind' * L)) ≤ many kind' * L := calc
    many kind' * (one kind * (many kind' * L))
      ≤ many kind' * (many kind' * (many kind' * L)) := by gcongr
    _ = many kind' * L := by simp only [many, ← mul_assoc, kstar_mul_kstar]
  exact hle hw

end Languages

/-! ## The words of a submission -/

/-- Opening a step. -/
def opens (step : WizardStep) : Command → Prop
  | .openStep s => step = s
  | _ => False

/-- Filling a field of the form with a value that is not blank. -/
def enters : Command → Prop
  | .enterField step f v => step = .form ∧ f.step = 0 ∧ Text.trim v ≠ ""
  | _ => False

/-- Selecting someone on the roster. -/
def selects (roster : List Recipient) : Command → Prop
  | .select r => r ∈ roster
  | _ => False

/-- What goes on in a form that has an entry. -/
def edits (c : Command) : Prop := opens .form c ∨ enters c

/-- What goes on at the choice of a recipient. -/
def browses (roster : List Recipient) (c : Command) : Prop := opens .recipients c ∨ selects roster c

/-- The whole words that end with a submission. -/
def journey (roster : List Recipient) : Language Command :=
  many (opens .form) * one enters * many edits * one (· = .dismissErrors) *
    (many (browses roster) * one (selects roster) * many (browses roster)) *
    one (· = .advance) * many (opens .recipients) * one (· = .submit)

/-- The whole words where there is nobody to select. -/
def opening : Language Command :=
  many (opens .form) * one enters * many edits * one (· = .dismissErrors) * many (opens .recipients)

/-- The whole words for a roster. -/
def course (roster : List Recipient) : Language Command :=
  if roster = [] then opening else journey roster

/-! ## What is left of a word -/

/-- From the form on, with `T` behind the dismissal. -/
def shownRest (T : Language Command) : Language Command := many edits * (one (· = .dismissErrors) * T)

/-- From the start, with `T` behind the dismissal. -/
def formRest (T : Language Command) : Language Command :=
  many (opens .form) * (one enters * shownRest T)

/-- From a confirmed recipient on. -/
def readyRest : Language Command := many (opens .recipients) * one (· = .submit)

/-- From a selected recipient on. -/
def chosenRest (roster : List Recipient) : Language Command :=
  many (browses roster) * (one (· = .advance) * readyRest)

/-- From the choice of a recipient on. -/
def choosingRest (roster : List Recipient) : Language Command :=
  many (browses roster) * (one (selects roster) * chosenRest roster)

/-- What is left of a word of `journey` in a phase. -/
def rest (roster : List Recipient) : Phase → Language Command
  | .form => formRest (choosingRest roster)
  | .errorsShown => shownRest (choosingRest roster)
  | .choosing none => choosingRest roster
  | .choosing (some _) => chosenRest roster
  | .ready _ => readyRest
  | .submitted => 1
  | .abandoned => 0

/-- What is left of a word of `opening` in a phase. -/
def openingRest : Phase → Language Command
  | .form => formRest (many (opens .recipients))
  | .errorsShown => shownRest (many (opens .recipients))
  | .choosing none => many (opens .recipients)
  | _ => 0

theorem journey_eq (roster : List Recipient) : journey roster = rest roster .form := by
  simp only [journey, rest, formRest, shownRest, choosingRest, chosenRest, readyRest, mul_assoc]

theorem opening_eq : opening = openingRest .form := by
  simp only [opening, openingRest, formRest, shownRest, mul_assoc]

section Rest
variable {roster : List Recipient} {T : Language Command} {c : Command} {w : List Command}

theorem cons_mem_shownRest :
    c :: w ∈ shownRest T ↔ (c = .dismissErrors ∧ w ∈ T) ∨ edits c ∧ w ∈ shownRest T := by
  simp [shownRest]

theorem cons_mem_formRest :
    c :: w ∈ formRest T ↔ (enters c ∧ w ∈ shownRest T) ∨ opens .form c ∧ w ∈ formRest T := by
  simp [formRest]

theorem cons_mem_readyRest :
    c :: w ∈ readyRest ↔ (c = .submit ∧ w = []) ∨ opens .recipients c ∧ w ∈ readyRest := by
  simp [readyRest]

theorem cons_mem_chosenRest : c :: w ∈ chosenRest roster ↔
    (c = .advance ∧ w ∈ readyRest) ∨ browses roster c ∧ w ∈ chosenRest roster := by
  simp [chosenRest]

/-- The first selection need not be told from the later ones: what may follow before any selection may
also follow behind one. -/
theorem cons_mem_choosingRest : c :: w ∈ choosingRest roster ↔
    (selects roster c ∧ w ∈ chosenRest roster) ∨ opens .recipients c ∧ w ∈ choosingRest roster := by
  have hle : w ∈ choosingRest roster → w ∈ chosenRest roster := mem_many_mul_of_mem fun _ => .inr
  have hcons : c :: w ∈ choosingRest roster ↔
      (selects roster c ∧ w ∈ chosenRest roster) ∨ browses roster c ∧ w ∈ choosingRest roster := by
    simp [choosingRest]
  rw [hcons]
  constructor
  · rintro (h | ⟨ho | hs, hw⟩)
    · exact .inl h
    · exact .inr ⟨ho, hw⟩
    · exact .inl ⟨hs, hle hw⟩
  · rintro (h | ⟨ho, hw⟩)
    · exact .inl h
    · exact .inr ⟨.inl ho, hw⟩

end Rest

/-! ## Remaining words follow the gate -/

/-- `L` gives every phase the words that lead from it to the goal without being abandoned. -/
structure LeadsTo (roster : List Recipient) (goal : Phase) (L : Phase → Language Command) : Prop where
  nil : ∀ p, [] ∈ L p ↔ p = goal
  cons : ∀ p c w, c :: w ∈ L p ↔ c ≠ .abandon ∧ ∃ q, Accepts roster p c q ∧ w ∈ L q

theorem rest_leadsTo (roster : List Recipient) : LeadsTo roster .submitted (rest roster) where
  nil p := by
    rcases p with _ | _ | (_ | _) | _ | _ | _ <;>
      simp [rest, formRest, shownRest, choosingRest, chosenRest, readyRest, Language.notMem_zero]
  cons p c w := by
    rcases p with _ | _ | (_ | _) | _ | _ | _ <;> cases c <;>
      simp [rest, cons_mem_formRest, cons_mem_shownRest, cons_mem_choosingRest, cons_mem_chosenRest,
        cons_mem_readyRest, Language.notMem_zero, accepts_iff, Phase.activeStep?, Phase.isClosed, opens,
        enters, selects, edits, browses]

theorem openingRest_leadsTo : LeadsTo [] (.choosing none) openingRest where
  nil p := by
    rcases p with _ | _ | (_ | _) | _ | _ | _ <;>
      simp [openingRest, formRest, shownRest, Language.notMem_zero]
  cons p c w := by
    rcases p with _ | _ | (_ | _) | _ | _ | _ <;> cases c <;>
      simp [openingRest, cons_mem_formRest, cons_mem_shownRest, Language.notMem_zero, accepts_iff,
        Phase.activeStep?, Phase.isClosed, opens, enters, edits]

section LeadsTo
variable {roster : List Recipient} {goal : Phase} {L : Phase → Language Command} {g : Gate}
  {cs : List Command}

theorem LeadsTo.mem_iff (hL : LeadsTo g.roster goal L) :
    cs ∈ L g.phase ↔ .abandon ∉ cs ∧ ∃ m, g.run cs = .ok m ∧ m.phase = goal := by
  -- the gate moves on with the first command, so the induction is for every gate
  induction cs generalizing g with
  | nil => simp [hL.nil, run]
  | cons c cs ih =>
    rw [hL.cons, List.mem_cons, not_or]
    constructor
    · rintro ⟨hc, q, hq, hw⟩
      obtain ⟨m, hm, hp, hr⟩ : ∃ m, g.apply c = .ok m ∧ m.phase = q ∧ m.roster = g.roster :=
        ⟨_, apply_eq_ok_iff.2 ⟨q, hq, rfl⟩, rfl, rfl⟩
      obtain ⟨ha, n, hn, hgoal⟩ := (ih (hr ▸ hL)).1 (hp ▸ hw)
      exact ⟨⟨Ne.symm hc, ha⟩, n, run_cons_eq_ok_iff.2 ⟨m, hm, hn⟩, hgoal⟩
    · rintro ⟨⟨hc, ha⟩, n, hn, hgoal⟩
      obtain ⟨m, hm, hn⟩ := run_cons_eq_ok_iff.1 hn
      obtain ⟨q, hq, rfl⟩ := apply_eq_ok_iff.1 hm
      exact ⟨Ne.symm hc, q, hq, (ih (g := ⟨q, _, _, _⟩) hL).2 ⟨ha, n, hn, hgoal⟩⟩

/-- Where a word is left in every phase that is reached, the accepted commands are the beginnings of
words. -/
theorem LeadsTo.mem_begun_iff (hL : LeadsTo g.roster goal L)
    (hleft : ∀ m, g.run cs = .ok m → .abandon ∉ cs → ∃ w, w ∈ L m.phase) :
    cs ∈ begun (L g.phase) ↔ .abandon ∉ cs ∧ ∃ m, g.run cs = .ok m := by
  constructor
  · rintro ⟨_, hw, ds, rfl⟩
    obtain ⟨ha, n, hn, -⟩ := hL.mem_iff.1 hw
    obtain ⟨m, hm, -⟩ := run_append_eq_ok_iff.1 hn
    exact ⟨fun h => ha (List.mem_append_left _ h), m, hm⟩
  · rintro ⟨ha, m, hm⟩
    obtain ⟨w, hw⟩ := hleft m hm ha
    obtain ⟨ha', n, hn, hgoal⟩ := (roster_of_run hm ▸ hL).mem_iff.1 hw
    refine ⟨cs ++ w, hL.mem_iff.2 ⟨?_, n, run_append_eq_ok_iff.2 ⟨m, hm, hn⟩, hgoal⟩, w, rfl⟩
    exact fun h => (List.mem_append.1 h).elim ha ha'

end LeadsTo

/-! ## Every phase has a word left -/

section Left
variable {roster : List Recipient} {cs : List Command}

theorem exists_mem_formRest {T : Language Command} (hT : ∃ w, w ∈ T) : ∃ w, w ∈ formRest T := by
  obtain ⟨w, hw⟩ := hT
  have hshown : .dismissErrors :: w ∈ shownRest T := cons_mem_shownRest.2 (.inl ⟨rfl, hw⟩)
  have henters : enters (.enterField .form ⟨0, 0, 0, 0⟩ "x") := ⟨rfl, rfl, by decide⟩
  exact ⟨_, cons_mem_formRest.2 (.inl ⟨henters, hshown⟩)⟩

theorem exists_mem_shownRest {T : Language Command} (hT : ∃ w, w ∈ T) : ∃ w, w ∈ shownRest T := by
  obtain ⟨w, hw⟩ := hT
  exact ⟨_, cons_mem_shownRest.2 (.inl ⟨rfl, hw⟩)⟩

theorem exists_mem_rest {r : Recipient} (hr : r ∈ roster) {p : Phase} (hp : p ≠ .abandoned) :
    ∃ w, w ∈ rest roster p := by
  have hready : [.submit] ∈ readyRest := cons_mem_readyRest.2 (.inl ⟨rfl, rfl⟩)
  have hchosen : [.advance, .submit] ∈ chosenRest roster := cons_mem_chosenRest.2 (.inl ⟨rfl, hready⟩)
  have hchoosing : [.select r, .advance, .submit] ∈ choosingRest roster :=
    cons_mem_choosingRest.2 (.inl ⟨hr, hchosen⟩)
  match p with
  | .form => exact exists_mem_formRest ⟨_, hchoosing⟩
  | .errorsShown => exact exists_mem_shownRest ⟨_, hchoosing⟩
  | .choosing none => exact ⟨_, hchoosing⟩
  | .choosing (some _) => exact ⟨_, hchosen⟩
  | .ready _ => exact ⟨_, hready⟩
  | .submitted => exact ⟨[], rfl⟩
  | .abandoned => exact absurd rfl hp

/-- The phases of a gate with nobody to select. -/
def opened : List Phase := [.form, .errorsShown, .choosing none]

theorem exists_mem_openingRest {p : Phase} (hp : p ∈ opened) : ∃ w, w ∈ openingRest p := by
  have hbrowsing : [] ∈ many (opens .recipients) := nil_mem_many
  simp only [opened, List.mem_cons, List.not_mem_nil, or_false] at hp
  rcases hp with rfl | rfl | rfl
  · exact exists_mem_formRest ⟨_, hbrowsing⟩
  · exact exists_mem_shownRest ⟨_, hbrowsing⟩
  · exact ⟨_, hbrowsing⟩

theorem mem_opened_of_accepts {p q : Phase} {c : Command} (h : Accepts [] p c q) (hc : c ≠ .abandon)
    (hp : p ∈ opened) : q ∈ opened := by
  cases h with
  | select known => cases known
  | abandon => exact absurd rfl hc
  | _ => simp_all [opened]

/-- What is accepted without being abandoned is what begins a word. -/
theorem mem_begun_course_iff :
    cs ∈ begun (course roster) ↔ .abandon ∉ cs ∧ ∃ m, (Gate.new roster).run cs = .ok m := by
  cases roster with
  | nil =>
    rw [course, if_pos rfl, opening_eq]
    refine openingRest_leadsTo.mem_begun_iff (g := Gate.new []) fun m hm ha => ?_
    refine exists_mem_openingRest (phase_of_run (fun c hc p q h => ?_) hm List.mem_cons_self)
    exact mem_opened_of_accepts h fun hca => ha (hca ▸ hc)
  | cons r rs =>
    rw [course, if_neg (by simp), journey_eq]
    refine (rest_leadsTo (r :: rs)).mem_begun_iff (g := Gate.new (r :: rs)) fun m hm ha => ?_
    refine exists_mem_rest List.mem_cons_self (phase_of_run (P := (· ≠ .abandoned)) ?_ hm (by simp [new]))
    rintro c hc p q h - rfl
    cases h with
    | openStep active => cases active
    | abandon => exact ha hc

end Left

/-! ## Accepted commands -/

section Accepted
variable {roster : List Recipient} {g m : Gate} {cs : List Command}

/-- A gate that accepts a command behind others has not been closed by them. -/
theorem notMem_of_run_append {c : Command} (h : g.run (cs ++ [c]) = .ok m) :
    .submit ∉ cs ∧ .abandon ∉ cs := by
  have hnone : ∀ d ∈ cs, d = .submit ∨ d = .abandon → False := by
    intro d hd hlast
    obtain ⟨as, bs, rfl⟩ := List.append_of_mem hd
    rw [List.append_assoc, List.cons_append] at h
    exact absurd (eq_nil_of_run_append h hlast) (by simp)
  exact ⟨fun hs => hnone _ hs (.inl rfl), fun ha => hnone _ ha (.inr rfl)⟩

theorem mem_orAbandoned_iff :
    cs ∈ orAbandoned (begun (course roster)) ↔ ∃ m, (Gate.new roster).run cs = .ok m := by
  constructor
  · rintro (h | ⟨us, h, hsubmit, rfl⟩)
    · exact (mem_begun_course_iff.1 h).2
    · obtain ⟨ha, m, hm⟩ := mem_begun_course_iff.1 h
      -- only a submission or being abandoned closes a gate, and `us` has neither
      have hopen : m.phase.isClosed = false := by
        refine phase_of_run (P := (·.isClosed = false)) (fun c hc p q hq hp => ?_) hm rfl
        cases hq with
        | openStep => exact hp
        | submit => exact absurd hc hsubmit
        | abandon => exact absurd hc ha
        | _ => rfl
      obtain ⟨n, hn⟩ : ∃ n, m.apply .abandon = .ok n := ⟨_, apply_eq_ok_iff.2 ⟨_, .abandon hopen, rfl⟩⟩
      exact ⟨n, run_append_eq_ok_iff.2 ⟨m, hm, run_cons_eq_ok_iff.2 ⟨n, hn, rfl⟩⟩⟩
  · rintro ⟨m, hm⟩
    by_cases ha : .abandon ∈ cs
    -- the gate is closed behind `abandon`, so it is the last command
    · obtain ⟨us, vs, rfl⟩ := List.append_of_mem ha
      obtain rfl := eq_nil_of_run_append hm (.inr rfl)
      obtain ⟨hsubmit, habandon⟩ := notMem_of_run_append hm
      obtain ⟨n, hn, -⟩ := run_append_eq_ok_iff.1 hm
      exact .inr ⟨us, mem_begun_course_iff.2 ⟨habandon, n, hn⟩, hsubmit, rfl⟩
    · exact .inl (mem_begun_course_iff.2 ⟨ha, m, hm⟩)

theorem exists_of_mem_many_one {kind kind' : Command → Prop} {L : Language Command} {w : List Command}
    (h : w ∈ many kind * (one kind' * L)) : ∃ c, kind' c ∧ ∃ u ∈ L, c :: u <+ w := by
  obtain ⟨_, -, _, ⟨_, ⟨c, hc, rfl⟩, u, hu, rfl⟩, rfl⟩ := h
  exact ⟨c, hc, u, hu, List.sublist_append_right _ _⟩

/-- A word of `journey` holds an entry, a dismissal, a selection, the confirmation and the submission,
in this order. -/
theorem exists_sublist_of_mem_journey {w : List Command} (h : w ∈ journey roster) :
    ∃ f v r, enters (.enterField .form f v) ∧ r ∈ roster ∧
      [.enterField .form f v, .dismissErrors, .select r, .advance, .submit] <+ w := by
  rw [journey_eq] at h
  obtain ⟨entry, hentry, w₁, h₁, hs₁⟩ := exists_of_mem_many_one h
  obtain ⟨_, rfl, w₂, h₂, hs₂⟩ := exists_of_mem_many_one h₁
  obtain ⟨selection, hselection, w₃, h₃, hs₃⟩ := exists_of_mem_many_one h₂
  obtain ⟨_, rfl, w₄, h₄, hs₄⟩ := exists_of_mem_many_one h₃
  obtain ⟨_, rfl, w₅, -, hs₅⟩ : ∃ c, c = .submit ∧ ∃ u ∈ (1 : Language Command), c :: u <+ w₄ :=
    exists_of_mem_many_one (by rwa [mul_one])
  have hsub : [entry, .dismissErrors, selection, .advance, .submit] <+ w := by
    refine .trans (.cons_cons _ (.trans (.cons_cons _ ?_) hs₂)) hs₁
    refine .trans (.cons_cons _ (.trans (.cons_cons _ ?_) hs₄)) hs₃
    exact .trans (.cons_cons _ (List.nil_sublist _)) hs₅
  cases entry with
  | enterField step f v =>
    cases selection with
    | select r =>
      obtain ⟨rfl, hf⟩ := hentry
      exact ⟨f, v, r, ⟨rfl, hf⟩, hselection, hsub⟩
    | _ => cases hselection
  | _ => cases hentry

theorem mem_journey_of_submit_mem (h : (Gate.new roster).run cs = .ok m) (hs : .submit ∈ cs) :
    cs ∈ journey roster := by
  obtain ⟨us, vs, rfl⟩ := List.append_of_mem hs
  obtain rfl := eq_nil_of_run_append h (.inl rfl)
  have ha := (notMem_of_run_append h).2
  rw [journey_eq]
  refine (rest_leadsTo roster).mem_iff (g := Gate.new roster) |>.2 ⟨by simpa using ha, m, h, ?_⟩
  obtain ⟨n, -, hn⟩ := run_append_eq_ok_iff.1 h
  obtain ⟨k, hk, hn⟩ := run_cons_eq_ok_iff.1 hn
  obtain ⟨q, hq, rfl⟩ := apply_eq_ok_iff.1 hk
  cases hn
  exact (accepts_iff.1 hq).2

end Accepted

/-- A fresh gate accepts commands one after the other exactly as far as they follow the course of a
submission: they begin a word, or begin one without submitting and end with being abandoned. A
submission has an entry, a dismissal, a selection from the roster and its confirmation before it,
and behind a submission or being abandoned there is nothing. -/
theorem run_new_iff_mem_course (roster : List Recipient) (cs : List Command) :
    ((∃ g, (Gate.new roster).run cs = .ok g) ↔ cs ∈ orAbandoned (begun (course roster))) ∧
      ∀ g, (Gate.new roster).run cs = .ok g →
        (.submit ∈ cs → ∃ f v r, enters (.enterField .form f v) ∧ r ∈ roster ∧
          [.enterField .form f v, .dismissErrors, .select r, .advance, .submit] <+ cs) ∧
        ∀ us c vs, cs = us ++ c :: vs → c = .submit ∨ c = .abandon → vs = [] := by
  refine ⟨mem_orAbandoned_iff.symm, fun g hg => ⟨fun hs => ?_, ?_⟩⟩
  · exact exists_sublist_of_mem_journey (mem_journey_of_submit_mem hg hs)
  · rintro us c vs rfl hc
    exact eq_nil_of_run_append hg hc

/-- With nobody on the roster no word ends with a submission, yet the form can be opened. -/
theorem journey_nobody_opens_form :
    ¬((∃ g, (Gate.new []).run [.openStep .form] = .ok g) ↔
      [.openStep .form] ∈ orAbandoned (begun (journey []))) := by
  intro h
  obtain ⟨w, hw⟩ : ∃ w, w ∈ journey [] := by
    rcases h.1 ⟨_, rfl⟩ with ⟨w, hw, -⟩ | ⟨_, ⟨w, hw, -⟩, -⟩ <;> exact ⟨w, hw⟩
  obtain ⟨-, -, r, -, hr, -⟩ := exists_sublist_of_mem_journey hw
  cases hr

end Conformance.Gate
