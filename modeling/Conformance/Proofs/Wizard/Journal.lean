import Mathlib.Data.List.Chain
import Mathlib.Data.List.Forall2
import Conformance.Proofs.Wizard.Session
/-!
# The journal of a gate

A journal is a trace: its records lead from the form, one behind the other, to the phase the gate is in.
A record does not keep the value of an entry, and it need not: gates that were given other values, none of
them blank, differ in nothing but these values (`SameCourse`). So the recorded operations, carried out once
more on a fresh gate, are all accepted and lead to the same phase, the same journal and the same fields.
-/

namespace Conformance.Gate

variable {roster : List Recipient} {g g' m : Gate} {c d : Command} {cs ds : List Command} {p q : Phase}

/-! ## The way of a gate -/

/-- The journal leads from the form to the phase of the gate. -/
structure Traced (g : Gate) : Prop where
  first : ∀ t, g.journal.head? = some t → t.source = .form
  chained : g.journal.IsChain fun t u => t.target = u.source
  last : ∀ t, g.journal.getLast? = some t → t.target = g.phase.name
  form_of_empty : g.journal = [] → g.phase = .form

theorem traced_new (roster : List Recipient) : (new roster).Traced where
  first _ h := by cases h
  chained := .nil
  last _ h := by cases h
  form_of_empty _ := rfl

theorem Traced.apply (hg : g.Traced) (h : g.apply c = .ok g') : g'.Traced := by
  obtain ⟨q, -, rfl⟩ := apply_eq_ok_iff.1 h
  constructor
  case first =>
    intro t ht
    cases hjournal : g.journal with
    | nil =>
      rw [hjournal] at ht
      obtain rfl := Option.some.inj ht
      exact congrArg Phase.name (hg.form_of_empty hjournal)
    | cons u us =>
      rw [hjournal] at ht
      exact hg.first t (by rw [hjournal]; exact ht)
  case chained =>
    refine List.isChain_append.2 ⟨hg.chained, .singleton _, fun t ht u hu => ?_⟩
    obtain rfl := Option.some.inj hu
    exact hg.last t ht
  case last =>
    intro t ht
    rw [List.getLast?_concat] at ht
    obtain rfl := Option.some.inj ht
    rfl
  case form_of_empty =>
    intro hnil
    simp at hnil

/-- An attempt leaves a gate as it was, or is an accepted command. -/
theorem attempt_cases (g : Gate) (c : Command) :
    (g.attempt c = g ∧ ∀ q, ¬ Accepts g.roster g.phase c q) ∨ g.apply c = .ok (g.attempt c) := by
  cases h : g.apply c with
  | ok g' => exact .inr (by rw [attempt_of_apply h])
  | error r =>
    refine .inl ⟨attempt_of_error h, fun q hq => ?_⟩
    rw [apply_eq_ok_iff.2 ⟨q, hq, rfl⟩] at h
    cases h

theorem Traced.attempt (hg : g.Traced) (c : Command) : (g.attempt c).Traced := by
  rcases attempt_cases g c with ⟨h, -⟩ | h
  · rwa [h]
  · exact hg.apply h

theorem Traced.foldl_attempt (hg : g.Traced) (cs : List Command) : (cs.foldl Gate.attempt g).Traced := by
  induction cs generalizing g with
  | nil => exact hg
  | cons c cs ih => exact ih (hg.attempt c)

/-! ## Gates with other values -/

/-- Two commands that differ at most in the value of an entry, which is blank in both or in neither. -/
inductive Alike : Command → Command → Prop
  | same (c : Command) : Alike c c
  | entry {step : WizardStep} {f : FieldId} {v w : String} (blank : Text.trim v = "" ↔ Text.trim w = "") :
    Alike (.enterField step f v) (.enterField step f w)

/-- Two gates that differ at most in the values that were entered. -/
structure SameCourse (g m : Gate) : Prop where
  phase : m.phase = g.phase
  roster : m.roster = g.roster
  journal : m.journal = g.journal
  /-- the same fields have been filled -/
  fields : ∀ f, (m.field? f).isSome = (g.field? f).isSome

theorem SameCourse.refl (g : Gate) : SameCourse g g := ⟨rfl, rfl, rfl, fun _ => rfl⟩

theorem Alike.operation_eq (h : Alike c d) : d.operation = c.operation := by
  cases h <;> rfl

theorem Alike.accepts_iff (h : Alike c d) : Accepts roster p d q ↔ Accepts roster p c q := by
  cases h with
  | same => rfl
  | entry blank => simp only [Gate.accepts_iff, ne_eq, blank]

theorem isSome_field?_fieldsAfter (g : Gate) (c : Command) (f : FieldId) :
    ((g.fieldsAfter c).get? f).isSome = ((c.entered? f).isSome || (g.field? f).isSome) := by
  rw [get?_fieldsAfter, Option.isSome_or, field?]

theorem Alike.isSome_entered? (h : Alike c d) (f : FieldId) :
    (d.entered? f).isSome = (c.entered? f).isSome := by
  cases h with
  | same => rfl
  | @entry _ k _ _ => by_cases hk : k = f <;> simp [Command.entered?, hk]

/-- What one gate accepts the other accepts, and they stay on the same course. -/
theorem SameCourse.apply (hm : SameCourse g m) (hcd : Alike c d) (h : g.apply c = .ok g') :
    ∃ m', m.apply d = .ok m' ∧ SameCourse g' m' := by
  obtain ⟨q, hq, rfl⟩ := apply_eq_ok_iff.1 h
  refine ⟨_, apply_eq_ok_iff.2 ⟨q, ?_, rfl⟩, ?_⟩
  · rw [hm.roster, hm.phase]
    exact hcd.accepts_iff.2 hq
  · constructor
    case phase => rfl
    case roster => exact hm.roster
    case journal =>
      simp only
      rw [hm.journal, hm.phase, hcd.operation_eq]
    case fields =>
      intro f
      simp only [field?]
      rw [isSome_field?_fieldsAfter, isSome_field?_fieldsAfter, hcd.isSome_entered?, hm.fields]

theorem SameCourse.attempt (hm : SameCourse g m) (hcd : Alike c d) :
    SameCourse (g.attempt c) (m.attempt d) := by
  -- acceptance looks at the phase and the roster alone, so one gate accepts only with the other
  rcases attempt_cases g c with ⟨hg, hnone⟩ | hg
  · rcases attempt_cases m d with ⟨hd, -⟩ | hd
    · rwa [hg, hd]
    · obtain ⟨q, hq, -⟩ := apply_eq_ok_iff.1 hd
      rw [hm.roster, hm.phase] at hq
      exact absurd (hcd.accepts_iff.1 hq) (hnone q)
  · obtain ⟨m', hm', hcourse⟩ := hm.apply hcd hg
    rwa [attempt_of_apply hm']

theorem SameCourse.foldl_attempt (hm : SameCourse g m) (h : List.Forall₂ Alike cs ds) :
    SameCourse (cs.foldl Gate.attempt g) (ds.foldl Gate.attempt m) := by
  induction h generalizing g m with
  | nil => exact hm
  | cons hcd _ ih => exact ih (hm.attempt hcd)

theorem SameCourse.run (hm : SameCourse g m) (h : List.Forall₂ Alike cs ds) (hrun : g.run cs = .ok g') :
    ∃ m', m.run ds = .ok m' ∧ SameCourse g' m' := by
  induction h generalizing g m with
  | nil =>
    cases hrun
    exact ⟨m, rfl, hm⟩
  | cons hcd _ ih =>
    obtain ⟨g₁, hg₁, hrun⟩ := run_cons_eq_ok_iff.1 hrun
    obtain ⟨m₁, hm₁, hcourse⟩ := hm.apply hcd hg₁
    obtain ⟨m', hm', hcourse'⟩ := ih hcourse hrun
    exact ⟨m', run_cons_eq_ok_iff.2 ⟨m₁, hm₁, hm'⟩, hcourse'⟩

/-! ## Replay -/

/-- A command that carries out a recorded operation. An entry is made in the form, with any value that is
not blank. -/
def CarriesOut (t : Transition) (c : Command) : Prop :=
  c.operation = t.operation ∧ ∀ step f v, c = .enterField step f v → step = .form ∧ Text.trim v ≠ ""

/-- Two commands that carry out the same record are alike. -/
theorem CarriesOut.alike {t : Transition} (hc : CarriesOut t c) (hd : CarriesOut t d) : Alike c d := by
  have hop : d.operation = c.operation := hd.1.trans hc.1.symm
  cases c with
  | enterField step f v =>
    cases d with
    | enterField step' f' w =>
      obtain ⟨rfl, hv⟩ := hc.2 _ _ _ rfl
      obtain ⟨rfl, hw⟩ := hd.2 _ _ _ rfl
      cases hop
      exact .entry ⟨fun h => absurd h hv, fun h => absurd h hw⟩
    | _ => cases hop
  | _ =>
    cases d <;> cases hop
    exact .same _

/-- Two lists of commands that carry out the same journal are alike. -/
theorem alike_of_carriesOut {ts : List Transition} (hcs : List.Forall₂ CarriesOut ts cs)
    (hds : List.Forall₂ CarriesOut ts ds) : List.Forall₂ Alike cs ds := by
  induction hcs generalizing ds with
  | nil =>
    cases hds
    exact .nil
  | cons hc _ ih =>
    cases hds with
    | cons hd hds => exact .cons (hc.alike hd) (ih hds)

theorem carriesOut_of_accepts (h : Accepts roster p c q) (source target : PhaseName) :
    CarriesOut ⟨source, target, c.operation⟩ c := by
  refine ⟨rfl, ?_⟩
  rintro step f v rfl
  obtain ⟨⟨hstep, -, hv⟩, -⟩ := accepts_iff.1 h
  exact ⟨hstep, hv⟩

/-- The accepted commands of a session alone make its gate, and they are what its journal records. -/
theorem run_accepted (roster : List Recipient) (cs : List Command) :
    let s := (Session.start roster).run cs
    (new roster).run s.accepted = .ok s.gate ∧ List.Forall₂ CarriesOut s.gate.journal s.accepted := by
  refine Session.run_induction (P := fun s => (new roster).run s.accepted = .ok s.gate ∧
    List.Forall₂ CarriesOut s.gate.journal s.accepted) ?_ ⟨rfl, .nil⟩ cs
  rintro s c ⟨hrun, hjournal⟩
  rcases Session.offer_cases s c with h | ⟨q, hq, h⟩
  · rw [h]
    exact ⟨hrun, hjournal⟩
  · rw [h]
    have happly := apply_eq_ok_iff.2 ⟨q, hq, rfl⟩
    refine ⟨run_append_eq_ok_iff.2 ⟨s.gate, hrun, run_cons_eq_ok_iff.2 ⟨_, happly, rfl⟩⟩, ?_⟩
    exact List.rel_append hjournal (.cons (carriesOut_of_accepts hq _ _) .nil)

/-- The journal of every gate that was reached, whatever was accepted and refused on the way, leads from
the form to its phase. Whoever carries out the recorded operations on a fresh gate, with any values that are
not blank, is refused nothing and comes to the same phase, the same journal and the same fields. And the
gate owes nothing to the commands that were refused, nor its phase and journal to the values entered. -/
theorem journal_faithful (roster : List Recipient) (cs : List Command) :
    let g := cs.foldl attempt (new roster)
    let accepted := ((Session.start roster).run cs).accepted
    (∀ t, g.journal.head? = some t → t.source = .form) ∧
    g.journal.IsChain (fun t u => t.target = u.source) ∧
    (∀ t, g.journal.getLast? = some t → t.target = g.phase.name) ∧
    (g.journal = [] → g.phase = .form) ∧
    (∀ ds, List.Forall₂ CarriesOut g.journal ds → ∃ m, (new roster).run ds = .ok m ∧
      m.phase = g.phase ∧ m.journal = g.journal ∧ ∀ f, (m.field? f).isSome = (g.field? f).isSome) ∧
    ((new roster).run accepted = .ok g ∧ List.Forall₂ CarriesOut g.journal accepted) ∧
    ∀ ds, List.Forall₂ Alike cs ds → (ds.foldl attempt (new roster)).phase = g.phase ∧
      (ds.foldl attempt (new roster)).journal = g.journal := by
  intro g accepted
  -- the accepted commands carry out the journal, so whatever else does so is alike
  have hg : g.Traced := (traced_new roster).foldl_attempt cs
  obtain ⟨hrun, hjournal⟩ := run_accepted roster cs
  rw [Session.gate_run] at hrun hjournal
  refine ⟨hg.first, hg.chained, hg.last, hg.form_of_empty, fun ds hds => ?_, ⟨hrun, hjournal⟩,
    fun ds hds => ?_⟩
  · obtain ⟨m, hm, hcourse⟩ := (SameCourse.refl (new roster)).run (alike_of_carriesOut hjournal hds) hrun
    exact ⟨m, hm, hcourse.phase, hcourse.journal, hcourse.fields⟩
  · have hcourse := (SameCourse.refl (new roster)).foldl_attempt hds
    exact ⟨hcourse.phase, hcourse.journal⟩

end Conformance.Gate
