import Mathlib.Data.List.Basic
import Conformance.Proofs.Wizard.Acceptance
/-!
# Sessions with a gate

A session tries any commands in any order and keeps what came of it: the gate, the commands that were
accepted, and the receipts that were handed over. `Sound` is what every session keeps true, the gate
being exactly what the accepted commands made of it.
-/

namespace Conformance

/-! ## Sessions -/

/-- What came of the commands tried so far. -/
structure Session where
  gate : Gate
  /-- the accepted commands, oldest first -/
  accepted : List Command
  receipts : List Receipt
deriving DecidableEq, Repr

namespace Session

/-- A session with a fresh gate. -/
def start (roster : List Recipient) : Session := ⟨.new roster, [], []⟩

/-- Tries a command. The gate goes on as the command leaves it, accepted or refused. -/
def offer (s : Session) (c : Command) : Session :=
  match (Gate.carryOut c).run s.gate with
  | .ok receipt? g => ⟨g, s.accepted ++ [c], s.receipts ++ receipt?.toList⟩
  | .error _ g => { s with gate := g }

/-- Tries commands one after the other. -/
def run (s : Session) (cs : List Command) : Session := cs.foldl offer s

/-- What every offer keeps, a session keeps. -/
theorem run_induction {P : Session → Prop} (hoffer : ∀ s c, P s → P (s.offer c)) {s : Session} (hs : P s)
    (cs : List Command) : P (s.run cs) := by
  induction cs generalizing s with
  | nil => exact hs
  | cons c cs ih => exact ih (hoffer s c hs)

/-- The gate of a session is the gate on which every command was attempted. -/
theorem gate_run (s : Session) (cs : List Command) : (s.run cs).gate = cs.foldl Gate.attempt s.gate := by
  induction cs generalizing s with
  | nil => rfl
  | cons c cs ih =>
    have hgate : (s.offer c).gate = s.gate.attempt c := by
      unfold offer Gate.attempt Work.left
      cases (Gate.carryOut c).run s.gate <;> rfl
    exact (ih (s.offer c)).trans (by rw [hgate]; rfl)

/-- An offer leaves the session as it was, or adds an accepted command to it. -/
theorem offer_cases (s : Session) (c : Command) :
    s.offer c = s ∨ ∃ q, Gate.Accepts s.gate.roster s.gate.phase c q ∧
      s.offer c = ⟨⟨q, s.gate.roster, s.gate.fieldsAfter c,
          s.gate.journal ++ [⟨s.gate.phase.name, q.name, c.operation⟩]⟩,
        s.accepted ++ [c], s.receipts ++ if c = .submit then s.gate.receipt?.toList else []⟩ := by
  rw [offer, Gate.run_carryOut]
  cases h : s.gate.next c with
  | error r => exact .inl rfl
  | ok q =>
    refine .inr ⟨q, Gate.next_eq_ok_iff.1 h, ?_⟩
    by_cases hc : c = .submit <;> simp [hc]

end Session

/-! ## What the accepted commands say -/

/-- The recipient a command selects. -/
def Command.selected? : Command → Option Recipient
  | .select r => some r
  | _ => none

/-- The value a command enters into a field. -/
def Command.entered? (f : FieldId) : Command → Option String
  | .enterField _ k v => if k = f then some v else none
  | _ => none

/-- The recipient that is held in a phase. -/
def Phase.recipient? : Phase → Option Recipient
  | .choosing selected => selected
  | .ready r => some r
  | _ => none

namespace Session

/-- The recipient that was selected last. -/
def lastSelected (cs : List Command) : Option Recipient := (cs.filterMap Command.selected?).getLast?

/-- The value that was entered last into a field. -/
def lastEntered (cs : List Command) (f : FieldId) : Option String :=
  (cs.filterMap (Command.entered? f)).getLast?

section Last
variable {cs : List Command} {c : Command} {f : FieldId} {v : String}

theorem lastSelected_concat : lastSelected (cs ++ [c]) = c.selected?.or (lastSelected cs) := by
  cases h : c.selected? <;> simp [lastSelected, List.filterMap_append, h]

theorem lastEntered_concat : lastEntered (cs ++ [c]) f = (c.entered? f).or (lastEntered cs f) := by
  cases h : c.entered? f <;> simp [lastEntered, List.filterMap_append, h]

theorem entered?_eq_some_iff : c.entered? f = some v ↔ ∃ step, c = .enterField step f v := by
  cases c <;> simp [Command.entered?]

theorem mem_of_lastEntered (h : lastEntered cs f = some v) : ∃ step, .enterField step f v ∈ cs := by
  obtain ⟨c, hc, hv⟩ := List.mem_filterMap.1 (List.mem_of_getLast? h)
  obtain ⟨step, rfl⟩ := entered?_eq_some_iff.1 hv
  exact ⟨step, hc⟩

theorem lastEntered_ne_none {step : WizardStep} (h : .enterField step f v ∈ cs) : lastEntered cs f ≠ none := by
  have hv : v ∈ cs.filterMap (Command.entered? f) :=
    List.mem_filterMap.2 ⟨_, h, entered?_eq_some_iff.2 ⟨step, rfl⟩⟩
  intro hnone
  rw [lastEntered, List.getLast?_eq_none_iff] at hnone
  rw [hnone] at hv
  cases hv

end Last

end Session

/-! ## What one accepted command does -/

namespace Gate
variable {roster : List Recipient} {p q : Phase} {c : Command}

/-- A gate that stays open holds the recipient the command selects, or else the one it held. -/
theorem Accepts.recipient?_eq (h : Accepts roster p c q) (hopen : q.isClosed = false) :
    q.recipient? = c.selected?.or p.recipient? := by
  cases h with
  | submit | abandon => cases hopen
  -- a phase of the form holds nobody
  | enterField active => cases p <;> first | rfl | cases active
  | _ => rfl

/-- No command leads back to the form. -/
theorem Accepts.activeStep?_ne_form (h : Accepts roster p c q) (hp : p.activeStep? ≠ some .form) :
    q.activeStep? ≠ some .form := by
  cases h with
  | openStep => exact hp
  | enterField active => exact absurd active hp
  | _ => simp [Phase.activeStep?]

theorem get?_fieldsAfter (g : Gate) (c : Command) (f : FieldId) :
    (g.fieldsAfter c).get? f = (c.entered? f).or (g.fields.get? f) := by
  cases c with
  | enterField step k v =>
    rw [fieldsAfter, KeyMap.get?_set]
    simp only [Command.entered?]
    split <;> rfl
  | _ => rfl

theorem Accepts.fieldsAfter_eq {g : Gate} (h : Accepts roster g.phase c q)
    (hp : g.phase.activeStep? ≠ some .form) : g.fieldsAfter c = g.fields := by
  cases c with
  | enterField step f v => exact absurd (accepts_iff.1 h).2.1 hp
  | _ => rfl

end Gate

/-! ## Soundness -/

namespace Session

/-- The gate and the receipts of a session are what its accepted commands made of them. -/
structure Sound (roster : List Recipient) (s : Session) : Prop where
  roster_eq : s.gate.roster = roster
  selections : ∀ r, .select r ∈ s.accepted → r ∈ roster
  entries : ∀ step f v, .enterField step f v ∈ s.accepted → f.step = 0 ∧ Text.trim v ≠ ""
  /-- an open gate holds the recipient selected last -/
  recipient : s.gate.phase.isClosed = false → s.gate.phase.recipient? = lastSelected s.accepted
  /-- the values are those entered last -/
  fields : ∀ f, s.gate.fields.get? f = lastEntered s.accepted f
  /-- the form is left with an entry, unless the gate is abandoned -/
  filled : s.gate.phase ≠ .form → s.gate.phase ≠ .abandoned → s.gate.fields.entries ≠ []
  dismissed : .dismissErrors ∈ s.accepted → s.gate.phase.activeStep? ≠ some .form
  /-- there is one submission with its receipt, or neither -/
  submission : (s.gate.phase ≠ .submitted ∧ .submit ∉ s.accepted ∧ s.receipts = []) ∨
    (s.gate.phase = .submitted ∧ s.accepted.count .submit = 1 ∧
      ∃ r, lastSelected s.accepted = some r ∧ s.receipts = [⟨r, s.gate.fields.rekey FieldId.text⟩])

theorem sound_start (roster : List Recipient) : (start roster).Sound roster where
  roster_eq := rfl
  selections _ h := by cases h
  entries _ _ _ h := by cases h
  recipient _ := rfl
  fields _ := rfl
  filled h := absurd rfl h
  dismissed h := by cases h
  submission := .inl ⟨by simp [start, Gate.new], by simp [start], rfl⟩

theorem Sound.offer {roster : List Recipient} {s : Session} (hs : s.Sound roster) (c : Command) :
    (s.offer c).Sound roster := by
  rcases offer_cases s c with h | ⟨q, hq, h⟩
  · rwa [h]
  rw [h]
  obtain ⟨⟨p, rs, fs, journal⟩, accepted, receipts⟩ := s
  obtain rfl : rs = roster := hs.roster_eq
  have hrecipient := hs.recipient hq.isClosed_eq_false
  simp only at hq hrecipient
  constructor
  case roster_eq => rfl
  case selections =>
    intro r hr
    rcases List.mem_append.1 hr with hr | hr
    · exact hs.selections r hr
    · obtain rfl := List.mem_singleton.1 hr
      exact (Gate.accepts_iff.1 hq).2.1
  case entries =>
    intro step f v hv
    rcases List.mem_append.1 hv with hv | hv
    · exact hs.entries step f v hv
    · obtain rfl := List.mem_singleton.1 hv
      exact (Gate.accepts_iff.1 hq).1.2
  case recipient =>
    intro hopen
    rw [lastSelected_concat, ← hrecipient]
    exact hq.recipient?_eq hopen
  case fields =>
    intro f
    rw [lastEntered_concat, ← hs.fields f]
    exact Gate.get?_fieldsAfter _ c f
  case filled =>
    intro hform habandoned
    -- the form is left by an entry, and no later command takes a value away
    cases hq with
    | openStep => exact hs.filled hform habandoned
    | @enterField _ f v =>
      have hv : (fs.set f v).get? f = some v := by simp [KeyMap.get?_set]
      exact List.ne_nil_of_mem (KeyMap.mem_entries_iff.2 hv)
    | abandon => exact absurd rfl habandoned
    | _ => exact hs.filled (by simp) (by simp)
  case dismissed =>
    intro hd
    rcases List.mem_append.1 hd with hd | hd
    · exact hq.activeStep?_ne_form (hs.dismissed hd)
    · obtain rfl := List.mem_singleton.1 hd
      cases hq
      simp [Phase.activeStep?]
  case submission =>
    rcases hs.submission with ⟨hp, hn, hr⟩ | ⟨hp, -, -⟩
    · simp only at hp hn hr
      subst hr
      cases hq with
      | @submit r =>
        refine .inr ⟨rfl, ?_, r, ?_, rfl⟩
        · rw [List.count_append, List.count_eq_zero.2 hn, List.count_singleton_self]
        · rw [lastSelected_concat]
          exact hrecipient.symm
      | openStep => exact .inl ⟨hp, by simpa using hn, rfl⟩
      | _ => exact .inl ⟨by simp, by simpa using hn, rfl⟩
    -- a closed gate accepts nothing, so there is no second submission
    · obtain rfl : p = .submitted := hp
      exact absurd hq.isClosed_eq_false (by simp [Phase.isClosed])

theorem sound_run (roster : List Recipient) (cs : List Command) : ((start roster).run cs).Sound roster :=
  run_induction (fun _ c hs => hs.offer c) (sound_start roster) cs

/-! ## What follows for every session -/

section Sound
variable {roster : List Recipient} {s : Session}

theorem Sound.mem_roster (hs : s.Sound roster) {r : Recipient} (h : lastSelected s.accepted = some r) :
    r ∈ roster := by
  obtain ⟨c, hc, hr⟩ := List.mem_filterMap.1 (List.mem_of_getLast? h)
  cases c with
  | select r' => exact Option.some.inj hr ▸ hs.selections r' hc
  | _ => cases hr

theorem Sound.entry_of_mem (hs : s.Sound roster) {f : FieldId} {v : String}
    (h : (f, v) ∈ s.gate.fields.entries) : ∃ step, .enterField step f v ∈ s.accepted := by
  refine mem_of_lastEntered ?_
  rw [← hs.fields]
  exact KeyMap.mem_entries_iff.1 h

theorem Sound.entries_eq_nil_iff (hs : s.Sound roster) :
    s.gate.fields.entries = [] ↔ ∀ step f v, .enterField step f v ∉ s.accepted := by
  constructor
  · intro hnil step f v hv
    refine lastEntered_ne_none hv ?_
    rw [← hs.fields, KeyMap.get?, hnil]
    rfl
  · intro hnone
    refine List.eq_nil_iff_forall_not_mem.2 fun e he => ?_
    obtain ⟨step, hv⟩ := hs.entry_of_mem he
    exact hnone step _ _ hv

/-- Behind the dismissal no field is filled any more. -/
theorem fields_run_of_activeStep (hp : s.gate.phase.activeStep? ≠ some .form) (cs : List Command) :
    (s.run cs).gate.fields = s.gate.fields := by
  refine (run_induction (P := fun t => t.gate.phase.activeStep? ≠ some .form ∧
    t.gate.fields = s.gate.fields) (fun t c ht => ?_) ⟨hp, rfl⟩ cs).2
  rcases offer_cases t c with h | ⟨q, hq, h⟩
  · rwa [h]
  rw [h]
  exact ⟨hq.activeStep?_ne_form ht.1, (hq.fieldsAfter_eq ht.1).trans ht.2⟩

end Sound

/-- In every session, whatever is tried in whatever order: a held recipient is on the roster and the
last one that was accepted; the entered values are the last ones accepted for each field as they were
given, none is blank, and none changes behind the dismissal; there is at most one submission, and its
receipt names the recipient and holds every value under the text of its field. -/
theorem session_sound (roster : List Recipient) (cs ds : List Command) :
    let s := (start roster).run cs
    s.gate = cs.foldl Gate.attempt (.new roster) ∧
    (∀ r, s.gate.phase = .choosing (some r) ∨ s.gate.phase = .ready r →
      r ∈ roster ∧ lastSelected s.accepted = some r) ∧
    (∀ f, s.gate.field? f = lastEntered s.accepted f) ∧
    (∀ f v, (f, v) ∈ s.gate.fields.entries → f.step = 0 ∧ Text.trim v ≠ "") ∧
    (s.gate.fields.entries = [] ↔ ∀ step f v, .enterField step f v ∉ s.accepted) ∧
    (.dismissErrors ∈ s.accepted → (s.run ds).gate.fields = s.gate.fields) ∧
    s.accepted.count .submit ≤ 1 ∧ s.receipts.length = s.accepted.count .submit ∧
    ∀ receipt ∈ s.receipts, lastSelected s.accepted = some receipt.recipient ∧
      receipt.recipient ∈ roster ∧ receipt.fields.entries ≠ [] ∧
      receipt.fields.entries = s.gate.fields.entries.map (fun e => (e.1.text, e.2)) ∧
      ∀ f, receipt.fields.get? f.text = s.gate.field? f := by
  intro s
  have hs : s.Sound roster := sound_run roster cs
  refine ⟨gate_run _ cs, ?_, hs.fields, ?_, hs.entries_eq_nil_iff, ?_, ?_, ?_, ?_⟩
  · intro r hr
    have hlast : lastSelected s.accepted = some r := by
      rcases hr with hr | hr <;> rw [← hs.recipient (by rw [hr]; rfl), hr] <;> rfl
    exact ⟨hs.mem_roster hlast, hlast⟩
  · intro f v h
    obtain ⟨step, hv⟩ := hs.entry_of_mem h
    exact hs.entries step f v hv
  · intro hd
    exact fields_run_of_activeStep (hs.dismissed hd) ds
  · rcases hs.submission with ⟨-, hn, -⟩ | ⟨-, hcount, -⟩
    · exact (List.count_eq_zero.2 hn).trans_le (Nat.zero_le 1)
    · exact hcount.le
  · rcases hs.submission with ⟨-, hn, hr⟩ | ⟨-, hcount, r, -, hr⟩
    · rw [hr, List.count_eq_zero.2 hn]
      rfl
    · rw [hr, hcount]
      rfl
  · intro receipt hmem
    rcases hs.submission with ⟨-, -, hr⟩ | ⟨hp, -, r, hlast, hr⟩
    · rw [hr] at hmem
      cases hmem
    rw [hr, List.mem_singleton] at hmem
    subst hmem
    have hentries := KeyMap.entries_rekey FieldId.text (fun _ _ h => h) s.gate.fields
    refine ⟨hlast, hs.mem_roster hlast, ?_, hentries, fun f => ?_⟩
    · rw [hentries, ne_eq, List.map_eq_nil_iff]
      exact hs.filled (by simp [hp]) (by simp [hp])
    · exact KeyMap.get?_rekey FieldId.text (fun _ _ h => h) (fun _ _ => FieldId.text_injective) _ f

end Session

end Conformance
