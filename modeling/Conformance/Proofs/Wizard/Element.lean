import Conformance.Proofs.Config.Rules
import Conformance.Proofs.Wizard.Replay
/-!
# Ids and what they name

The id of a field is four numbers of 32 bits in plain decimal, each in its place between fixed words. A text of
that shape falls into its words and numbers again, whatever the numbers are. So no two choices of numbers spell one
text, and a text whose numbers do not fit into 32 bits names no field at all.

An id names an element in one of three ways: it is that of an element that stands alone, that of a recipient,
or that of a field. No id does so in two of them, and an element has no id but its text. So reading an id and
writing an element are inverse to one another, and an id that is none of the three is reported as it stands.
-/

/-! ## Fields -/

namespace Conformance.FieldId

variable {s : String} {f : FieldId} {a b c d : Nat}

/-- The numbers of an id can be told from its text. -/
theorem numbers_of_text (h : f.text = spelled a b c d) :
    f.step.toNat = a ∧ f.row.toNat = b ∧ f.column.toNat = c ∧ f.input.toNat = d := by
  have hpieces : Text.split '-' f.text.toList = Text.split '-' (spelled a b c d).toList := by rw [h]
  rw [text_eq_spelled, split_spelled, split_spelled] at hpieces
  simp only [List.cons.injEq, and_true, true_and] at hpieces
  obtain ⟨ha, hb, hc, hd⟩ := hpieces
  exact ⟨Decimal.digits_injective ha, Decimal.digits_injective hb, Decimal.digits_injective hc,
    Decimal.digits_injective hd⟩

/-- A text names a field exactly if it spells four numbers of 32 bits. Then it is the text of that field and the
field has these numbers, so that no other four spell it. Fields are the same exactly if their texts are, and any
four numbers of 32 bits are read back as they were written. -/
theorem parsing_inverts_spelling (s : String) :
    ((∃ f, parse? s = some f) ↔ ∃ a b c d, a < UInt32.size ∧ b < UInt32.size ∧ c < UInt32.size ∧
      d < UInt32.size ∧ s = spelled a b c d) ∧
    (∀ f, parse? s = some f → f.text = s ∧ ∀ a b c d, s = spelled a b c d →
      f.step.toNat = a ∧ f.row.toNat = b ∧ f.column.toNat = c ∧ f.input.toNat = d) ∧
    (∀ f g : FieldId, f = g ↔ f.text = g.text) ∧
    ∀ a b c d : UInt32, parse? (spelled a.toNat b.toNat c.toNat d.toNat) = some ⟨a, b, c, d⟩ := by
  have hback : ∀ a b c d : UInt32, parse? (spelled a.toNat b.toNat c.toNat d.toNat) = some ⟨a, b, c, d⟩ :=
    fun a b c d => parse?_eq_some_iff.2 (text_eq_spelled ⟨a, b, c, d⟩).symm
  refine ⟨⟨?_, ?_⟩, ?_, fun f g => ⟨congrArg text, text_injective⟩, hback⟩
  · rintro ⟨f, hf⟩
    refine ⟨_, _, _, _, f.step.toNat_lt, f.row.toNat_lt, f.column.toNat_lt, f.input.toNat_lt, ?_⟩
    rw [parse?_eq_some_iff.1 hf]
    exact text_eq_spelled f
  · rintro ⟨a, b, c, d, ha, hb, hc, hd, rfl⟩
    refine ⟨⟨.ofNat a, .ofNat b, .ofNat c, .ofNat d⟩, ?_⟩
    rw [← hback, UInt32.toNat_ofNat_of_lt' ha, UInt32.toNat_ofNat_of_lt' hb, UInt32.toNat_ofNat_of_lt' hc,
      UInt32.toNat_ofNat_of_lt' hd]
  · intro f hf
    obtain rfl := parse?_eq_some_iff.1 hf
    exact ⟨rfl, fun a b c d => numbers_of_text⟩

example : parse? "step-4294967295-field-0-1-input-2" = some ⟨4294967295, 0, 1, 2⟩ ∧
    parse? "step-4294967296-field-0-1-input-2" = none ∧ parse? "step-0-field-0-01-input-2" = none := by
  decide +kernel

end Conformance.FieldId

namespace Conformance

/-! ## Elements -/

namespace Element
variable {s : String} {e : Element}

/-- The ways in which a text names an element. -/
inductive Names : String → Element → Prop
  | fixed {e : Element} (mem : e ∈ Element.fixed) : Names e.text e
  | recipient {s : String} (form : IsReceiver s) : Names s (.recipient ⟨s⟩)
  | field (f : FieldId) : Names f.text (.field f)

theorem Names.text_eq (h : Names s e) : e.text = s := by
  cases h <;> rfl

/-! ## Three kinds of ids -/

theorem head?_text_of_mem_fixed (h : e ∈ fixed) : e.text.toList.head? ≠ some 'r' := by
  revert e
  decide

theorem head?_of_isReceiver (h : IsReceiver s) : s.toList.head? = some 'r' := by
  obtain ⟨digits, -, -, rfl⟩ := h
  simp

theorem head?_text_field (f : FieldId) : f.text.toList.head? = some 's' := by
  simp [FieldId.text]

theorem parse?_text_of_mem_fixed (h : e ∈ fixed) : FieldId.parse? e.text = none := by
  revert e
  decide

theorem find?_fixed_of_mem (h : e ∈ fixed) : (fixed.find? fun x => x.text == e.text) = some e := by
  revert e
  decide

/-- The id of a recipient names that recipient and no other element. -/
theorem parse?_of_isReceiver (h : IsReceiver s) : parse? s = some (.recipient ⟨s⟩) := by
  have hfixed : (fixed.find? fun e => e.text == s) = none := by
    rw [List.find?_eq_none]
    intro e he heq
    rw [beq_iff_eq] at heq
    exact head?_text_of_mem_fixed he (heq ▸ head?_of_isReceiver h)
  rw [parse?, hfixed]
  exact if_pos (isRecipientId_iff.2 h)

/-- The id of a field names that field and no other element. -/
theorem parse?_text_field (f : FieldId) : parse? f.text = some (.field f) := by
  have hfixed : (fixed.find? fun e => e.text == f.text) = none := by
    rw [List.find?_eq_none]
    intro e he heq
    rw [beq_iff_eq] at heq
    have hnone := parse?_text_of_mem_fixed he
    rw [heq, FieldId.parse?_text] at hnone
    cases hnone
  have hrecipient : ¬ isRecipientId f.text = true := by
    intro h
    have hhead := head?_of_isReceiver (isRecipientId_iff.1 h)
    rw [head?_text_field] at hhead
    cases hhead
  rw [parse?, hfixed]
  simp only [if_neg hrecipient, FieldId.parse?_text, Option.map_some]

/-- What is read from a text is what the text names. -/
theorem parse?_eq_some_iff : parse? s = some e ↔ Names s e := by
  constructor
  · intro h
    unfold parse? at h
    split at h
    · rename_i e' hfind
      cases h
      obtain rfl : e.text = s := by simpa using List.find?_some hfind
      exact .fixed (List.mem_of_find?_eq_some hfind)
    · split at h
      · rename_i hrecipient
        cases h
        exact .recipient (isRecipientId_iff.1 hrecipient)
      · obtain ⟨f, hf, rfl⟩ := Option.map_eq_some_iff.1 h
        obtain rfl := FieldId.parse?_eq_some_iff.1 hf
        exact .field f
  · intro h
    cases h with
    | fixed mem => rw [parse?, find?_fixed_of_mem mem]
    | recipient form => exact parse?_of_isReceiver form
    | field f => exact parse?_text_field f

/-- The ids of the elements that stand alone. -/
def fixedIds : List String := ["submissionForm", "step-0-link", "SubmissionErrors",
  "#SubmissionErrors span.err-link", "NextStepButton", "SubmitButton"]

/-- An id of an element that stands alone names one of these. -/
theorem parse?_of_mem_fixedIds (h : s ∈ fixedIds) : ∃ e ∈ fixed, parse? s = some e := by
  obtain ⟨e, he, rfl⟩ := List.mem_map.1 (show s ∈ fixed.map text from h)
  exact ⟨e, he, parse?_eq_some_iff.2 (.fixed he)⟩

theorem exists_parse?_iff : (∃ e, parse? s = some e) ↔ s ∈ fixedIds ∨ IsReceiver s ∨ ∃ f : FieldId, s = f.text := by
  constructor
  · rintro ⟨e, he⟩
    cases parse?_eq_some_iff.1 he with
    | fixed mem => exact .inl (List.mem_map_of_mem mem)
    | recipient form => exact .inr (.inl form)
    | field f => exact .inr (.inr ⟨f, rfl⟩)
  · rintro (h | h | ⟨f, rfl⟩)
    · obtain ⟨e, -, he⟩ := parse?_of_mem_fixedIds h
      exact ⟨e, he⟩
    · exact ⟨_, parse?_of_isReceiver h⟩
    · exact ⟨_, parse?_text_field f⟩

/-- An id that stands alone is no recipient's and no field's, for they name other elements. -/
theorem apart_of_mem_fixedIds (h : s ∈ fixedIds) : ¬ IsReceiver s ∧ ¬ ∃ f : FieldId, s = f.text := by
  obtain ⟨e, hmem, he⟩ := parse?_of_mem_fixedIds h
  refine ⟨fun hreceiver => ?_, ?_⟩
  · rw [parse?_of_isReceiver hreceiver] at he
    cases he
    simp [fixed] at hmem
  · rintro ⟨f, rfl⟩
    rw [parse?_text_field] at he
    cases he
    simp [fixed] at hmem

theorem not_isReceiver_text_field (f : FieldId) : ¬ IsReceiver f.text := by
  intro h
  have he := parse?_of_isReceiver h
  rw [parse?_text_field] at he
  cases he

end Element

/-! ## Ids that name nothing -/

/-- A step reports an unknown element exactly if its id names none, and then it reports that id. -/
theorem ScenarioStep.apply_eq_unknownElement_iff {step : ScenarioStep} {s : Surface} {id : String} :
    step.apply s = .error (.unknownElement id) ↔ Element.parse? step.element = none ∧ id = step.element := by
  constructor
  · intro h
    rcases step.holds_or_fails s with hholds | ⟨fault, hfails⟩
    · rw [hholds.apply_eq] at h
      cases h
    · rw [hfails.apply_eq, Except.error.injEq] at h
      subst h
      cases hfails with
      | unknown unknown => exact ⟨unknown, rfl⟩
  · rintro ⟨hunknown, rfl⟩
    exact (Fails.unknown hunknown).apply_eq

/-- An id names an element exactly if it is one of six, or that of a recipient, or that of a field, and it is
only one of these. What it names is written as that id again and read back from it, so no two ids name the
same element. An id that names nothing is reported as it stands, both where scenarios are checked and where
they are replayed. -/
theorem Element.reading_inverts_writing (s : String) :
    ((∃ e, parse? s = some e) ↔ s ∈ fixedIds ∨ IsReceiver s ∨ ∃ f : FieldId, s = f.text) ∧
    (s ∈ fixedIds → ¬ IsReceiver s ∧ ¬ ∃ f : FieldId, s = f.text) ∧
    (IsReceiver s → ¬ ∃ f : FieldId, s = f.text) ∧
    (∀ e, parse? s = some e →
      e.text = s ∧ parse? e.text = some e ∧ (∀ t, parse? t = some e → t = s) ∧
      (s ∈ fixedIds → e ∈ fixed) ∧ (IsReceiver s → e = .recipient ⟨s⟩) ∧ ∀ f : FieldId, s = f.text → e = .field f) ∧
    (∀ deed page id, (ScenarioStep.mk s deed).apply page = .error (.unknownElement id) ↔
      parse? s = none ∧ id = s) ∧
    (parse? s = none → ∀ index deed rest,
      stepsFault? index (⟨s, deed⟩ :: rest) = some (.unknownElement index s)) ∧
    (StepFault.unknownElement s).text = "unknown element " ++ s := by
  refine ⟨exists_parse?_iff, apart_of_mem_fixedIds, ?_, fun e he => ?_, fun deed page id => ?_,
    fun h index deed rest => ?_, rfl⟩
  · rintro h ⟨f, rfl⟩
    exact not_isReceiver_text_field f h
  · have hnames := parse?_eq_some_iff.1 he
    refine ⟨hnames.text_eq, hnames.text_eq ▸ he, fun t ht => ?_, fun h => ?_, fun h => ?_, ?_⟩
    · exact (parse?_eq_some_iff.1 ht).text_eq.symm.trans hnames.text_eq
    · obtain ⟨e', hmem, he'⟩ := parse?_of_mem_fixedIds h
      rw [he] at he'
      exact Option.some.inj he' ▸ hmem
    · exact Option.some.inj (he.symm.trans (parse?_of_isReceiver h))
    · rintro f rfl
      exact Option.some.inj (he.symm.trans (parse?_text_field f))
  · exact ScenarioStep.apply_eq_unknownElement_iff
  · rw [stepsFault?, h]
    rfl

end Conformance
