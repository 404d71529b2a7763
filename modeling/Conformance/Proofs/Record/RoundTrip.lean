import Conformance.Proofs.Json.Reading
import Conformance.Record.Verdict
import Conformance.Record.Wizard
/-!
# Records that are written are read back

Every reader of a record gives back what the writer beside it was given. A record with several shapes is told
apart by its first member. The documents of records nest only so deep, and their numbers are 16-bit words and
the position of a failed step.
-/

namespace Conformance

/-! ## Fields -/

namespace Record
variable {α : Type} {read : Json → Option α} {write : α → Json}

@[simp] theorem natural?_nat (n : Nat) : natural? (Json.nat n) = some n := by
  simp [natural?, Json.nat, Json.integer?]

@[simp] theorem word16?_status (s : UInt16) : word16? (status s) = some s := by
  have h := s.toNat_lt
  have hword : 0 ≤ (s.toNat : Int) ∧ (s.toNat : Int) < 65536 := by omega
  rw [word16?, status, Json.nat, Json.integer?, Option.bind_some, Decimal.word16?, if_pos hword,
    Int.toNat_natCast, UInt16.ofNat_toNat]

-- ahead of `Option.bind_some`, which holds by unfolding and would have the bounds of numbers unfolded with it
@[simp high] theorem some_bind {β : Type} (a : α) (f : α → Option β) : (some a).bind f = f a := by
  simp only [Option.bind_some]

/-- A list is read back if each of its items is. -/
theorem list?_map (h : ∀ a, read (write a) = some a) (xs : List α) :
    list? read (.array (xs.map write)) = some xs := by
  rw [list?]
  induction xs with
  | nil => rfl
  | cons x xs ih => simp [List.mapM_cons, h, ih]

/-- What may be absent is read back if it is when present, and is then no `null`. -/
theorem nullable?_optional (h : ∀ a, read (write a) = some a) (hnull : ∀ a, write a ≠ .null)
    (o : Option α) : nullable? read (.optional write o) = some o := by
  cases o with
  | none => rfl
  | some a =>
    have hsome : nullable? read (write a) = (read (write a)).map some := by
      rw [nullable?]
      exact hnull a
    rw [Json.optional, hsome, h, Option.map_some]

end Record

/-! ## Matrix -/

@[simp] theorem Resource.ofJson?_toJson (r : Resource) : ofJson? r.toJson = some r := by
  simp [ofJson?, toJson, Record.fields?, Record.required?, Json.lookup, Json.string?]

@[simp] theorem Verb.ofJson?_toJson (v : Verb) : ofJson? v.toJson = some v := v.ofLabel?_label

@[simp] theorem ContentTypeRule.ofJson?_toJson (c : ContentTypeRule) : ofJson? c.toJson = some c := by
  cases c <;> simp [ofJson?, toJson, Record.fields?, Record.required?, Json.lookup, Json.string?]

@[simp] theorem Expectation.ofJson?_toJson (e : Expectation) : ofJson? e.toJson = some e := by
  simp [ofJson?, toJson, Record.fields?, Record.required?, Json.lookup]

@[simp] theorem PlannedCheck.ofJson?_toJson (c : PlannedCheck) : ofJson? c.toJson = some c := by
  simp [ofJson?, toJson, Record.fields?, Record.required?, Json.lookup]

/-! ## Verdicts -/

theorem Record.nullable?_string (o : Option String) :
    Record.nullable? Json.string? (.optional Json.string o) = some o :=
  @Record.nullable?_optional _ Json.string? Json.string (fun _ => rfl) (fun _ => nofun) o

theorem Record.nullable?_natural (o : Option Nat) :
    Record.nullable? Record.natural? (.optional Json.nat o) = some o :=
  Record.nullable?_optional Record.natural?_nat (fun _ => nofun) o

theorem Record.list?_string (xs : List String) : list? Json.string? (.array (xs.map Json.string)) = some xs :=
  @Record.list?_map _ Json.string? Json.string (fun _ => rfl) xs

theorem Record.nullable?_status (o : Option UInt16) :
    Record.nullable? Record.word16? (.optional Record.status o) = some o :=
  Record.nullable?_optional Record.word16?_status (fun _ => nofun) o

@[simp] theorem Violation.ofJson?_toJson (v : Violation) : ofJson? v.toJson = some v := by
  cases v <;> simp [ofJson?, toJson, Record.required?, Json.lookup, Json.string?, Record.nullable?_string]

@[simp] theorem Note.ofJson?_toJson (n : Note) : ofJson? n.toJson = some n := by
  cases n <;> simp [ofJson?, toJson, Record.required?, Json.lookup, Json.string?]

@[simp] theorem TransportFailure.ofJson?_toJson (f : TransportFailure) : ofJson? f.toJson = some f := by
  simp [ofJson?, toJson, Record.required?, Json.lookup, Json.string?, Kind.ofLabel?_label]

@[simp] theorem Outcome.ofJson?_toJson (o : Outcome) : ofJson? o.toJson = some o := by
  cases o <;> simp [ofJson?, toJson, Record.required?, Json.lookup, Json.string?, Record.list?_map]

@[simp] theorem Verdict.ofJson?_toJson (v : Verdict) : ofJson? v.toJson = some v := by
  simp [ofJson?, toJson, Record.required?, Json.lookup, Record.nullable?_status, Record.list?_map]

/-! ## Scenarios -/

@[simp] theorem PhaseName.ofJson?_toJson (p : PhaseName) : ofJson? p.toJson = some p := p.ofLabel?_label

@[simp] theorem WizardStep.ofJson?_toJson (s : WizardStep) : ofJson? s.toJson = some s := by cases s <;> rfl

@[simp] theorem Operation.ofJson?_toJson (o : Operation) : ofJson? o.toJson = some o := by
  cases o <;>
    simp [ofJson?, toJson, members, label, Record.required?, Json.lookup, Json.string?, FieldId.parse?_text]

@[simp] theorem Transition.ofJson?_toJson (t : Transition) : ofJson? t.toJson = some t := by
  simp [ofJson?, toJson, Record.required?, Json.lookup]

@[simp] theorem ScenarioFailure.ofJson?_toJson (f : ScenarioFailure) : ofJson? f.toJson = some f := by
  simp [ofJson?, toJson, Record.required?, Json.lookup, Json.string?, ScenarioDeed.Kind.ofLabel?_label]

@[simp] theorem ScenarioVerdict.ofJson?_toJson (v : ScenarioVerdict) : ofJson? v.toJson = some v := by
  have hfailure := Record.nullable?_optional ScenarioFailure.ofJson?_toJson (fun _ => nofun) v.failure
  simp [ofJson?, toJson, Record.required?, Json.lookup, Json.string?, Record.list?_map, hfailure]

/-! ## Bounds -/

section
open Json (Readable Takes)
variable {number? : Json.Numeral → Option Json.Number} (hwords : ∀ n < UInt16.size, Takes number? n)
  (depth : Nat)
include hwords

theorem Record.readable_status (s : UInt16) : Readable number? depth (status s) :=
  Json.readable_nat.2 (hwords _ s.toNat_lt)

theorem Resource.readable_toJson (r : Resource) : Readable number? (depth + 1) r.toJson := by
  simp [toJson, Record.readable_status hwords]

theorem Expectation.readable_toJson (e : Expectation) : Readable number? (depth + 2) e.toJson := by
  cases h : e.contentType <;> simp [toJson, ContentTypeRule.toJson, Record.readable_status hwords, h]

theorem PlannedCheck.readable_toJson (c : PlannedCheck) : Readable number? (depth + 3) c.toJson := by
  simp [toJson, Verb.toJson, Resource.readable_toJson hwords, Expectation.readable_toJson hwords]

theorem Outcome.readable_toJson (o : Outcome) : Readable number? (depth + 3) o.toJson := by
  have hviolation (v : Violation) : Readable number? (depth + 1) v.toJson := by
    cases v <;> simp [Violation.toJson, Record.readable_status hwords]
  cases o <;> simp [toJson, TransportFailure.toJson, hviolation]

theorem Verdict.readable_toJson (v : Verdict) : Readable number? (depth + 4) v.toJson := by
  have hnote (n : Note) : Readable number? (depth + 2) n.toJson := by cases n <;> simp [Note.toJson]
  simp [toJson, Verb.toJson, Resource.readable_toJson hwords, Expectation.readable_toJson hwords,
    Outcome.readable_toJson hwords, Record.readable_status hwords, hnote]

end

section
open Json (Readable Takes)
variable {number? : Json.Numeral → Option Json.Number} (depth : Nat)

theorem Transition.readable_toJson (t : Transition) : Readable number? (depth + 2) t.toJson := by
  cases h : t.operation <;>
    simp [toJson, PhaseName.toJson, Operation.toJson, Operation.members, WizardStep.toJson, h]

theorem ScenarioVerdict.readable_toJson (v : ScenarioVerdict) (h : ∀ f ∈ v.failure, Takes number? f.index) :
    Readable number? (depth + 4) v.toJson := by
  have hfailure (f : ScenarioFailure) (hf : f ∈ v.failure) : Readable number? (depth + 3) f.toJson := by
    simp [ScenarioFailure.toJson, h f hf]
  simpa [toJson, PhaseName.toJson, Transition.readable_toJson] using hfailure

end

end Conformance
