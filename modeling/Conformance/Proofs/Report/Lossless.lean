import Conformance.Proofs.Run.Finish
/-!
# Output in JSON loses nothing

What a plan or a run was rendered from is read back from its text, so different ones have different texts.
-/

namespace Conformance

/-! ## Plans -/

theorem readable_plan (checks : List PlannedCheck) :
    Json.Readable Json.Numeral.number? Json.deepest (.array (checks.map PlannedCheck.toJson)) := by
  refine .array fun v hv => ?_
  obtain ⟨c, -, rfl⟩ := List.mem_map.1 hv
  exact PlannedCheck.readable_toJson Json.takes_word 123 c

/-- A plan is read back from its text. -/
theorem list?_renderPlan (checks : List PlannedCheck) :
    (Json.parse? (renderPlan checks .json)).bind (Record.list? PlannedCheck.ofJson?) = some checks := by
  rw [renderPlan, Json.parse?_pretty (readable_plan checks), Option.bind_some]
  exact Record.list?_map PlannedCheck.ofJson?_toJson checks

/-! ## Runs -/

namespace Results

theorem ofJson?_toJson (r : Results) : ofJson? r.toJson = some r := by
  simp [ofJson?, toJson, Record.required?, Json.lookup, Record.list?_map]

/-- The numbers of a run that are no statuses: its counts, and where its scenarios failed. -/
def counts (r : Results) : List Nat :=
  r.summary.counts ++ r.scenarios.filterMap fun v => v.failure.map ScenarioFailure.index

theorem readable_toJson {number? : Json.Numeral → Option Json.Number}
    (hwords : ∀ n < UInt16.size, Json.Takes number? n) (depth : Nat) {r : Results}
    (h : ∀ n ∈ r.counts, Json.Takes number? n) :
    Json.Readable number? (depth + 6) r.toJson := by
  have hsummary : Json.Readable number? (depth + 5) r.summary.toJson :=
    Summary.readable_toJson (depth + 4) fun n hn => h n (List.mem_append_left _ hn)
  have hscenario (v : ScenarioVerdict) (hv : v ∈ r.scenarios) : Json.Readable number? (depth + 4) v.toJson := by
    refine v.readable_toJson depth fun f hf => h f.index (List.mem_append_right _ ?_)
    exact List.mem_filterMap.2 ⟨v, hv, by rw [Option.mem_def.1 hf]; rfl⟩
  simpa [toJson, hsummary, Verdict.readable_toJson hwords] using hscenario

theorem unrounded?_render (r : Results) : Json.unrounded? (r.render .json) = some r.toJson :=
  Json.unrounded?_pretty (readable_toJson (fun n _ => Json.takes_unrounded n) 121 fun n _ => Json.takes_unrounded n)

theorem parse?_render {r : Results} (h : ∀ n ∈ r.counts, n < UInt64.size) :
    Json.parse? (r.render .json) = some r.toJson :=
  Json.parse?_pretty (readable_toJson Json.takes_word 121 fun n hn => Json.takes_number (h n hn))

theorem injective_render : Function.Injective fun r : Results => r.render .json := by
  intro r t h
  have hread : some r.toJson = some t.toJson := by
    rw [← unrounded?_render, ← unrounded?_render]
    exact congrArg Json.unrounded? h
  have hrun : some r = some t := by rw [← ofJson?_toJson, ← ofJson?_toJson, Option.some.inj hread]
  exact Option.some.inj hrun

end Results

/-- The text of a plan in JSON is read back as the same checks. The text of a run is a document that tells its
status and its counts and is read back as the same verdicts and scenario verdicts; the reader that rounds numbers
beyond 64 bits reads it too, if there are none. So neither two plans nor two runs have the same text. -/
theorem json_output_lossless :
    (∀ checks, (Json.parse? (renderPlan checks .json)).bind (Record.list? PlannedCheck.ofJson?) = some checks) ∧
    (Function.Injective fun checks => renderPlan checks .json) ∧
    (∀ r : Results, ∃ doc, Json.unrounded? (r.render .json) = some doc ∧ doc.Tells r.summary ∧
      Results.ofJson? doc = some r ∧
      ((∀ n ∈ r.counts, n < UInt64.size) → Json.parse? (r.render .json) = some doc)) ∧
    Function.Injective fun r : Results => r.render .json := by
  refine ⟨list?_renderPlan, ?_, fun r => ?_, Results.injective_render⟩
  · intro checks others h
    have hread := list?_renderPlan checks
    rw [show renderPlan checks .json = renderPlan others .json from h, list?_renderPlan] at hread
    exact (Option.some.inj hread).symm
  · exact ⟨r.toJson, r.unrounded?_render, r.tells_toJson, r.ofJson?_toJson, Results.parse?_render⟩

end Conformance
