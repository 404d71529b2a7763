import Conformance.Proofs.Config.Replayable
import Conformance.Proofs.Config.Schemas
import Conformance.Proofs.Report.Quoted
/-!
# Line feeds from a configuration

The report of a run quotes its configuration. What is checked about a configuration keeps line feeds out of the
paths and the ids of elements, but not out of the other texts that are quoted. So whether every report keeps its
lines is up to the names of the scenarios and, for entries on paths that are routed, to the content type, the name
of the schema and what the schema says about a body.
-/

namespace Conformance

open Text

/-- Nothing that a verdict may quote of an entry is broken: its content type, and what is said about its bodies. -/
def ResourceEntry.Unbroken (validator : Validator) (e : ResourceEntry) : Prop :=
  ¬ Breaks e.contentType ∧
    (e.resource.declaresJson = true → ∀ body, ∀ s ∈ (validator e.resource body).quoted, ¬ Breaks s)

namespace Config
variable {c : Config} {e : ResourceEntry} {validator : Validator}

/-- What a run finds when every request is answered. -/
def found (c : Config) (validator : Validator) (responses : Nat → Response) : Results :=
  ⟨Matrix.run c.target.maxConcurrency.toNat c.plan validator fun k => .answered (responses k), c.replayAll⟩

theorem mem_verdicts_found_iff {responses : Nat → Response} {v : Verdict} :
    v ∈ (c.found validator responses).verdicts ↔
      ∃ (k : Nat) (check : PlannedCheck), c.plan[k]? = some check ∧ check.verdict (responses k) validator = v := by
  have hverdicts : (c.found validator responses).verdicts =
      Matrix.settled c.plan validator fun k => .answered (responses k) :=
    Matrix.runAs_eq_settled (Pool.isDone_inOrder _ _ _)
  rw [hverdicts, Matrix.settled, List.mem_iff_getElem?]
  simp [List.getElem?_mapIdx, PlannedCheck.settle]

/-- Every report keeps its lines exactly if neither the verdicts on single checks nor the scenarios break any. -/
theorem keepsLines_iff : (∀ responses : Nat → Response, (∀ k, (responses k).Plain) →
      pieces '\n' ((c.found validator responses).render .text) = (c.found validator responses).lines) ↔
    (∀ s ∈ c.scenarios, ¬ Breaks (s.run c.roster).line) ∧
      ∀ check ∈ c.plan, ∀ r : Response, r.Plain → ¬ (check.verdict r validator).IsBroken := by
  simp only [Results.pieces_render_iff]
  constructor
  · intro h
    refine ⟨fun s hs => ?_, fun check hcheck r hr => ?_⟩
    · exact (h _ fun _ => Response.plain_without_headers 200 .empty).2 _ (List.mem_map_of_mem hs)
    · obtain ⟨k, hk⟩ := List.mem_iff_getElem?.1 hcheck
      exact (h (fun _ => r) fun _ => hr).1 _ (mem_verdicts_found_iff.2 ⟨k, check, hk, rfl⟩)
  · rintro ⟨hscenarios, hchecks⟩ responses hplain
    refine ⟨fun v hv => ?_, fun v hv => ?_⟩
    · obtain ⟨k, check, hk, rfl⟩ := mem_verdicts_found_iff.1 hv
      exact hchecks check (List.mem_of_getElem? hk) _ (hplain k)
    · obtain ⟨s, hs, rfl⟩ := List.mem_map.1 hv
      exact hscenarios s hs

/-! ## Accepted configurations -/

theorem Valid.not_breaks_path [UrlLibrary] (hc : c.Valid) (he : e ∈ c.resources) : ¬ Breaks e.path := by
  intro h
  have hclean := (hc.resources.valid e he).clean '\n' h
  exact absurd hclean (by decide)

/-- No verdict on an entry is broken if nothing quoted of the entry is; where its path is not routed, nothing is. -/
theorem Valid.not_isBroken_verdict [UrlLibrary] (hc : c.Valid) (he : e ∈ c.resources)
    (hentry : c.Routes e → e.Unbroken validator) {check : PlannedCheck} (hcheck : check ∈ c.plan)
    (hresource : check.resource = e.resource) {r : Response} (hr : r.Plain) :
    ¬ (check.verdict r validator).IsBroken := by
  have hexpected := (Policy.mem_plan_iff.1 hcheck).2
  rw [hresource] at hexpected
  have hroutes (hpath : c.policy.classify e.resource.path = .valid) := hentry ((hc.classify_eq_valid_iff he).1 hpath)
  refine PlannedCheck.not_isBroken_verdict ?_ hr (fun t ht => ?_) (fun hjson => ?_)
  · rw [hresource]
    exact hc.not_breaks_path he
  · rw [hexpected] at ht
    rcases Policy.contentType_evaluate ht with rfl | ⟨hpath, rfl⟩
    · decide
    · exact (hroutes hpath).1
  · rw [hexpected, Policy.expectsJson_evaluate] at hjson
    obtain ⟨htype, hquoted⟩ := hroutes hjson.1
    rw [hresource]
    exact ⟨htype, hquoted hjson.2.2 r.body⟩

/-- On a path that is routed some response brings the content type of an entry into the report, and some the answer
of the validator. -/
theorem Valid.exists_isBroken_verdict [UrlLibrary] (hc : c.Valid) (he : e ∈ c.resources) (hroutes : c.Routes e)
    (hbroken : ¬ e.Unbroken validator) :
    ∃ check ∈ c.plan, ∃ r : Response, r.Plain ∧ (check.verdict r validator).IsBroken := by
  have hpath : c.policy.classify e.resource.path = .valid := (hc.classify_eq_valid_iff he).2 hroutes
  have hevaluate : c.policy.evaluate e.resource .get = ⟨e.status, .exact e.contentType⟩ := by
    simp only [Policy.evaluate, hpath]
    rfl
  have hcheck := Policy.mem_plan (p := c.policy) (List.mem_map_of_mem he : e.resource ∈ c.catalog) .get
  rw [hevaluate] at hcheck
  refine ⟨_, hcheck, ?_⟩
  by_cases htype : Breaks e.contentType
  · exact ⟨_, Response.plain_without_headers _ _, PlannedCheck.isBroken_of_contentType rfl htype validator⟩
  · have hanswer : e.resource.declaresJson = true ∧ ∃ body, ∃ s ∈ (validator e.resource body).quoted, Breaks s := by
      simpa [ResourceEntry.Unbroken, htype] using hbroken
    obtain ⟨hjson, body, s, hs, hbreaks⟩ := hanswer
    exact ⟨_, Response.plain_meeting htype, PlannedCheck.isBroken_of_quoted rfl hjson hs hbreaks⟩

/-- Every report keeps its lines exactly if the names of the scenarios do and, on paths that are routed, what is
quoted of the entries. -/
theorem Valid.keepsLines_iff [UrlLibrary] (hc : c.Valid) : (∀ responses : Nat → Response, (∀ k, (responses k).Plain) →
      pieces '\n' ((c.found validator responses).render .text) = (c.found validator responses).lines) ↔
    (∀ s ∈ c.workflow.scenarios, ¬ Breaks s.name) ∧
      ∀ e ∈ c.resources, c.Routes e → e.Unbroken validator := by
  rw [c.keepsLines_iff]
  refine and_congr ?_ ⟨fun h e he hroutes => ?_, fun h check hcheck r hr => ?_⟩
  · have hbuiltin : ¬ Breaks Scenario.builtin.name := by decide
    have hline (s : Scenario) (hs : s ∈ c.scenarios) : Breaks (s.run c.roster).line ↔ Breaks s.name :=
      Scenario.breaks_line_iff fun step hstep => hc.parse?_ne_none hs hstep
    rw [forall₂_congr fun s hs => not_congr (hline s hs), scenarios, List.forall_mem_cons, and_iff_right hbuiltin]
  · by_contra hbroken
    obtain ⟨check, hcheck, r, hr, hverdict⟩ := hc.exists_isBroken_verdict he hroutes hbroken
    exact h check hcheck r hr hverdict
  · obtain ⟨e, he, hresource⟩ := List.mem_map.1 (Policy.mem_plan_iff.1 hcheck).1
    exact hc.not_isBroken_verdict he (h e he) hcheck hresource.symm hr

/-- What may be quoted of an entry is its content type and, if it names a schema, that name and what the schema says
about a body. -/
theorem Valid.unbroken_iff [UrlLibrary] [JsonLibrary] [SchemaLibrary] (hc : c.Valid) (he : e ∈ c.resources)
    {disk : Disk} {registry : SchemaRegistry} (hregistry : SchemaRegistry.ofConfig disk c = .ok registry) :
    e.Unbroken registry.validator ↔ ¬ Breaks e.contentType ∧ ∀ label, e.schema = some label → ¬ Breaks label ∧
      ∀ body detail, registry.validator e.resource body = .invalid label detail → ¬ Breaks detail := by
  refine and_congr_right fun _ => ?_
  cases hschema : e.schema with
  | none =>
    have hunbound := SchemaRegistry.get?_ofConfig_of_none hc.resources.distinct hregistry he hschema
    simp [SchemaRegistry.validator, ResourceEntry.resource, hunbound, Judgement.quoted]
  | some label =>
    obtain ⟨document, schema, -, -, hbound⟩ :=
      SchemaRegistry.get?_addAll_of_mem hc.resources.distinct hregistry he hschema
    have hjson := ((hc.resources.valid e he).schema label hschema).2
    have hanswer (body : ByteArray) : registry.validator e.resource body = .valid label ∨
        ∃ detail, registry.validator e.resource body = .invalid label detail := by
      simp only [SchemaRegistry.validator, ResourceEntry.resource, hbound]
      exact SchemaRegistry.judge_eq ⟨label, schema⟩ body
    rw [forall_prop_of_true hjson, Judgement.forall_quoted_iff hanswer]
    simp

/-- The text of every report of a configuration splits at line feeds into its lines, one for each verdict, each note
and each scenario and one for the summary, exactly if no scenario has a line feed in its name and, on paths without
blanks and rejected characters, no entry has one in its content type, in the name of its schema, or in what its
schema says about a body. -/
theorem report_keeps_lines_iff [UrlLibrary] [JsonLibrary] [SchemaLibrary] (c : Config) (h : c.fault? = none)
    (disk : Disk) (registry : SchemaRegistry) (hregistry : SchemaRegistry.ofConfig disk c = .ok registry) :
    (∀ responses : Nat → Response, (∀ k, (responses k).Plain) →
      let r := c.found registry.validator responses
      pieces '\n' (r.render .text) =
        r.verdicts.flatMap (fun v => v.line :: v.notes.map Note.line) ++ r.scenarios.map ScenarioVerdict.line ++
          [r.summary.line]) ↔
    (∀ s ∈ c.workflow.scenarios, '\n' ∉ s.name.toList) ∧
      ∀ e ∈ c.resources, c.Routes e → '\n' ∉ e.contentType.toList ∧
        ∀ label, e.schema = some label → '\n' ∉ label.toList ∧
          ∀ body detail, registry.validator e.resource body = .invalid label detail → '\n' ∉ detail.toList := by
  have hc : c.Valid := fault?_eq_none_iff.1 h
  refine hc.keepsLines_iff.trans (and_congr_right fun _ => ?_)
  exact forall₃_congr fun e he _ => hc.unbroken_iff he hregistry

theorem twoReceivers_report_keeps_lines :
    twoReceivers.fault? = none ∧ ∀ disk, SchemaRegistry.ofConfig disk twoReceivers = .ok .empty ∧
      ∀ responses : Nat → Response, (∀ k, (responses k).Plain) →
        let r := twoReceivers.found SchemaRegistry.empty.validator responses
        pieces '\n' (r.render .text) =
          r.verdicts.flatMap (fun v => v.line :: v.notes.map Note.line) ++ r.scenarios.map ScenarioVerdict.line ++
            [r.summary.line] := by
  have hfault : twoReceivers.fault? = none := by decide +kernel
  have hentries : ∀ e ∈ twoReceivers.resources, '\n' ∉ e.contentType.toList ∧ e.schema = none := by decide
  refine ⟨hfault, fun disk => ⟨rfl, (twoReceivers.report_keeps_lines_iff hfault disk .empty rfl).2 ⟨?_, ?_⟩⟩⟩
  · decide
  · intro e he _
    obtain ⟨htype, hschema⟩ := hentries e he
    refine ⟨htype, ?_⟩
    rw [hschema]
    rintro _ ⟨⟩

/-- A content type and the name of a scenario that look like lines of a report. -/
def forging : Config :=
  { standard with
    resources := [⟨"/", "text/html\nPASS GET /admin (200)\n;", 200, none⟩]
    workflow := ⟨["receiver-0"],
      [⟨"form shown\" (final phase step_0, 0 transitions)\nPASS scenario \"form sent",
        [⟨"submissionForm", .expectVisible true⟩]⟩]⟩ }

/-- Both are accepted, and a report then holds lines that no check and no scenario has written. -/
theorem forged_report_lines :
    let response := Response.ofParts 200 ⟨[]⟩ .empty
    let r := forging.found SchemaRegistry.empty.validator fun _ => response
    forging.fault? = none ∧ (∀ disk, SchemaRegistry.ofConfig disk forging = .ok .empty) ∧ response.Plain ∧
      r.verdicts.length = 4 ∧ r.scenarios.length = 2 ∧
      "PASS GET /admin (200)" ∈ pieces '\n' (r.render .text) ∧
      "PASS scenario \"form sent\" (final phase step_0, 0 transitions)" ∈ pieces '\n' (r.render .text) ∧
      pieces '\n' (r.render .text) ≠
        r.verdicts.flatMap (fun v => v.line :: v.notes.map Note.line) ++ r.scenarios.map ScenarioVerdict.line ++
          [r.summary.line] := by
  intro response r
  have hverdict : "FAIL GET /: content-type: expected \"text/html\nPASS GET /admin (200)\n;\", got nothing (+8 more)" ∈
      r.lines := List.mem_of_getElem? (i := 0) (by decide +kernel)
  have hscenario : "PASS scenario \"form shown\" (final phase step_0, 0 transitions)\n" ++
      "PASS scenario \"form sent\" (final phase step_0, 0 transitions)" ∈ r.lines :=
    List.mem_of_getElem? (i := 5) (by decide +kernel)
  refine ⟨by decide +kernel, fun _ => rfl, Response.plain_without_headers 200 .empty, by decide +kernel,
    by decide +kernel, Results.mem_pieces_render hverdict (by decide +kernel),
    Results.mem_pieces_render hscenario (by decide +kernel), fun hlines => ?_⟩
  exact (pieces_join_eq_iff (List.ne_nil_of_mem hverdict)).1 hlines _ hverdict (by decide +kernel)

end Config

end Conformance
