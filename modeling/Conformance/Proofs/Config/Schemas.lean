import Conformance.Proofs.Config.Valid
import Conformance.Proofs.Matrix.Plan
import Conformance.Proofs.Schema.Registry
import Conformance.Proofs.Verdict.Body
/-!
# Schemas that are asked

An entry with a schema declares JSON, but whether JSON is expected of it is up to the routing rules: on a path
they make malformed every verb owes the error page. So the schema of an entry is asked about the answer to
GET exactly if its path holds no blank and no rejected character, and otherwise about no answer at all.
-/

namespace Conformance

/-- Where JSON is not expected, it makes no difference who judges bodies. -/
theorem PlannedCheck.verdict_eq_of_not_expectsJson {check : PlannedCheck}
    (h : check.expected.expectsJson ≠ true) (r : Response) (validator validator' : Validator) :
    check.verdict r validator = check.verdict r validator' := by
  rw [verdict, verdict, check.examine_of_not_expectsJson r validator h,
    check.examine_of_not_expectsJson r validator' h]

/-! ## Entries with a schema -/

namespace Config
variable {c : Config} {e : ResourceEntry}

/-- The routing rules leave the path of an entry as it is: it holds no blank and no rejected character. -/
def Routes (c : Config) (e : ResourceEntry) : Prop :=
  ∀ ch ∈ e.path.toList, Text.isBlank ch = false ∧ ch ∉ c.routing.rejectedChars.toList

-- along the path, and not by trying every character
instance : Decidable (c.Routes e) :=
  List.decidableBAll (fun ch => Text.isBlank ch = false ∧ ch ∉ c.routing.rejectedChars.toList) e.path.toList

/-- Some planned check of an entry expects JSON. -/
def ExpectsJsonOf (c : Config) (e : ResourceEntry) : Prop :=
  ∃ check ∈ c.plan, check.resource = e.resource ∧ check.expected.expectsJson = true

/-- In a valid configuration control characters and missing slashes are no matter for the routing rules. -/
theorem Valid.classify_eq_valid_iff [UrlLibrary] (hc : c.Valid) (he : e ∈ c.resources) :
    c.policy.classify e.path = .valid ↔ c.Routes e := by
  have hvalid := hc.resources.valid e he
  rw [Policy.classify_eq_valid_iff, and_iff_right hvalid.slash, policy, Routes]
  refine forall₂_congr fun ch hch => ?_
  rw [Policy.refuses_eq_false_iff, and_iff_right]
  cases hascii : Text.isAsciiControl ch with
  | false => rfl
  | true =>
    have hcontrol := Text.isControl_of_isAsciiControl hascii
    rw [hvalid.clean ch hch] at hcontrol
    cases hcontrol

theorem Valid.expectsJsonOf_iff [UrlLibrary] (hc : c.Valid) (he : e ∈ c.resources) (hschema : e.schema ≠ none) :
    c.ExpectsJsonOf e ↔ c.Routes e := by
  obtain ⟨label, hlabel⟩ := Option.ne_none_iff_exists'.1 hschema
  have hjson := ((hc.resources.valid e he).schema label hlabel).2
  rw [← hc.classify_eq_valid_iff he]
  constructor
  · rintro ⟨check, hcheck, hresource, hexpects⟩
    rw [(Policy.mem_plan_iff.1 hcheck).2, hresource, Policy.expectsJson_evaluate] at hexpects
    exact hexpects.1
  · intro hpath
    have hmem : e.resource ∈ c.catalog := List.mem_map_of_mem he
    exact ⟨_, Policy.mem_plan hmem .get, rfl, Policy.expectsJson_evaluate.2 ⟨hpath, .inl rfl, hjson⟩⟩

/-- A check on the path of an entry the routing rules make malformed expects the error page. -/
theorem Valid.expected_of_not_routes [UrlLibrary] (hc : c.Valid) (he : e ∈ c.resources) (hroutes : ¬ c.Routes e)
    {check : PlannedCheck} (hcheck : check ∈ c.plan) (hpath : check.resource.path = e.path) :
    check.expected = ⟨404, .exact Resource.errorPage⟩ := by
  rw [(Policy.mem_plan_iff.1 hcheck).2]
  refine Policy.evaluate_of_not_valid ?_
  rw [hpath]
  exact mt (hc.classify_eq_valid_iff he).1 hroutes

/-- The schemas of a configuration are all expected to be asked exactly if every entry with a schema has a path
without blanks and rejected characters. On such a path some check expects JSON, the registry holds the schema of
the entry, and whenever an answer comes back to a check that expects JSON, that schema judges its body. On any
other path every check owes the error page, and no schema has a say in its verdict. -/
theorem schemas_asked_iff [UrlLibrary] [JsonLibrary] [SchemaLibrary] (c : Config) (h : c.fault? = none) :
    ((∀ e ∈ c.resources, e.schema ≠ none → c.ExpectsJsonOf e) ↔
      ∀ e ∈ c.resources, e.schema ≠ none → c.Routes e) ∧
    ∀ e ∈ c.resources, ∀ label, e.schema = some label →
      (c.Routes e → c.ExpectsJsonOf e ∧
        ∀ disk registry, SchemaRegistry.ofConfig disk c = .ok registry →
          ∃ document schema, SchemaRegistry.load disk (c.resolve label) = .ok document ∧
            SchemaLibrary.compile document = .ok schema ∧
            ∀ check ∈ c.plan, check.resource = e.resource → check.expected.expectsJson = true →
              ∀ r : Response, check.examine r registry.validator =
                Finding.judged ⟨r.violations check.expected, []⟩ e.contentType
                  (LabelledSchema.judge ⟨label, schema⟩ r.body)) ∧
      (¬ c.Routes e → ¬ c.ExpectsJsonOf e ∧
        ∀ check ∈ c.plan, check.resource.path = e.path →
          check.expected = ⟨404, .exact Resource.errorPage⟩ ∧
          ∀ (r : Response) (validator validator' : Validator),
            check.verdict r validator = check.verdict r validator') := by
  have hc : c.Valid := fault?_eq_none_iff.1 h
  refine ⟨?_, ?_⟩
  · exact forall₃_congr fun e he hschema => hc.expectsJsonOf_iff he hschema
  · intro e he label hlabel
    have hiff := hc.expectsJsonOf_iff he (by rw [hlabel]; exact nofun)
    refine ⟨?_, ?_⟩
    · intro hroutes
      refine ⟨hiff.2 hroutes, ?_⟩
      intro disk registry hregistry
      obtain ⟨document, schema, hload, hcompiled, hbound⟩ :=
        SchemaRegistry.get?_addAll_of_mem hc.resources.distinct hregistry he hlabel
      refine ⟨document, schema, hload, hcompiled, ?_⟩
      intro check hcheck hresource hexpects r
      have hjudge : registry.validator check.resource r.body =
          LabelledSchema.judge ⟨label, schema⟩ r.body := by
        rw [SchemaRegistry.validator, hresource]
        simp only [ResourceEntry.resource, hbound]
      rw [check.examine_of_expectsJson r _ hexpects, hjudge, hresource]
      rfl
    · intro hroutes
      refine ⟨mt hiff.1 hroutes, ?_⟩
      intro check hcheck hpath
      have hexpected := hc.expected_of_not_routes he hroutes hcheck hpath
      refine ⟨hexpected, check.verdict_eq_of_not_expectsJson ?_⟩
      rw [hexpected]
      decide

/-- A catalog with a schema on a path that is routed, and an entry without one on a path that is not. -/
def mixedCatalog : Config :=
  { standard with
    resources := [⟨"/public", "application/json; charset=UTF-8", 200, some "public.json"⟩,
      ⟨"/@invalid@", "text/html; charset=UTF-8", 404, none⟩] }

theorem mixedCatalog_schemas_asked :
    mixedCatalog.fault? = none ∧
      ∀ e ∈ mixedCatalog.resources, e.schema ≠ none → mixedCatalog.ExpectsJsonOf e := by
  have hfault : mixedCatalog.fault? = none := by decide +kernel
  refine ⟨hfault, (mixedCatalog.schemas_asked_iff hfault).1.2 ?_⟩
  decide +kernel

/-- A schema on a path with a rejected character is accepted, though no check expects JSON. -/
theorem rejected_path_with_schema :
    let e : ResourceEntry := ⟨"/@item", "application/json", 200, some "item.json"⟩
    let c : Config := { standard with resources := [e] }
    c.fault? = none ∧ e ∈ c.resources ∧ e.schema ≠ none ∧ ¬ c.ExpectsJsonOf e ∧
      ∀ check ∈ c.plan, check.expected = ⟨404, .exact "text/html; charset=UTF-8"⟩ := by
  intro e c
  have hplan : ∀ check ∈ c.plan, check.expected = ⟨404, .exact "text/html; charset=UTF-8"⟩ := by
    decide +kernel
  refine ⟨by decide +kernel, List.mem_cons_self, nofun, ?_, hplan⟩
  rintro ⟨check, hcheck, -, hexpects⟩
  rw [hplan check hcheck] at hexpects
  cases hexpects

end Config

end Conformance
