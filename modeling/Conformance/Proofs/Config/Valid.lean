import Mathlib.Data.List.Nodup
import Conformance.Config.Source
import Conformance.Proofs.Config.Rules
import Conformance.Proofs.Url.Laws
/-!
# Valid configurations, described at once

`Config.Valid` says what a valid configuration is without an order in which to look at it. It is what is left
when every rule is kept: a list that was scanned with the items seen so far has no item twice. So a
configuration has no fault exactly if it is valid, and otherwise its fault is that of the first rule it
breaks.
-/

namespace Conformance

open Demand

/-! ## Validity -/

/-- A configured path: something is left without the blanks around it, and that keeps the limits. -/
@[mk_iff]
structure ValidPath (path : String) : Prop where
  filled : Text.trim path ≠ ""
  fits : Path.Fits (Text.trim path)

/-- A valid entry of a catalog, taken alone. -/
@[mk_iff]
structure ResourceEntry.Valid (e : ResourceEntry) : Prop where
  slash : e.path.toList.head? = some '/'
  size : e.path.utf8ByteSize ≤ 2048
  clean : ∀ c ∈ e.path.toList, Text.isControl c = false
  contentType : 1 ≤ (Text.trim e.contentType).utf8ByteSize ∧ (Text.trim e.contentType).utf8ByteSize ≤ 256
  status : 100 ≤ e.status ∧ e.status ≤ 599
  schema : ∀ path, e.schema = some path → ValidPath path ∧ e.resource.declaresJson = true

/-- A valid scenario, taken alone. -/
@[mk_iff]
structure Scenario.Valid (s : Scenario) : Prop where
  name : Text.trim s.name ≠ ""
  count : 1 ≤ s.steps.length ∧ s.steps.length ≤ 256
  elements : ∀ step ∈ s.steps, Element.parse? step.element ≠ none

/-- A base URL, read without the blanks around it: a URL of the web with a host, and with neither a query nor
a fragment. -/
def IsBaseUrl [UrlLibrary] (s : String) : Prop :=
  ∃ url, UrlLibrary.parse (Text.trim s) = .ok (.web url) ∧ url.scheme ∈ ["http", "https"] ∧
    url.authority.host.text ≠ "" ∧ url.hasQuery = false ∧ url.hasFragment = false

/-- A valid target. -/
@[mk_iff]
structure Target.Valid [UrlLibrary] (t : Target) : Prop where
  baseUrl : IsBaseUrl t.baseUrl
  timeout : 1 ≤ t.timeoutMs ∧ t.timeoutMs ≤ 300000
  concurrency : 1 ≤ t.maxConcurrency ∧ t.maxConcurrency ≤ 64

/-- A valid catalog. -/
@[mk_iff]
structure ValidCatalog (entries : List ResourceEntry) : Prop where
  count : 1 ≤ entries.length ∧ entries.length ≤ 256
  valid : ∀ e ∈ entries, e.Valid
  distinct : (entries.map (·.path)).Nodup

/-- Valid routing rules. -/
@[mk_iff]
structure Routing.Valid (r : Routing) : Prop where
  count : r.rejectedChars.length ≤ 32
  noSlash : '/' ∉ r.rejectedChars.toList

/-- A valid workflow. -/
@[mk_iff]
structure Workflow.Valid (w : Workflow) : Prop where
  recipientCount : 1 ≤ w.recipients.length ∧ w.recipients.length ≤ 64
  recipients : ∀ id ∈ w.recipients, IsReceiver id
  distinctRecipients : w.recipients.Nodup
  scenarioCount : w.scenarios.length ≤ 64
  scenarios : ∀ s ∈ w.scenarios, s.Valid
  distinctNames : (w.scenarios.map (·.name)).Nodup

/-- A valid audit log. -/
@[mk_iff]
structure AuditTarget.Valid (a : AuditTarget) : Prop where
  present : a.mode = .file → a.path ≠ none
  path : ∀ path, a.path = some path → ValidPath path

/-- A valid configuration. -/
@[mk_iff]
structure Config.Valid [UrlLibrary] (c : Config) : Prop where
  target : c.target.Valid
  resources : ValidCatalog c.resources
  routing : c.routing.Valid
  workflow : c.workflow.Valid
  audit : c.audit.Valid

/-! ## Rules that are kept -/

section Each
variable {φ α κ : Type} {rules : List α → α → List (Demand φ)} {P : α → Prop} {xs : List α}

/-- No key comes twice exactly if none is among those before it. -/
theorem nodup_map_iff_notMem_take (key : α → κ) (xs : List α) : (xs.map key).Nodup ↔
    ∀ (i : Nat) (x : α), xs[i]? = some x → key x ∉ (xs.take i).map key := by
  rw [List.nodup_iff_pairwise_ne, List.pairwise_map, List.pairwise_iff_getElem]
  constructor
  · rintro h i x hx hmem
    obtain ⟨hi, rfl⟩ := List.getElem?_eq_some_iff.1 hx
    obtain ⟨y, hy, hkey⟩ := List.mem_map.1 hmem
    obtain ⟨j, hj, rfl⟩ := List.mem_take_iff_getElem.1 hy
    exact h j i (by omega) hi (by omega) hkey
  · intro h i j hi hj hij hkey
    refine h j xs[j] (List.getElem?_eq_getElem hj) (List.mem_map.2 ⟨xs[i], ?_, hkey⟩)
    exact List.mem_take_iff_getElem.2 ⟨i, by omega, rfl⟩

theorem forall_mem_iff_getElem? : (∀ x ∈ xs, P x) ↔ ∀ (i : Nat) (x : α), xs[i]? = some x → P x := by
  simp only [List.mem_iff_getElem?, forall_exists_index]
  exact forall_comm

theorem allKept_each_iff : AllKept (each rules xs) ↔
    ∀ (i : Nat) (x : α), xs[i]? = some x → AllKept (rules (xs.take i) x) := by
  simp only [AllKept, mem_each]
  constructor
  · exact fun h i x hx r hr => h r ⟨i, x, hx, hr⟩
  · rintro h r ⟨i, x, hx, hr⟩
    exact h i x hx r hr

theorem allKept_each_alone_iff (h : ∀ before x, AllKept (rules before x) ↔ P x) :
    AllKept (each rules xs) ↔ ∀ x ∈ xs, P x := by
  rw [allKept_each_iff, forall_mem_iff_getElem?]
  simp only [h]

/-- Rules that ask something of each item and let no key come twice. -/
theorem allKept_each_distinct_iff {key : α → κ}
    (h : ∀ before x, AllKept (rules before x) ↔ P x ∧ key x ∉ before.map key) :
    AllKept (each rules xs) ↔ (∀ x ∈ xs, P x) ∧ (xs.map key).Nodup := by
  rw [allKept_each_iff, forall_mem_iff_getElem?, nodup_map_iff_notMem_take]
  simp only [h, imp_and, forall_and]

end Each

theorem allKept_pathRules_iff {path : String} : AllKept (pathRules path) ↔ ValidPath path := by
  simp only [pathRules, allKept_cons, kept_asks, allKept_nil, and_true, validPath_iff, Path.fits_iff]

theorem allKept_baseUrlRules_iff [UrlLibrary] {s : String} : AllKept (baseUrlRules s) ↔ IsBaseUrl s := by
  simp only [baseUrlRules, allKept_cons, kept_asks, allKept_nil, and_true]
  constructor
  · rintro ⟨hparsed, hhttp, hhost, hbare⟩
    cases hparse : UrlLibrary.parse (Text.trim s) with
    | error e => exact absurd ⟨e, hparse, rfl⟩ (hparsed _)
    | ok url =>
      obtain ⟨web, rfl, hfilled⟩ := hhost url hparse
      exact ⟨web, hparse, hhttp _ hparse, hfilled, hbare web hparse⟩
  · rintro ⟨url, hparse, hscheme, hhost, hbare⟩
    rw [hparse]
    refine ⟨?_, ?_, ?_, ?_⟩
    · rintro _ ⟨e, ⟨⟩, -⟩
    · rintro _ ⟨⟩
      exact hscheme
    · rintro _ ⟨⟩
      exact ⟨url, rfl, hhost⟩
    · rintro _ ⟨⟩
      exact hbare

theorem Target.allKept_rules_iff [UrlLibrary] {t : Target} : AllKept t.rules ↔ t.Valid := by
  simp only [rules, allKept_append, allKept_within, allKept_baseUrlRules_iff, allKept_cons, kept_asks,
    allKept_nil, and_true, valid_iff]

theorem ResourceEntry.allKept_schemaRules_iff {e : ResourceEntry} : AllKept e.schemaRules ↔
    ∀ path, e.schema = some path → ValidPath path ∧ e.resource.declaresJson = true := by
  unfold schemaRules
  cases e.schema with
  | none => simp
  | some path => simp [allKept_pathRules_iff]

theorem ResourceEntry.allKept_rules_iff {e : ResourceEntry} : AllKept e.rules ↔ e.Valid := by
  simp only [rules, allKept_append, allKept_cons, kept_asks, allKept_nil, allKept_schemaRules_iff, and_true,
    and_assoc, valid_iff]

theorem allKept_entryRules_iff (before : List ResourceEntry) (e : ResourceEntry) :
    AllKept (entryRules before e) ↔ e.Valid ∧ e.path ∉ before.map (·.path) := by
  simp [entryRules, ResourceEntry.allKept_rules_iff]

theorem allKept_catalogRules_iff {entries : List ResourceEntry} :
    AllKept (catalogRules entries) ↔ ValidCatalog entries := by
  simp only [catalogRules, allKept_append, allKept_cons, kept_asks, allKept_nil, and_true,
    allKept_each_distinct_iff allKept_entryRules_iff, validCatalog_iff]

theorem Routing.allKept_rules_iff {r : Routing} : AllKept r.rules ↔ r.Valid := by
  simp only [rules, allKept_cons, kept_asks, allKept_nil, and_true, valid_iff]

theorem allKept_stepRules_iff (before : List ScenarioStep) (step : ScenarioStep) :
    AllKept (stepRules before step) ↔ Element.parse? step.element ≠ none := by
  simp [stepRules]

theorem Scenario.allKept_rules_iff {s : Scenario} : AllKept s.rules ↔ s.Valid := by
  simp only [rules, allKept_append, allKept_cons, kept_asks, allKept_nil, and_true, and_assoc,
    allKept_each_alone_iff allKept_stepRules_iff, valid_iff]

theorem allKept_recipientRules_iff (before : List String) (id : String) :
    AllKept (recipientRules before id) ↔ IsReceiver id ∧ id ∉ before.map fun id => id := by
  simp [recipientRules]

theorem allKept_scenarioRules_iff (before : List Scenario) (s : Scenario) :
    AllKept (scenarioRules before s) ↔ s.Valid ∧ s.name ∉ before.map (·.name) := by
  simp [scenarioRules, Scenario.allKept_rules_iff]

theorem Workflow.allKept_rules_iff {w : Workflow} : AllKept w.rules ↔ w.Valid := by
  simp only [rules, allKept_append, allKept_cons, kept_asks, allKept_nil, and_true, and_assoc, List.map_id',
    allKept_each_distinct_iff allKept_recipientRules_iff, allKept_each_distinct_iff allKept_scenarioRules_iff,
    valid_iff]

theorem AuditTarget.allKept_placeRules_iff {a : AuditTarget} :
    AllKept a.placeRules ↔ ∀ path, a.path = some path → ValidPath path := by
  unfold placeRules
  cases a.path with
  | none => simp
  | some path => simp [allKept_pathRules_iff]

theorem AuditTarget.allKept_rules_iff {a : AuditTarget} : AllKept a.rules ↔ a.Valid := by
  rw [rules, allKept_cons, kept_asks, allKept_placeRules_iff, valid_iff]

theorem Config.allKept_rules_iff [UrlLibrary] {c : Config} : AllKept c.rules ↔ c.Valid := by
  simp only [rules, allKept_append, Target.allKept_rules_iff, allKept_catalogRules_iff,
    Routing.allKept_rules_iff, Workflow.allKept_rules_iff, AuditTarget.allKept_rules_iff, and_assoc, valid_iff]

/-- A configuration without a fault is a valid one. -/
theorem Config.fault?_eq_none_iff [UrlLibrary] {c : Config} : c.fault? = none ↔ c.Valid :=
  c.reports.eq_none_iff.trans allKept_rules_iff

theorem Config.valid_parts_standard : ValidCatalog standard.resources ∧ standard.routing.Valid ∧
    standard.workflow.Valid ∧ standard.audit.Valid := by
  have h : standard.Valid := fault?_eq_none_iff.1 (by decide +kernel)
  exact ⟨h.resources, h.routing, h.workflow, h.audit⟩

theorem Config.valid_standard [UrlLibrary] [UrlLibrary.Lawful] : standard.Valid := by
  obtain ⟨url, hparse, hscheme, hhost, hbare⟩ := UrlLibrary.Lawful.standard
  have htrim : Text.trim standard.target.baseUrl = Target.standard.baseUrl := by decide +kernel
  obtain ⟨hresources, hrouting, hworkflow, haudit⟩ := valid_parts_standard
  refine ⟨⟨⟨url, htrim ▸ hparse, by simp [hscheme], hhost, hbare⟩, by decide, by decide⟩, hresources, hrouting,
    hworkflow, haudit⟩

theorem Config.validated_eq_ok_iff [UrlLibrary] {c c' : Config} : c.validated = .ok c' ↔ c' = c ∧ c.Valid := by
  rw [← fault?_eq_none_iff]
  cases hfault : c.fault? with
  | none => simp [validated_of_none hfault, eq_comm]
  | some f => simp [validated_of_some hfault]

theorem Config.valid_of_validated [UrlLibrary] {c : Config} (h : c.validated = .ok c) : c.Valid :=
  (validated_eq_ok_iff.1 h).2

/-- The check of a configuration is exact. It passes exactly if the configuration is valid, and else its error
is that of the first rule that is broken: target, resources from the first on, routing, workflow and audit log
in this order. -/
theorem Config.validation_exact [UrlLibrary] (c : Config) :
    (c.validated = .ok c ↔ c.Valid) ∧
    ∀ e, c.validated = .error e ↔ ∃ f before rule behind, e = .invalid f ∧
      c.rules = before ++ rule :: behind ∧ (∀ r ∈ before, ∀ f', ¬ r f') ∧ rule f := by
  have hfirst : ∀ f, c.fault? = some f ↔ First c.rules f := fun _ => c.reports.eq_some_iff
  rw [← fault?_eq_none_iff]
  cases hfault : c.fault? with
  | none =>
    rw [validated_of_none hfault]
    refine ⟨by simp, fun e => ⟨nofun, ?_⟩⟩
    rintro ⟨f, before, rule, behind, -, hbroken⟩
    rw [(hfirst f).2 ⟨before, rule, behind, hbroken⟩] at hfault
    cases hfault
  | some f =>
    rw [validated_of_some hfault]
    refine ⟨by simp, fun e => ⟨?_, ?_⟩⟩
    · rintro ⟨⟩
      obtain ⟨before, rule, behind, hbroken⟩ := (hfirst f).1 hfault
      exact ⟨f, before, rule, behind, rfl, hbroken⟩
    · rintro ⟨f', before, rule, behind, rfl, hbroken⟩
      rw [(hfirst f').2 ⟨before, rule, behind, hbroken⟩] at hfault
      cases hfault
      rfl

/-- The one thing asked of an audit log beyond a place within the limits: a blank place is refused, also
when nothing is written there. -/
theorem Config.blank_audit_path_refused :
    let c : Config := { Config.standard with audit := ⟨.stderr, some " "⟩ }
    c.target.Valid ∧ ValidCatalog c.resources ∧ c.routing.Valid ∧ c.workflow.Valid ∧
      (c.audit.mode = .file → c.audit.path ≠ none) ∧
      (∀ path, c.audit.path = some path → Path.Fits path ∧ Path.Fits (Text.trim path)) ∧
      c.validated = .error (.invalid (.auditPath .blank)) := by
  have hstandard : Config.standard.Valid := fault?_eq_none_iff.1 (by decide +kernel)
  refine ⟨hstandard.target, hstandard.resources, hstandard.routing, hstandard.workflow, nofun, ?_, ?_⟩
  · rintro _ ⟨⟩
    exact ⟨⟨by decide, by decide⟩, ⟨by decide, by decide⟩⟩
  · exact validated_of_some (by decide +kernel)

end Conformance
