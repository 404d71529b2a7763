import Mathlib.Data.List.ProdSigma
import Conformance.Report.Audit
import Conformance.Proofs.Config.Valid
import Conformance.Proofs.Matrix.Plan
import Conformance.Proofs.Run.PlanOrder
/-!
# Which check a verdict is about

Verdicts and audit events go by the path and the verb of their check. A plan holds every pair of a path of its
catalog and a verb, in order, and the paths of a valid catalog are distinct; so such a pair stands for one check
of the plan, and so does every verdict and every event of a run over it.
-/

namespace Conformance

/-! ## Paths and verbs -/

/-- What a check goes by. -/
def PlannedCheck.key (check : PlannedCheck) : String × Verb := (check.resource.path, check.verb)

/-- The check a verdict is about, by its path and verb. -/
def Verdict.key (v : Verdict) : String × Verb := (v.resource.path, v.verb)

/-- The check an event is about, by its path and verb. -/
def AuditEvent.key? : AuditEvent → Option (String × Verb)
  | .verdict path verb .. => some (path, verb)
  | .scenario .. | .run .. => none

theorem Policy.map_key_plan (p : Policy) (catalog : List Resource) :
    (p.plan catalog).map PlannedCheck.key = catalog.map (·.path) ×ˢ Verb.all := by
  induction catalog with
  | nil => rfl
  | cons r rs ih =>
    rw [plan_cons, List.map_append, ih]
    rfl

theorem Verb.nodup_all : Verb.all.Nodup := by decide

/-- Under distinct paths no two checks go by the same path and verb. -/
theorem Policy.nodup_key_plan {p : Policy} {catalog : List Resource} (h : (catalog.map (·.path)).Nodup) :
    ((p.plan catalog).map PlannedCheck.key).Nodup := by
  rw [map_key_plan]
  exact h.product Verb.nodup_all

/-- A key of a plan without repetition is that of one check. -/
theorem exists_unique_check {plan : List PlannedCheck} (h : (plan.map PlannedCheck.key).Nodup)
    {k : String × Verb} (hk : k ∈ plan.map PlannedCheck.key) : ∃! check, check ∈ plan ∧ check.key = k := by
  obtain ⟨check, hcheck, rfl⟩ := List.mem_map.1 hk
  refine ⟨check, ⟨hcheck, rfl⟩, ?_⟩
  rintro other ⟨hother, hkey⟩
  exact List.inj_on_of_nodup_map h hother hcheck hkey

/-! ## Verdicts and events -/

theorem PlannedCheck.key_settle (check : PlannedCheck) (validator : Validator) (x : Exchange) :
    (check.settle validator x).key = check.key := by
  cases x <;> rfl

/-- The verdicts of a plan go by what its checks go by. -/
theorem Matrix.map_key_settled (plan : List PlannedCheck) (validator : Validator) (exchanges : Nat → Exchange) :
    (settled plan validator exchanges).map Verdict.key = plan.map PlannedCheck.key := by
  apply List.ext_getElem?
  intro k
  rw [List.getElem?_map, List.getElem?_map]
  cases hk : plan[k]? with
  | none => simp [settled, hk]
  | some check => rw [getElem?_settled hk, Option.map_some, Option.map_some, PlannedCheck.key_settle]

/-- The events of a run go by what its verdicts go by, in their order. -/
theorem Results.filterMap_key?_events (r : Results) (command : String) :
    (r.events command).filterMap AuditEvent.key? = r.verdicts.map Verdict.key := by
  have hverdicts : (r.verdicts.map AuditEvent.ofVerdict).filterMap AuditEvent.key? = r.verdicts.map Verdict.key := by
    rw [List.filterMap_map]
    exact congrFun (List.filterMap_eq_map (f := Verdict.key)) r.verdicts
  have hscenarios : (r.scenarios.map AuditEvent.ofScenario).filterMap AuditEvent.key? = [] := by
    rw [List.filterMap_map, List.filterMap_eq_nil_iff]
    exact fun _ _ => rfl
  rw [events, List.filterMap_append, List.filterMap_append, hverdicts, hscenarios, List.append_nil]
  exact List.append_nil _

/-- Without scenarios every event but that of the run itself is about a verdict. -/
theorem Results.mem_events_iff {verdicts : List Verdict} {command : String} {e : AuditEvent} :
    e ∈ (⟨verdicts, []⟩ : Results).events command ↔
      (∃ v ∈ verdicts, e = .ofVerdict v) ∨ e = .ofRun command (⟨verdicts, []⟩ : Results).summary := by
  simp [events, eq_comm]

/-- A plan has four checks for each resource: at `4 * i + j` stands the `i`-th resource with the `j`-th of the
verbs GET, POST, PUT and DELETE and what the policy owes for them, so plans are joined as their catalogs are. In
a valid configuration the plan has at least 4 and at most 1024 checks and no two of them go by the same path and
verb. So in a run over that plan, in whatever order its tasks go, each verdict and each audit event but that of the
run itself is about one check of the plan. -/
theorem plan_identifies_checks [UrlLibrary] (p : Policy) (catalog more : List Resource) :
    (p.plan catalog).length = 4 * catalog.length ∧
    (∀ i j r v, catalog[i]? = some r → [Verb.get, .post, .put, .delete][j]? = some v →
      (p.plan catalog)[4 * i + j]? = some ⟨r, v, p.evaluate r v⟩) ∧
    p.plan (catalog ++ more) = p.plan catalog ++ p.plan more ∧
    ∀ c : Config, c.validated = .ok c →
      let plan := p.plan c.catalog
      4 ≤ plan.length ∧ plan.length ≤ 1024 ∧
      (plan.map fun check => (check.resource.path, check.verb)).Nodup ∧
      ∀ bound validator exchanges schedule,
        ((Pool.new plan.length bound).after (Matrix.result plan validator exchanges) schedule).isDone = true →
        let r : Results := ⟨Matrix.runAs schedule bound plan validator exchanges, []⟩
        r.verdicts.map Verdict.key = plan.map PlannedCheck.key ∧
        (r.events "matrix run").filterMap AuditEvent.key? = plan.map PlannedCheck.key ∧
        (∀ v ∈ r.verdicts, ∃! check, check ∈ plan ∧ check.key = v.key) ∧
        ∀ e ∈ r.events "matrix run", e ≠ .ofRun "matrix run" r.summary →
          ∃! check, check ∈ plan ∧ e.key? = some check.key := by
  refine ⟨p.length_plan catalog, fun i j r v => Policy.getElem?_plan, p.plan_append catalog more, ?_⟩
  intro c hvalidated plan
  have hc : c.Valid := Config.valid_of_validated hvalidated
  have hlength : plan.length = 4 * c.resources.length := by
    rw [p.length_plan, Config.catalog, List.length_map]
  have hpaths : (c.catalog.map (·.path)).Nodup := by
    rw [Config.catalog, List.map_map]
    exact hc.resources.distinct
  have hkeys : (plan.map PlannedCheck.key).Nodup := Policy.nodup_key_plan hpaths
  obtain ⟨hleast, hmost⟩ := hc.resources.count
  refine ⟨by omega, by omega, hkeys, ?_⟩
  intro bound validator exchanges schedule hdone r
  have hverdicts : r.verdicts.map Verdict.key = plan.map PlannedCheck.key := by
    rw [← Matrix.map_key_settled plan validator exchanges, ← Matrix.runAs_eq_settled hdone]
  have hevents : (r.events "matrix run").filterMap AuditEvent.key? = plan.map PlannedCheck.key := by
    rw [r.filterMap_key?_events, hverdicts]
  have hchecks : ∀ v ∈ r.verdicts, ∃! check, check ∈ plan ∧ check.key = v.key := by
    intro v hv
    apply exists_unique_check hkeys
    rw [← hverdicts]
    exact List.mem_map_of_mem hv
  refine ⟨hverdicts, hevents, hchecks, fun e he hrun => ?_⟩
  obtain ⟨v, hv, rfl⟩ := (Results.mem_events_iff.1 he).resolve_right hrun
  obtain ⟨check, ⟨hcheck, hkey⟩, hunique⟩ := hchecks v hv
  refine ⟨check, ⟨hcheck, congrArg some hkey.symm⟩, ?_⟩
  rintro other ⟨hother, hsame⟩
  exact hunique other ⟨hother, (Option.some.inj hsame).symm⟩

end Conformance
