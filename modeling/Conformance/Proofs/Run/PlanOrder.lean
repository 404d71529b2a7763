import Conformance.Proofs.Run.Pool
/-!
# Verdicts in plan order

The verdicts of a plan are those of its checks taken one by one, in the order of the plan. Neither the
number of permits nor the order in which tasks start, end and are collected has a part in them, and a check
whose exchange brought no response back stays inconclusive.

A pool neither loses a permit nor makes one up: those that are held and those that are free are together the
ones it was given. So no more exchanges are under way than there are permits, and since there is always one,
a task that waits is never left behind by tasks that wait as well.
-/

namespace Conformance

/-! ## Verdicts -/

/-- The verdict on a check, given how its exchange ended. -/
def PlannedCheck.settle (check : PlannedCheck) (validator : Validator) : Exchange → Verdict
  | .answered response => check.verdict response validator
  | .failed failure => .inconclusive check failure
  | .died => .inconclusive check .lost

section Settle
variable {check : PlannedCheck} {validator : Validator} {x : Exchange}

theorem PlannedCheck.getD_conclude :
    (check.conclude validator x).getD (.inconclusive check .lost) = check.settle validator x := by
  cases x <;> rfl

/-- Without a response a check is inconclusive, and its verdict says nothing about a response. -/
theorem PlannedCheck.settle_of_no_response (check : PlannedCheck) (validator : Validator)
    (hx : ∀ r, x ≠ .answered r) :
    ∃ failure, check.settle validator x = .inconclusive check failure := by
  cases x with
  | answered r => exact absurd rfl (hx r)
  | failed failure => exact ⟨failure, rfl⟩
  | died => exact ⟨.lost, rfl⟩

end Settle

namespace Matrix
variable {bound : Nat} {plan : List PlannedCheck} {validator : Validator} {exchanges : Nat → Exchange}

/-- The verdicts of a plan, check by check. -/
def settled (plan : List PlannedCheck) (validator : Validator) (exchanges : Nat → Exchange) : List Verdict :=
  plan.mapIdx fun k check => check.settle validator (exchanges k)

theorem getElem?_settled {k : Nat} {check : PlannedCheck} (h : plan[k]? = some check) :
    (settled plan validator exchanges)[k]? = some (check.settle validator (exchanges k)) := by
  rw [settled, List.getElem?_mapIdx, h]
  rfl

theorem collect_result :
    collect plan ((List.range plan.length).map (result plan validator exchanges)) =
      settled plan validator exchanges := by
  refine List.ext_getElem? fun k => ?_
  rw [collect, List.getElem?_zipWith, List.getElem?_map]
  cases hk : plan[k]? with
  | none => simp [settled, hk]
  | some check =>
    have hlt : k < plan.length := (List.getElem?_eq_some_iff.1 hk).1
    rw [getElem?_settled hk, List.getElem?_range hlt, Option.map_some, result, hk, Option.bind_some]
    exact congrArg some PlannedCheck.getD_conclude

theorem runAs_eq_settled {events : List Pool.Event}
    (hdone : ((Pool.new plan.length bound).after (result plan validator exchanges) events).isDone = true) :
    runAs events bound plan validator exchanges = settled plan validator exchanges := by
  rw [runAs, (Pool.sound_after _ _ _ _).slots_of_isDone hdone, collect_result]

/-- With no more permits than there can be, a pool is made for the tasks of a plan. Whatever order they start, end and
are collected in: they can always be brought to their end, every event brings them nearer to it, and then there is one
verdict for every check, in plan order. It is the verdict on the response of that check where there was one, and else
it is inconclusive. -/
theorem verdicts_in_plan_order (bound : Nat) (hbound : bound ≤ Pool.maxPermits) (plan : List PlannedCheck)
    (validator : Validator) (exchanges : Nat → Exchange) (events : List Pool.Event) :
    let result := result plan validator exchanges
    let pool := (Pool.new plan.length bound).after result events
    let verdicts := settled plan validator exchanges
    Pool.new? plan.length bound = some (Pool.new plan.length bound : Pool Verdict) ∧
    (∃ more, (pool.after result more).isDone = true) ∧
    (∀ e q, pool.step result e = some q → q.left < pool.left) ∧
    (pool.isDone = true → runAs? events bound plan validator exchanges = some verdicts) ∧
    run bound plan validator exchanges = verdicts ∧
    verdicts.length = plan.length ∧
    ∀ k check, plan[k]? = some check → ∃ v, verdicts[k]? = some v ∧
      (∀ r, exchanges k = .answered r → v = check.verdict r validator) ∧
      (∀ failure, exchanges k = .failed failure → v = .inconclusive check failure) ∧
      ((∀ r, exchanges k ≠ .answered r) → ∃ failure, v = .inconclusive check failure ∧
        v.outcome = .inconclusive failure ∧ v.observedStatus = none ∧ v.notes = []) := by
  intro result pool verdicts
  have hpool : pool.Sound result plan.length (Pool.permits bound) := Pool.sound_after _ _ _ _
  have hmade : Pool.new? plan.length bound = some (Pool.new plan.length bound : Pool Verdict) :=
    Pool.new?_eq_some plan.length hbound
  refine ⟨hmade, hpool.exists_isDone (Pool.permits_pos bound), ?_, ?_, ?_, ?_, ?_⟩
  · intro e q h
    rw [(Pool.step_eq_some_iff.1 h).left_eq]
    exact Nat.lt_succ_self q.left
  · intro hdone
    rw [runAs?_eq_some hbound, runAs_eq_settled hdone]
  · exact runAs_eq_settled (Pool.isDone_inOrder result plan.length bound)
  · exact List.length_mapIdx
  · intro k check hk
    refine ⟨_, getElem?_settled hk, ?_, ?_, ?_⟩
    · intro r hr
      rw [hr]
      rfl
    · intro failure hf
      rw [hf]
      rfl
    · intro hnone
      obtain ⟨failure, hfailure⟩ := check.settle_of_no_response validator hnone
      rw [hfailure]
      exact ⟨failure, rfl, rfl, rfl, rfl⟩

/-- The four checks of the root page. -/
def samplePlan : List PlannedCheck := Policy.standard.plan [⟨"/", "text/html", 200⟩]

/-- The first check is answered as it should be, the second runs out of time, and the tasks of the others die. -/
def sampleExchanges : Nat → Exchange
  | 0 => .answered
    (.ofParts 200 ⟨("Content-Type", "text/html") :: SecurityHeader.contract.map fun h => (h.name, h.value)⟩ .empty)
  | 1 => .failed ⟨.timeout, "no answer"⟩
  | _ => .died

/-- Four tasks on two permits, the first of them the last to end. -/
def sampleEvents : List Pool.Event :=
  [.start 2, .start 0, .start 1, .finish 2, .start 3, .finish 3, .collect 3, .start 1, .finish 1, .collect 2,
    .collect 1, .finish 0, .collect 0]

theorem verdicts_in_plan_order_sample :
    2 ≤ Pool.maxPermits ∧
    runAs? sampleEvents 2 samplePlan .idle sampleExchanges = some (settled samplePlan .idle sampleExchanges) ∧
    (settled samplePlan .idle sampleExchanges).map (·.outcome) =
      [.pass, .inconclusive ⟨.timeout, "no answer"⟩, .inconclusive .lost, .inconclusive .lost] := by
  obtain ⟨-, -, -, hruns, -⟩ := verdicts_in_plan_order 2 (by decide) samplePlan .idle sampleExchanges sampleEvents
  exact ⟨by decide, hruns (by decide +kernel), by decide +kernel⟩

end Matrix

/-! ## Permits -/

namespace Pool
variable {α : Type} {result : Nat → Option α} {p : Pool α} {size permits : Nat}

theorem Sound.working_le (hp : p.Sound result size permits) : p.working ≤ permits :=
  hp.permits ▸ Nat.le_add_right p.working p.free

/-- However a task that works ends, its permit is free again. -/
theorem Sound.finish (hp : p.Sound result size permits) {i : Nat} (task : p.tasks[i]? = some .working) :
    ∃ q, Moves result p (.finish i) q ∧ q.working + 1 = p.working ∧ q.free = p.free + 1 := by
  obtain ⟨q, hq, hfree⟩ : ∃ q, Moves result p (.finish i) q ∧ q.free = p.free + 1 := ⟨_, .finish task, rfl⟩
  refine ⟨q, hq, ?_, hfree⟩
  have hbefore := hp.permits
  have hbehind := (hp.moves hq).permits
  omega

end Pool

namespace Matrix

/-- With no more permits than there can be, a pool is made for the tasks of a plan. Whatever order they start, end and
are collected in, and whichever of them die: at most as many exchanges are under way as there are permits, of which
there is one even if none was asked for; the permits that are held and those that are free are always all of them; a
task gives its permit back when its exchange ends, in whatever way; and as long as the exchange of some task is not
over, that task can start or a task whose exchange is under way can end. A task that has not been put into the pool
yet is no different from one that waits. -/
theorem permits_conserved (bound : Nat) (hbound : bound ≤ Pool.maxPermits) (plan : List PlannedCheck)
    (validator : Validator) (exchanges : Nat → Exchange) (events : List Pool.Event) :
    let result := result plan validator exchanges
    let pool := (Pool.new plan.length bound).after result events
    Pool.new? plan.length bound = some (Pool.new plan.length bound : Pool Verdict) ∧
    pool.working ≤ max 1 bound ∧
    pool.working + pool.free = max 1 bound ∧
    (∀ i, pool.tasks[i]? = some .working →
      ∃ q, pool.step result (.finish i) = some q ∧ q.working + 1 = pool.working ∧ q.free = pool.free + 1) ∧
    ∀ i t, pool.tasks[i]? = some t → t.hasEnded = false →
      (∃ q, pool.step result (.start i) = some q) ∨
        ∃ (j : Nat) (q : Pool Verdict), pool.tasks[j]? = some .working ∧
          pool.step result (.finish j) = some q := by
  intro result pool
  have hpool : pool.Sound result plan.length (Pool.permits bound) := Pool.sound_after _ _ _ _
  simp only [Pool.step_eq_some_iff]
  refine ⟨Pool.new?_eq_some plan.length hbound, hpool.working_le, hpool.permits, ?_, ?_⟩
  · exact fun i task => hpool.finish task
  · exact fun i t ht hended => hpool.start_or_finish (Pool.permits_pos bound) ht hended

/-- Of the four tasks one works, although no permit was asked for, and when it dies its permit is free again. -/
theorem permits_conserved_sample :
    let pool := (Pool.new 4 0).after (result samplePlan .idle sampleExchanges) [.start 2, .start 0]
    0 ≤ Pool.maxPermits ∧ pool.working = 1 ∧ pool.tasks[2]? = some .working ∧
    ∃ q, pool.step (result samplePlan .idle sampleExchanges) (.finish 2) = some q ∧ q.working = 0 ∧ q.free = 1 := by
  intro pool
  have hworking : pool.tasks[2]? = some .working := by decide +kernel
  obtain ⟨-, hle, hall, hfinish, -⟩ := permits_conserved 0 (by decide) samplePlan .idle sampleExchanges
    [.start 2, .start 0]
  obtain ⟨q, hq, hheld, hfree⟩ := hfinish 2 hworking
  have hone : pool.working = 1 := by decide +kernel
  have hnone : pool.free = 0 := by decide +kernel
  exact ⟨by decide, hone, hworking, q, hq, Nat.succ.inj (hheld.trans hone), hfree.trans (congrArg (· + 1) hnone)⟩

end Matrix

end Conformance
