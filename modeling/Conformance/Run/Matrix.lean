import Conformance.Verdict.Comparison
/-!
# Running the matrix

Every planned check is one exchange, and the exchanges of a plan run in a bounded pool. The pool holds one task for
every place of the plan. A task waits for a permit, works while it holds one, and gives it back when it ends. Tasks
that have ended are collected, each once. An answer carries the place it is for and goes into the slot of that
place; a task that died leaves nothing behind, not even its place, so no slot is filled for it. Tasks may start, end
and be collected in any order the permits allow.

Verdicts come out in plan order. An exchange that failed, or whose task died, leaves its check inconclusive.
-/

namespace Conformance

/-! ## Bounded pools of tasks -/

/-- Where a task stands. -/
inductive Task (α : Type) where
  | waiting
  | working
  /-- not collected yet; without an answer if the task died -/
  | ended (answer : Option (Nat × α))
  | collected
deriving DecidableEq, Repr

namespace Task

/-- Holds a permit. -/
def isWorking : Task α → Bool
  | .working => true
  | _ => false

/-- Nothing is left to be done about the task. -/
def isCollected : Task α → Bool
  | .collected => true
  | _ => false

end Task

/-- The tasks of a plan, the permits nobody holds, and the answers that have been collected. -/
structure Pool (α : Type) where
  free : Nat
  tasks : List (Task α)
  slots : List (Option α)
deriving DecidableEq, Repr

namespace Pool

/-- What can happen to a task. -/
inductive Event where
  /-- the task at a place takes a permit -/
  | start (place : Nat)
  /-- the task at a place ends, in whatever way -/
  | finish (place : Nat)
  /-- the task at a place is collected -/
  | collect (place : Nat)
deriving DecidableEq, Repr

/-- The number of permits; at least one, so that the tasks can end. -/
def permits (bound : Nat) : Nat := max 1 bound

/-- A pool of waiting tasks. -/
def new (size bound : Nat) : Pool α :=
  ⟨permits bound, List.replicate size .waiting, List.replicate size none⟩

/-- The most permits there can be: three bits of a word are not there to count them. -/
def maxPermits : Nat := (UInt64.size - 1) / 8

/-- A pool of waiting tasks. Asking for more permits than there can be is a panic, and no pool comes of it. -/
def new? (size bound : Nat) : Option (Pool α) := if permits bound ≤ maxPermits then some (new size bound) else none

theorem new?_eq_some (size : Nat) {bound : Nat} (h : bound ≤ maxPermits) :
    new? size bound = some (new size bound : Pool α) :=
  if_pos (Nat.max_le.2 ⟨by decide, h⟩)

/-- Puts an answer into the slot of its place. -/
def deliver (slots : List (Option α)) : Option (Nat × α) → List (Option α)
  | some (place, value) => slots.set place (some value)
  | none => slots

/-- The pool after an event; none if the event is not possible. `result` is what the task at a place
finds out before it ends; none if it dies. -/
def step (result : Nat → Option α) (p : Pool α) : Event → Option (Pool α)
  | .start i =>
    match p.free, p.tasks[i]? with
    | free + 1, some .waiting => some { p with free := free, tasks := p.tasks.set i .working }
    | _, _ => none
  | .finish i =>
    match p.tasks[i]? with
    | some .working =>
      some { p with
        free := p.free + 1
        tasks := p.tasks.set i (.ended ((result i).map fun value => (i, value))) }
    | _ => none
  | .collect i =>
    match p.tasks[i]? with
    | some (.ended answer) =>
      some { p with tasks := p.tasks.set i .collected, slots := deliver p.slots answer }
    | _ => none

/-- The pool after events; those that are not possible change nothing. -/
def after (result : Nat → Option α) (p : Pool α) (events : List Event) : Pool α :=
  events.foldl (fun p e => (p.step result e).getD p) p

/-- The number of tasks that hold a permit. -/
def working (p : Pool α) : Nat := p.tasks.countP Task.isWorking

/-- Every task has been collected. -/
def isDone (p : Pool α) : Bool := p.tasks.all Task.isCollected

/-- One task after the other. -/
def inOrder (size : Nat) : List Event :=
  (List.range size).flatMap fun i => [.start i, .finish i, .collect i]

end Pool

/-! ## Verdicts of a plan -/

/-- The verdict an exchange leads to; none if its task died. -/
def PlannedCheck.conclude (check : PlannedCheck) (validator : Validator) : Exchange → Option Verdict
  | .answered response => some (check.verdict response validator)
  | .failed failure => some (.inconclusive check failure)
  | .died => none

/-- The failure of a check whose task died. -/
def TransportFailure.lost : TransportFailure := ⟨.other, "exchange task ended without a verdict"⟩

namespace Matrix

/-- What the task at a place of a plan finds out, given how the exchanges end. -/
def result (plan : List PlannedCheck) (validator : Validator) (exchanges : Nat → Exchange) (i : Nat) :
    Option Verdict :=
  plan[i]?.bind fun check => check.conclude validator (exchanges i)

/-- The verdicts in the slots of a plan, an empty slot standing for a task that died. -/
def collect (plan : List PlannedCheck) (slots : List (Option Verdict)) : List Verdict :=
  List.zipWith (fun check slot => slot.getD (.inconclusive check .lost)) plan slots

/-- The verdicts of a plan whose tasks start, end and are collected as the events say. -/
def runAs (events : List Pool.Event) (bound : Nat) (plan : List PlannedCheck) (validator : Validator)
    (exchanges : Nat → Exchange) : List Verdict :=
  collect plan
    ((Pool.new plan.length bound).after (result plan validator exchanges) events).slots

/-- The verdicts of a plan whose tasks start, end and are collected as the events say; none if that is a panic. -/
def runAs? (events : List Pool.Event) (bound : Nat) (plan : List PlannedCheck) (validator : Validator)
    (exchanges : Nat → Exchange) : Option (List Verdict) :=
  (Pool.new? plan.length bound).map fun pool => collect plan (pool.after (result plan validator exchanges) events).slots

theorem runAs?_eq_some {bound : Nat} (h : bound ≤ Pool.maxPermits) (events : List Pool.Event)
    (plan : List PlannedCheck) (validator : Validator) (exchanges : Nat → Exchange) :
    runAs? events bound plan validator exchanges = some (runAs events bound plan validator exchanges) := by
  rw [runAs?, Pool.new?_eq_some plan.length h]
  rfl

/-- The verdicts of a plan. -/
def run (bound : Nat) (plan : List PlannedCheck) (validator : Validator) (exchanges : Nat → Exchange) :
    List Verdict :=
  runAs (Pool.inOrder plan.length) bound plan validator exchanges

end Matrix

end Conformance
