import Mathlib.Algebra.GroupWithZero.Nat
import Mathlib.Data.List.Basic
import Conformance.Run.Matrix
/-!
# What a pool comes to

`Moves` sums up what can happen in a pool: a task starts, ends, or is collected. `Sound` is what every
event keeps true, whatever order the events come in. A pool that is not done can always go on, and every
event brings it nearer to its end; a pool that is done holds in each slot what the task of that place
found out.
-/

namespace Conformance

/-- The number of events that are left for a task. -/
def Task.left {α : Type} : Task α → Nat
  | .waiting => 3
  | .working => 2
  | .ended _ => 1
  | .collected => 0

/-- The exchange of the task is over, whether its answer has been collected or not. -/
def Task.hasEnded {α : Type} : Task α → Bool
  | .waiting | .working => false
  | .ended _ | .collected => true

namespace Pool
variable {α : Type} {result : Nat → Option α} {p q : Pool α} {e : Event}

/-! ## One event -/

/-- An event that is possible in a pool, and the pool it leads to. -/
inductive Moves (result : Nat → Option α) : Pool α → Event → Pool α → Prop
  | start {free : Nat} {tasks : List (Task α)} {slots : List (Option α)} {i : Nat}
    (task : tasks[i]? = some .waiting) :
    Moves result ⟨free + 1, tasks, slots⟩ (.start i) ⟨free, tasks.set i .working, slots⟩
  | finish {free : Nat} {tasks : List (Task α)} {slots : List (Option α)} {i : Nat}
    (task : tasks[i]? = some .working) :
    Moves result ⟨free, tasks, slots⟩ (.finish i)
      ⟨free + 1, tasks.set i (.ended ((result i).map fun value => (i, value))), slots⟩
  | collect {free : Nat} {tasks : List (Task α)} {slots : List (Option α)} {i : Nat}
    {answer : Option (Nat × α)} (task : tasks[i]? = some (.ended answer)) :
    Moves result ⟨free, tasks, slots⟩ (.collect i)
      ⟨free, tasks.set i .collected, deliver slots answer⟩

theorem step_eq_some_iff : p.step result e = some q ↔ Moves result p e q := by
  obtain ⟨free, tasks, slots⟩ := p
  constructor
  · intro h
    cases e with
    | start i =>
      simp only [step] at h
      split at h <;> cases h
      exact .start ‹_›
    | finish i =>
      simp only [step] at h
      split at h <;> cases h
      exact .finish ‹_›
    | collect i =>
      simp only [step] at h
      split at h <;> cases h
      exact .collect ‹_›
  · intro h
    cases h with
    | start task | finish task | collect task => simp [step, task]

theorem after_append (p : Pool α) (events more : List Event) :
    p.after result (events ++ more) = (p.after result events).after result more :=
  List.foldl_append

theorem Moves.after_cons (h : Moves result p e q) (events : List Event) :
    p.after result (e :: events) = q.after result events := by
  rw [after, List.foldl_cons, step_eq_some_iff.2 h]
  rfl

/-- What every possible event keeps, any events keep. -/
theorem after_induction {P : Pool α → Prop} (hmoves : ∀ p e q, Moves result p e q → P p → P q)
    (hp : P p) (events : List Event) : P (p.after result events) := by
  induction events generalizing p with
  | nil => exact hp
  | cons e events ih =>
    refine ih (p := (p.step result e).getD p) ?_
    cases h : p.step result e with
    | none => exact hp
    | some q => exact hmoves p e q (step_eq_some_iff.1 h) hp

/-! ## What every pool keeps true -/

theorem permits_pos (bound : Nat) : 0 < permits bound :=
  Nat.lt_of_lt_of_le Nat.one_pos (Nat.le_max_left 1 bound)

/-- Setting a task adds what the new one counts and takes away what the old one counted. -/
theorem sum_map_set (f : Task α → Nat) {tasks : List (Task α)} {i : Nat} {t : Task α}
    (h : tasks[i]? = some t) (u : Task α) :
    ((tasks.set i u).map f).sum + f t = (tasks.map f).sum + f u := by
  induction tasks generalizing i with
  | nil => cases h
  | cons s tasks ih =>
    cases i with
    | zero =>
      obtain rfl : s = t := by simpa using h
      simp only [List.set_cons_zero, List.map_cons, List.sum_cons]
      omega
    | succ i =>
      have := ih (i := i) (by simpa using h)
      simp only [List.set_cons_succ, List.map_cons, List.sum_cons]
      omega

theorem working_eq_sum (p : Pool α) : p.working = (p.tasks.map fun t => t.isWorking.toNat).sum := by
  rw [working]
  induction p.tasks with
  | nil => rfl
  | cons t tasks ih => cases h : t.isWorking <;> simp [h, ih, Nat.add_comm]

/-- What holds in a pool of `size` tasks and `permits` permits. -/
structure Sound (result : Nat → Option α) (size permits : Nat) (p : Pool α) : Prop where
  length_tasks : p.tasks.length = size
  length_slots : p.slots.length = size
  /-- a permit is free, or a task that works holds it -/
  permits : p.working + p.free = permits
  /-- a task carries the answer for its own place -/
  answers : ∀ i answer, p.tasks[i]? = some (.ended answer) → answer = (result i).map fun value => (i, value)
  /-- a slot is empty until the task of its place has been collected -/
  slots : ∀ i t, p.tasks[i]? = some t → p.slots[i]? = some (if t.isCollected then result i else none)

theorem sound_new (result : Nat → Option α) (size bound : Nat) :
    (new size bound).Sound result size (permits bound) where
  length_tasks := by simp [new]
  length_slots := by simp [new]
  permits := by simp [new, working, List.countP_replicate, Task.isWorking]
  answers i answer h := by simp [new, List.getElem?_replicate] at h
  slots i t h := by
    simp only [new, List.getElem?_replicate, Option.ite_none_right_eq_some, Option.some.injEq] at h ⊢
    obtain ⟨hi, rfl⟩ := h
    exact ⟨hi, rfl⟩

section Sound
variable {size permits : Nat}

/-- Sound pools stay sound when the task of one place moves on and the slots of the other places stay as
they are. -/
theorem Sound.set {i free : Nat} {t u : Task α} {slots : List (Option α)}
    (hp : p.Sound result size permits) (ht : p.tasks[i]? = some t)
    (hfree : free + u.isWorking.toNat = p.free + t.isWorking.toNat)
    (hanswer : ∀ answer, u = .ended answer → answer = (result i).map fun value => (i, value))
    (hlength : slots.length = size)
    (hslot : slots[i]? = some (if u.isCollected then result i else none))
    (hothers : ∀ j, i ≠ j → slots[j]? = p.slots[j]?) :
    Sound result size permits ⟨free, p.tasks.set i u, slots⟩ := by
  have hi : i < p.tasks.length := (List.getElem?_eq_some_iff.1 ht).1
  constructor
  case length_tasks => rw [List.length_set, hp.length_tasks]
  case length_slots => exact hlength
  case permits =>
    have hsum := sum_map_set (fun t => t.isWorking.toNat) ht u
    have hpermits := hp.permits
    rw [working_eq_sum] at hpermits ⊢
    simp only at hsum ⊢
    omega
  case answers =>
    intro j answer hj
    by_cases hij : i = j
    · subst hij
      rw [List.getElem?_set_self hi, Option.some.injEq] at hj
      exact hanswer answer hj
    · rw [List.getElem?_set_ne hij] at hj
      exact hp.answers j answer hj
  case slots =>
    intro j s hj
    by_cases hij : i = j
    · subst hij
      rw [List.getElem?_set_self hi, Option.some.injEq] at hj
      exact hj ▸ hslot
    · rw [List.getElem?_set_ne hij] at hj
      rw [hothers j hij]
      exact hp.slots j s hj

theorem Sound.moves (hp : p.Sound result size permits) (h : Moves result p e q) :
    q.Sound result size permits := by
  cases h with
  | start task =>
    have hslot := hp.slots _ _ task
    exact hp.set task rfl (by simp) hp.length_slots hslot fun _ _ => rfl
  | finish task =>
    have hslot := hp.slots _ _ task
    refine hp.set task rfl ?_ hp.length_slots hslot fun _ _ => rfl
    rintro answer ⟨⟩
    rfl
  | @collect free tasks slots i answer task =>
    have hslot : slots[i]? = some none := hp.slots i _ task
    have hi : i < slots.length := (List.getElem?_eq_some_iff.1 hslot).1
    obtain rfl := hp.answers i answer task
    cases hresult : result i with
    | none =>
      -- the task died: its slot stays empty
      exact hp.set task rfl (by simp) hp.length_slots (hslot.trans (by rw [hresult]; rfl)) fun _ _ => rfl
    | some value =>
      refine hp.set task rfl (by simp) ?_ ?_ fun j hij => List.getElem?_set_ne hij
      · exact List.length_set.trans hp.length_slots
      · exact (List.getElem?_set_self hi).trans (by rw [hresult]; rfl)

theorem sound_after (result : Nat → Option α) (size bound : Nat) (events : List Event) :
    ((new size bound).after result events).Sound result size (Pool.permits bound) :=
  after_induction (fun _ _ _ h hp => hp.moves h) (sound_new result size bound) events

/-! ## How a pool ends -/

/-- A pool that is done holds in each slot what the task of its place found out. -/
theorem Sound.slots_of_isDone (hp : p.Sound result size permits) (hdone : p.isDone = true) :
    p.slots = (List.range size).map result := by
  refine List.ext_getElem? fun i => ?_
  by_cases hi : i < size
  · obtain ⟨t, ht⟩ : ∃ t, p.tasks[i]? = some t := ⟨_, List.getElem?_eq_getElem (hp.length_tasks ▸ hi)⟩
    have hcollected : t.isCollected = true := List.all_eq_true.1 hdone t (List.mem_of_getElem? ht)
    rw [hp.slots i t ht, if_pos hcollected]
    simp [hi]
  · rw [List.getElem?_eq_none (by rw [hp.length_slots]; omega), List.getElem?_eq_none (by simp; omega)]

/-- A task that has not ended can take a permit, or a task that works can end: nobody waits for a permit that
nobody gives back. -/
theorem Sound.start_or_finish (hp : p.Sound result size permits) (hpermits : 0 < permits) {i : Nat}
    {t : Task α} (ht : p.tasks[i]? = some t) (hended : t.hasEnded = false) :
    (∃ q, Moves result p (.start i) q) ∨
      ∃ (j : Nat) (q : Pool α), p.tasks[j]? = some .working ∧ Moves result p (.finish j) q := by
  obtain ⟨free, tasks, slots⟩ := p
  cases t with
  | ended | collected => cases hended
  | working => exact .inr ⟨i, _, ht, .finish ht⟩
  | waiting =>
    cases free with
    | succ free => exact .inl ⟨_, .start ht⟩
    | zero =>
      -- all permits are held, so some task works and can end
      have hworking : 0 < tasks.countP Task.isWorking := by
        have := hp.permits
        simp only [working] at this
        omega
      obtain ⟨u, hu, hw⟩ := List.countP_pos_iff.1 hworking
      obtain ⟨j, hj⟩ := List.mem_iff_getElem?.1 hu
      cases u with
      | working => exact .inr ⟨j, _, hj, .finish hj⟩
      | _ => cases hw

/-- As long as a task is left, something can happen. -/
theorem Sound.exists_moves (hp : p.Sound result size permits) (hpermits : 0 < permits)
    (hdone : p.isDone = false) : ∃ e q, Moves result p e q := by
  obtain ⟨t, ht, hleft⟩ : ∃ t ∈ p.tasks, t.isCollected = false := by simpa [isDone] using hdone
  obtain ⟨i, hi⟩ := List.mem_iff_getElem?.1 ht
  cases t with
  | collected => cases hleft
  | ended answer => exact ⟨_, _, .collect hi⟩
  | working | waiting =>
    rcases hp.start_or_finish hpermits hi rfl with ⟨q, h⟩ | ⟨j, q, -, h⟩ <;> exact ⟨_, q, h⟩

/-- The number of events that are left for the tasks of a pool. -/
def left (p : Pool α) : Nat := (p.tasks.map Task.left).sum

theorem Moves.left_eq (h : Moves result p e q) : p.left = q.left + 1 := by
  cases h with
  | start task => exact Nat.add_right_cancel (sum_map_set Task.left task .working).symm
  | finish task => exact Nat.add_right_cancel (sum_map_set Task.left task (.ended _)).symm
  | collect task => exact Nat.add_right_cancel (sum_map_set Task.left task .collected).symm

/-- Whatever has happened in a pool, it can be brought to its end. -/
theorem Sound.exists_isDone (hp : p.Sound result size permits) (hpermits : 0 < permits) :
    ∃ events, (p.after result events).isDone = true := by
  -- by induction on the events that are left, of which each that happens takes one away
  induction hn : p.left using Nat.strongRecOn generalizing p with
  | ind n ih =>
    cases hdone : p.isDone with
    | true => exact ⟨[], hdone⟩
    | false =>
      obtain ⟨e, q, h⟩ := hp.exists_moves hpermits hdone
      have hless : q.left < n := by
        have := h.left_eq
        omega
      obtain ⟨events, hevents⟩ := ih q.left hless (hp.moves h) rfl
      exact ⟨e :: events, by rwa [h.after_cons]⟩

end Sound

/-! ## One task after the other -/

/-- A task that waits while a permit is free can be brought to its end at once. -/
theorem after_task (result : Nat → Option α) {i : Nat} (hfree : 0 < p.free)
    (task : p.tasks[i]? = some .waiting) :
    let q := p.after result [.start i, .finish i, .collect i]
    q.free = p.free ∧ q.tasks = p.tasks.set i .collected := by
  obtain ⟨free, tasks, slots⟩ := p
  cases free with
  | zero => exact absurd hfree (Nat.lt_irrefl 0)
  | succ free =>
    have hi : i < tasks.length := (List.getElem?_eq_some_iff.1 task).1
    have hworking : (tasks.set i .working)[i]? = some .working := List.getElem?_set_self hi
    have hended (answer : Option (Nat × α)) :
        ((tasks.set i .working).set i (.ended answer))[i]? = some (.ended answer) :=
      List.getElem?_set_self (by rwa [List.length_set])
    rw [(Moves.start task).after_cons, (Moves.finish hworking).after_cons, (Moves.collect (hended _)).after_cons,
      List.set_set, List.set_set]
    exact ⟨rfl, rfl⟩

theorem inOrder_succ (size : Nat) :
    inOrder (size + 1) = inOrder size ++ [.start size, .finish size, .collect size] := by
  simp [inOrder, List.range_succ]

/-- The first `k` tasks have been collected, the others wait, and every permit is free. -/
theorem after_inOrder (result : Nat → Option α) (bound : Nat) {size k : Nat} (hk : k ≤ size) :
    let p := (new size bound).after result (inOrder k)
    p.free = permits bound ∧
      ∀ i < size, p.tasks[i]? = some (if i < k then .collected else .waiting) := by
  induction k with
  | zero => exact ⟨rfl, fun i hi => by simp [inOrder, after, new, hi]⟩
  | succ k ih =>
    obtain ⟨hfree, htasks⟩ := ih (Nat.le_of_succ_le hk)
    have hwaiting := htasks k hk
    rw [if_neg (Nat.lt_irrefl k)] at hwaiting
    obtain ⟨hfree', htasks'⟩ := after_task result (hfree ▸ permits_pos bound) hwaiting
    rw [inOrder_succ, after_append]
    refine ⟨hfree'.trans hfree, fun i hi => ?_⟩
    rw [htasks']
    by_cases hik : k = i
    · subst hik
      rw [List.getElem?_set_self (List.getElem?_eq_some_iff.1 hwaiting).1, if_pos (Nat.lt_succ_self k)]
    · rw [List.getElem?_set_ne hik, htasks i hi]
      simp only [show i < k + 1 ↔ i < k by omega]

theorem isDone_inOrder (result : Nat → Option α) (size bound : Nat) :
    ((new size bound).after result (inOrder size)).isDone = true := by
  have hp := sound_after result size bound (inOrder size)
  obtain ⟨-, htasks⟩ := after_inOrder result bound (Nat.le_refl size)
  refine List.all_eq_true.2 fun t ht => ?_
  obtain ⟨i, hi⟩ := List.mem_iff_getElem?.1 ht
  have hlt : i < size := hp.length_tasks ▸ (List.getElem?_eq_some_iff.1 hi).1
  rw [htasks i hlt, if_pos hlt] at hi
  exact Option.some.inj hi ▸ rfl

end Pool

end Conformance
