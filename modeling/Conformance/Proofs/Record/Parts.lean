import Mathlib.Data.List.Nodup
import Conformance.Record.Fields
/-!
# Records by their parts

A closed record is told by its keys, in whatever order they stand: none may be foreign to it, and each of its parts
is told by the value at one key or by its absence. `Record.IsRead` says so of a reader. Such a reader refuses every
table with a foreign key, and whatever is changed at one key matters to one part alone.
-/

namespace Conformance

/-! ## Keys -/

namespace Json

variable {n k : String} {ms : List (String × Json)}

theorem lookup_cons (n : String) (m : String × Json) (ms : List (String × Json)) :
    lookup n (m :: ms) = (lookup n ms).or (if m.1 = n then some m.2 else none) := by
  rw [lookup, List.reverse_cons, List.find?_append, Option.map_or, lookup]
  by_cases h : m.1 = n <;> simp [h]

theorem lookup_eq_none_iff : lookup n ms = none ↔ n ∉ ms.map (·.1) := by
  rw [lookup, Option.map_eq_none_iff, List.find?_eq_none, List.mem_map, not_exists]
  exact forall_congr' fun m => by simp

theorem lookup_filter_ne (n k : String) (ms : List (String × Json)) :
    lookup n (ms.filter fun m => m.1 != k) = if n = k then none else lookup n ms := by
  induction ms with
  | nil => simp [lookup]
  | cons m ms ih =>
    rw [List.filter_cons, lookup_cons n m ms]
    by_cases hm : m.1 = k
    · rw [if_neg (by simp [hm]), ih]
      by_cases hn : n = k
      · rw [if_pos hn, if_pos hn]
      · rw [if_neg hn, if_neg hn, if_neg (by rw [hm]; exact Ne.symm hn), Option.or_none]
    · rw [if_pos (by simpa using hm), lookup_cons, ih]
      by_cases hn : n = k
      · rw [if_pos hn, if_pos hn, if_neg (by rw [hn]; exact hm)]
        rfl
      · rw [if_neg hn, if_neg hn]

theorem lookup_zip_of_notMem {names : List String} (hn : n ∉ names) (xs : List Json) :
    lookup n (names.zip xs) = none := by
  rw [lookup_eq_none_iff, List.mem_map]
  rintro ⟨m, hm, rfl⟩
  exact hn (List.of_mem_zip hm).1

/-- What stands at the place of a name is found under the name. -/
theorem lookup_zip {names : List String} (hnames : names.Nodup) {i : Nat} (hi : names[i]? = some n)
    (xs : List Json) : lookup n (names.zip xs) = xs[i]? := by
  induction names generalizing i xs with
  | nil => cases hi
  | cons name names ih =>
    obtain ⟨hname, hnames⟩ := List.nodup_cons.1 hnames
    cases xs with
    | nil => rfl
    | cons x xs =>
      rw [List.zip_cons_cons, lookup_cons]
      cases i with
      | zero =>
        obtain rfl : name = n := Option.some.inj hi
        rw [lookup_zip_of_notMem hname, if_pos rfl]
        rfl
      | succ i =>
        have hne : name ≠ n := fun h => hname (h ▸ List.mem_of_getElem? hi)
        rw [if_neg hne, Option.or_none]
        exact ih hnames hi xs

end Json

namespace Record

variable {α β : Type} {R : Json → Json → Prop}

/-! ## Changes -/

/-- One table is another with a value put at a key. -/
def Sets (k : String) (x : Json) (ms ms' : List (String × Json)) : Prop :=
  ∀ n, Json.lookup n ms' = if n = k then some x else Json.lookup n ms

theorem sets_cons {k : String} {x : Json} {ms : List (String × Json)} (h : Json.lookup k ms = none) :
    Sets k x ms ((k, x) :: ms) := by
  intro n
  rw [Json.lookup_cons]
  by_cases hn : n = k
  · rw [hn, h, Option.none_or, if_pos rfl]
  · rw [if_neg hn, if_neg (Ne.symm hn), Option.or_none]

theorem sets_head {k : String} {x x' : Json} {ms : List (String × Json)} (h : Json.lookup k ms = none) :
    Sets k x' ((k, x) :: ms) ((k, x') :: ms) := by
  intro n
  rw [sets_cons h n, Json.lookup_cons]
  by_cases hn : n = k
  · rw [if_pos hn, if_pos hn]
  · rw [if_neg hn, if_neg hn, if_neg (Ne.symm hn), Option.or_none]

/-- One field of a record is changed. The record is a table, or the array of its fields in order; a field that a table
leaves out counts as an empty table. -/
inductive AtField (names : List String) (name : String) (R : Json → Json → Prop) : Json → Json → Prop
  | key {ms ms' : List (String × Json)} {x x' : Json} (present : Json.lookup name ms = some x) (inner : R x x')
    (sets : Sets name x' ms ms') : AtField names name R (.object ms) (.object ms')
  | missing {ms ms' : List (String × Json)} {x' : Json} (absent : Json.lookup name ms = none)
    (inner : R (.object []) x') (sets : Sets name x' ms ms') : AtField names name R (.object ms) (.object ms')
  | place {xs : List Json} {i : Nat} {x x' : Json} (named : names[i]? = some name) (present : xs[i]? = some x)
    (inner : R x x') : AtField names name R (.array xs) (.array (xs.set i x'))

/-- One item of an array is changed. -/
inductive AtItem (R : Json → Json → Prop) : Json → Json → Prop
  | intro (before : List Json) {x x' : Json} (behind : List Json) (inner : R x x') :
    AtItem R (.array (before ++ x :: behind)) (.array (before ++ x' :: behind))

/-- How a reader bears a change of what it read before: it reads the same if `kept`, and otherwise nothing. -/
def Bears (kept : Bool) (R : Json → Json → Prop) (read : Json → Option α) : Prop :=
  ∀ v v' a, R v v' → read v = some a → read v' = if kept then some a else none

variable {kept : Bool} {read : Json → Option α}

theorem Bears.map (h : Bears kept R read) (f : α → β) : Bears kept R fun v => (read v).map f := by
  intro v v' b hv hb
  obtain ⟨a, ha, rfl⟩ := Option.map_eq_some_iff.1 hb
  simp only [h v v' a hv ha]
  cases kept <;> rfl

theorem Bears.list (h : Bears kept R read) : Bears kept (AtItem R) (list? read) := by
  rintro _ _ as (@⟨before, x, x', behind, inner⟩) has
  rw [list?, List.mapM_append, List.mapM_cons] at has ⊢
  -- the changed item was read, or the list would not have been
  cases hx : read x with
  | none =>
    rw [hx] at has
    cases hbefore : before.mapM read <;> rw [hbefore] at has <;> cases has
  | some a =>
    rw [hx] at has
    rw [h x x' a inner hx]
    cases kept with
    | true => exact has
    | false => cases before.mapM read <;> rfl

/-! ## Parts -/

/-- A part of a record: the key it stands at, and what the value there, if there is one, tells of the record. -/
structure Part (α : Type) where
  name : String
  tells : Option Json → α → Prop

/-- A part that is read from the value at its key, with what a missing key stands for, if it may be missing. -/
def part (name : String) (read : Json → Option β) (missing : Option β) (get : α → β) : Part α :=
  ⟨name, fun x a => x.elim missing read = some (get a)⟩

/-- A table tells a record. -/
structure Told (parts : List (Part α)) (ms : List (String × Json)) (a : α) : Prop where
  closed : ∀ n, n ∉ parts.map (·.name) → Json.lookup n ms = none
  tells : ∀ p ∈ parts, p.tells (Json.lookup p.name ms) a

/-- A reader reads what a table tells, or the array of its values in the order of the parts. -/
structure IsRead (spare : Spare) (read : Json → Option α) (parts : List (Part α)) : Prop where
  distinct : (parts.map (·.name)).Nodup
  table : ∀ ms a, read (.object ms) = some a ↔ Told parts ms a
  array : ∀ xs a, read (.array xs) = some a ↔
    (spare = .refused → xs.length ≤ parts.length) ∧ Told parts ((parts.map (·.name)).zip xs) a

variable {parts : List (Part α)} {ms ms' : List (String × Json)} {a : α} {spare : Spare}

theorem fields?_object_eq_some_iff {names : List String} :
    fields? names true spare (.object ms) = some ms' ↔ ms = ms' ∧ ∀ n, n ∉ names → Json.lookup n ms = none := by
  have hclosed : (ms.any fun m => !names.contains m.1) = false ↔ ∀ n, n ∉ names → Json.lookup n ms = none := by
    simp only [List.any_eq_false, Json.lookup_eq_none_iff, List.mem_map, not_exists, not_and]
    constructor
    · rintro h n hn m hm rfl
      exact h m hm (by simpa using hn)
    · intro h m hm hforeign
      exact h m.1 (by simpa using hforeign) m hm rfl
  rw [← hclosed, fields?, Bool.true_and]
  cases ms.any fun m => !names.contains m.1 <;> simp

theorem Told.zip {xs : List Json} :
    Told parts ((parts.map (·.name)).zip xs) a ↔
      ∀ p ∈ parts, p.tells (Json.lookup p.name ((parts.map (·.name)).zip xs)) a :=
  ⟨Told.tells, fun h => ⟨fun _ hn => Json.lookup_zip_of_notMem hn xs, h⟩⟩

theorem required?_eq (ms : List (String × Json)) (name : String) (read : Json → Option α) :
    required? ms name read = (Json.lookup name ms).elim none read := by
  rw [required?]
  cases Json.lookup name ms <;> rfl

theorem withDefault?_eq (ms : List (String × Json)) (name : String) (read : Json → Option α) (d : α) :
    withDefault? ms name read d = (Json.lookup name ms).elim (some d) read := by
  rw [withDefault?]
  cases Json.lookup name ms <;> rfl

theorem optional?_eq (ms : List (String × Json)) (name : String) (read : Json → Option α) :
    optional? ms name read = (Json.lookup name ms).elim (some none) fun v => (read v).map some := by
  rw [optional?]
  cases Json.lookup name ms <;> rfl

theorem elim_map {missing : Option α} (f : α → β) (x : Option Json) :
    (x.elim (missing.map f) fun v => (read v).map f) = (x.elim missing read).map f := by
  cases x <;> rfl

theorem isRead_of_fields {rest : List (String × Json) → Option α} (distinct : (parts.map (·.name)).Nodup)
    (hread : ∀ v, read v = (fields? (parts.map (·.name)) true spare v).bind rest)
    (hrest : ∀ ms a, rest ms = some a ↔ ∀ p ∈ parts, p.tells (Json.lookup p.name ms) a) :
    IsRead spare read parts := by
  refine ⟨distinct, fun ms a => ?_, fun xs a => ?_⟩
  · rw [hread, Option.bind_eq_some_iff]
    simp only [fields?_object_eq_some_iff, hrest]
    constructor
    · rintro ⟨_, ⟨rfl, closed⟩, tells⟩
      exact ⟨closed, tells⟩
    · rintro ⟨closed, tells⟩
      exact ⟨ms, ⟨rfl, closed⟩, tells⟩
  · rw [hread, Told.zip, ← hrest, fields?, List.length_map]
    by_cases hlong : spare = .refused ∧ parts.length < xs.length
    · rw [if_pos hlong]
      exact ⟨nofun, fun h => absurd (h.1 hlong.1) (Nat.not_le.2 hlong.2)⟩
    · rw [if_neg hlong, Option.bind_some, iff_and_self]
      exact fun _ hspare => Nat.not_lt.1 fun hlt => hlong ⟨hspare, hlt⟩

/-! ## Members in any order -/

/-- A table has the given members and no others, in whatever order. -/
def HasMembers (members : List (String × Json)) (v : Json) : Prop :=
  ∃ ms, v = .object ms ∧ ∀ n, Json.lookup n ms = Json.lookup n members

theorem Told.congr (h : ∀ n, Json.lookup n ms = Json.lookup n ms') : Told parts ms a ↔ Told parts ms' a := by
  constructor <;> rintro ⟨closed, tells⟩
  · exact ⟨fun n hn => (h n).symm.trans (closed n hn), fun p hp => h p.name ▸ tells p hp⟩
  · exact ⟨fun n hn => (h n).trans (closed n hn), fun p hp => (h p.name).symm ▸ tells p hp⟩

theorem IsRead.read_of_members {v : Json} (h : IsRead spare read parts) (hv : HasMembers ms v) :
    read v = read (.object ms) := by
  obtain ⟨_, rfl, hlookup⟩ := hv
  refine Option.ext fun a => ?_
  rw [h.table, h.table, Told.congr hlookup]

theorem IsRead.list_of_members {mss : List (List (String × Json))} {vs : List Json} (h : IsRead spare read parts)
    (hvs : List.Forall₂ HasMembers mss vs) : list? read (.array vs) = list? read (.array (mss.map .object)) := by
  simp only [list?]
  induction hvs with
  | nil => rfl
  | cons hv _ ih => rw [List.map_cons, List.mapM_cons, List.mapM_cons, h.read_of_members hv, ih]

/-! ## Parts under a change -/

theorem Told.sets {p : Part α} {x' : Json} (h : Told parts ms a) (distinct : (parts.map (·.name)).Nodup)
    (hp : p ∈ parts) (sets : Sets p.name x' ms ms') (tells : p.tells (some x') a) : Told parts ms' a := by
  constructor
  · intro n hn
    have hne : n ≠ p.name := fun heq => hn (heq ▸ List.mem_map_of_mem hp)
    rw [sets, if_neg hne]
    exact h.closed n hn
  · intro q hq
    -- keys are distinct, so another part looks elsewhere
    rw [sets]
    by_cases hname : q.name = p.name
    · rwa [if_pos hname, List.inj_on_of_nodup_map distinct hq hp hname]
    · rw [if_neg hname]
      exact h.tells q hq

theorem not_told_of_foreign {k : String} {x : Json} (hk : k ∉ parts.map (·.name)) (sets : Sets k x ms ms') :
    ¬ Told parts ms' a := by
  intro h
  have hnone := h.closed k hk
  rw [sets, if_pos rfl] at hnone
  cases hnone

/-- The values of a record in array form, under the names of their places. -/
theorem sets_zip_set {names : List String} {xs : List Json} {i : Nat} {name : String} {x' : Json}
    (distinct : names.Nodup) (named : names[i]? = some name) (there : i < xs.length) :
    Sets name x' (names.zip xs) (names.zip (xs.set i x')) := by
  intro n
  by_cases hn : n ∈ names
  · obtain ⟨j, hj⟩ := List.mem_iff_getElem?.1 hn
    rw [Json.lookup_zip distinct hj, Json.lookup_zip distinct hj, List.getElem?_set]
    have hplace : i = j ↔ n = name := by
      obtain ⟨hi, rfl⟩ := List.getElem?_eq_some_iff.1 named
      obtain ⟨hj, rfl⟩ := List.getElem?_eq_some_iff.1 hj
      rw [distinct.getElem_inj_iff, eq_comm]
    simp only [hplace, there, if_true]
  · have hne : n ≠ name := fun h => hn (h ▸ List.mem_of_getElem? named)
    rw [if_neg hne, Json.lookup_zip_of_notMem hn, Json.lookup_zip_of_notMem hn]

variable {name : String} {inner : Json → Option β} {missing : Option β} {get : α → β}

theorem Told.elim_eq (h : Told parts ms a) (hp : part name inner missing get ∈ parts) :
    (Json.lookup name ms).elim missing inner = some (get a) :=
  h.tells _ hp

/-- How a part is read after a change says how the record is. -/
theorem Told.read_of_sets {v' x' : Json} (h : Told parts ms a) (distinct : (parts.map (·.name)).Nodup)
    (hp : part name inner missing get ∈ parts) (sets : Sets name x' ms ms')
    (hread : ∀ a, read v' = some a ↔ Told parts ms' a) (hx : inner x' = if kept then some (get a) else none) :
    read v' = if kept then some a else none := by
  cases kept with
  | true => exact (hread a).2 (h.sets distinct hp sets hx)
  | false =>
    refine Option.eq_none_iff_forall_ne_some.2 fun a' ha' => ?_
    have hsome := ((hread a').1 ha').elim_eq hp
    rw [sets, if_pos rfl, Option.elim_some, hx] at hsome
    cases hsome

/-- The reader of a record bears a change of a field as the reader of the field does. A field that may be left out has
to stand then for what is read from an empty table, unless there is nothing to change in one. -/
theorem IsRead.bears_field (h : IsRead spare read parts) (hp : part name inner missing get ∈ parts)
    (hinner : Bears kept R inner) (hempty : inner (.object []) = missing ∨ ∀ x', ¬ R (.object []) x') :
    Bears kept (AtField (parts.map (·.name)) name R) read := by
  intro v v' a hv ha
  cases hv with
  | @key ms ms' x x' present hx sets =>
    have told := (h.table ms a).1 ha
    have hold := told.elim_eq hp
    rw [present] at hold
    exact told.read_of_sets h.distinct hp sets (h.table ms') (hinner x x' (get a) hx hold)
  | @missing ms ms' x' absent hx sets =>
    -- the field was read as its default, and so it would have been from an empty table
    have told := (h.table ms a).1 ha
    have hold := told.elim_eq hp
    rw [absent] at hold
    have hempty : inner (.object []) = missing := hempty.resolve_right fun hno => hno x' hx
    exact told.read_of_sets h.distinct hp sets (h.table ms') (hinner _ x' (get a) hx (hempty.trans hold))
  | @place xs i x x' named present hx =>
    obtain ⟨hlength, told⟩ := (h.array xs a).1 ha
    have hold := told.elim_eq hp
    rw [Json.lookup_zip h.distinct named, present] at hold
    have hread (a : α) : read (.array (xs.set i x')) = some a ↔
        Told parts ((parts.map (·.name)).zip (xs.set i x')) a := by
      rw [h.array, List.length_set, and_iff_right hlength]
    exact told.read_of_sets h.distinct hp (sets_zip_set h.distinct named (List.getElem?_eq_some_iff.1 present).1)
      hread (hinner x x' (get a) hx hold)

end Record

end Conformance
