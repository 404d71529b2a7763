/-!
# Maps in the order of their keys

A map is the list of its entries in ascending order of the keys, each key once, so two maps with the
same entries are equal. `rekey` gathers a map again under other keys; where keys fall together the last
value is kept.
-/

namespace Conformance

/-- Values under keys: the entries in ascending order of the keys, each key once. -/
structure KeyMap (κ : Type) [LT κ] (α : Type) where
  entries : List (κ × α)
  ascending : entries.Pairwise fun a b => a.1 < b.1
deriving Repr

namespace KeyMap

variable {κ κ' α : Type} [LT κ] [LT κ']

theorem ext {m m' : KeyMap κ α} (h : m.entries = m'.entries) : m = m' := by
  cases m
  cases m'
  cases h
  rfl

instance [DecidableEq κ] [DecidableEq α] : DecidableEq (KeyMap κ α) := fun _ _ =>
  decidable_of_iff _ ⟨ext, congrArg entries⟩

/-- The map without entries. -/
def empty : KeyMap κ α := ⟨[], .nil⟩

/-- The value under a key in a list of entries. -/
def find? [DecidableEq κ] (k : κ) (es : List (κ × α)) : Option α :=
  (es.find? fun e => e.1 = k).map (·.2)

/-- The value under a key. -/
def get? [DecidableEq κ] (m : KeyMap κ α) (k : κ) : Option α := find? k m.entries

theorem mem_entries_iff [DecidableEq κ] [LE κ] [Std.LawfulOrderLT κ] {m : KeyMap κ α} {k : κ} {v : α} :
    (k, v) ∈ m.entries ↔ m.get? k = some v := by
  obtain ⟨es, hes⟩ := m
  simp only [get?, find?, Option.map_eq_some_iff]
  constructor
  · intro h
    induction es with
    | nil => cases h
    | cons d rest ih =>
      obtain ⟨hd, hrest⟩ := List.pairwise_cons.1 hes
      rcases List.mem_cons.1 h with rfl | h
      · exact ⟨(k, v), by simp, rfl⟩
      · have hne : d.1 ≠ k := fun he => Std.lt_irrefl (he ▸ hd _ h)
        simpa [hne] using ih hrest h
  · rintro ⟨e, he, rfl⟩
    have hk := List.find?_some he
    simp only [decide_eq_true_eq] at hk
    exact hk ▸ List.mem_of_find?_eq_some he

/-! ## Setting a value -/

section Insert
variable [DecidableEq κ] [DecidableLT κ]

/-- Puts a value under a key into a list of entries, in place of the one that was there. -/
def insert (k : κ) (v : α) : List (κ × α) → List (κ × α)
  | [] => [(k, v)]
  | e :: rest =>
    if k < e.1 then (k, v) :: e :: rest
    else if e.1 = k then (k, v) :: rest
    else e :: insert k v rest

theorem mem_of_mem_insert {k : κ} {v : α} {e : κ × α} {es : List (κ × α)} (h : e ∈ insert k v es) :
    e = (k, v) ∨ e ∈ es := by
  induction es with
  | nil => simpa [insert] using h
  | cons d rest ih => grind [insert]

theorem find?_insert (k l : κ) (v : α) (es : List (κ × α)) :
    find? l (insert k v es) = if k = l then some v else find? l es := by
  induction es with
  | nil => by_cases h : k = l <;> simp [find?, insert, h]
  | cons d rest ih =>
    simp only [find?] at ih
    grind [find?, insert]

end Insert

section Set
variable [DecidableEq κ] [DecidableLT κ] [LE κ] [Std.IsLinearOrder κ] [Std.LawfulOrderLT κ]

theorem ascending_insert (k : κ) (v : α) {es : List (κ × α)} (h : es.Pairwise fun a b => a.1 < b.1) :
    (insert k v es).Pairwise fun a b => a.1 < b.1 := by
  induction es with
  | nil => simp [insert]
  | cons d rest ih =>
    obtain ⟨hd, hrest⟩ := List.pairwise_cons.1 h
    rw [insert]
    split
    · refine List.pairwise_cons.2 ⟨fun e he => ?_, h⟩
      rcases List.mem_cons.1 he with rfl | he
      · assumption
      · exact Std.lt_trans ‹_› (hd e he)
    · split
      · subst k
        exact List.pairwise_cons.2 ⟨hd, hrest⟩
      · refine List.pairwise_cons.2 ⟨fun e he => ?_, ih hrest⟩
        rcases mem_of_mem_insert he with rfl | he
        · grind
        · exact hd e he

/-- The map with a value put under a key. -/
def set (m : KeyMap κ α) (k : κ) (v : α) : KeyMap κ α :=
  ⟨insert k v m.entries, ascending_insert k v m.ascending⟩

theorem get?_set (m : KeyMap κ α) (k l : κ) (v : α) :
    (m.set k v).get? l = if k = l then some v else m.get? l :=
  find?_insert k l v m.entries

/-- A key beyond all others goes to the end. -/
theorem insert_of_forall_lt {k : κ} (v : α) {es : List (κ × α)} (h : ∀ e ∈ es, e.1 < k) :
    insert k v es = es ++ [(k, v)] := by
  induction es with
  | nil => rfl
  | cons d rest ih =>
    have hd := h d List.mem_cons_self
    rw [insert, if_neg (Std.not_lt.2 (Std.le_of_lt hd)), if_neg (Std.ne_of_lt hd),
      ih fun e he => h e (List.mem_cons_of_mem _ he), List.cons_append]

end Set

/-! ## Other keys -/

section Rekey
variable [DecidableEq κ'] [DecidableLT κ'] [LE κ'] [Std.IsLinearOrder κ'] [Std.LawfulOrderLT κ']

/-- The map gathered again under other keys. -/
def rekey (f : κ → κ') (m : KeyMap κ α) : KeyMap κ' α :=
  m.entries.foldl (fun m e => m.set (f e.1) e.2) empty

theorem entries_foldl_set (f : κ → κ') (hf : ∀ a b, a < b → f a < f b) (es : List (κ × α))
    (hes : es.Pairwise fun a b => a.1 < b.1) (m : KeyMap κ' α)
    (hm : ∀ d ∈ m.entries, ∀ e ∈ es, d.1 < f e.1) :
    (es.foldl (fun m e => m.set (f e.1) e.2) m).entries = m.entries ++ es.map fun e => (f e.1, e.2) := by
  induction es generalizing m with
  | nil => simp
  | cons e es ih =>
    obtain ⟨he, hes⟩ := List.pairwise_cons.1 hes
    have hset : (m.set (f e.1) e.2).entries = m.entries ++ [(f e.1, e.2)] :=
      insert_of_forall_lt e.2 fun d hd => hm d hd e List.mem_cons_self
    rw [List.foldl_cons, ih hes, hset, List.map_cons, List.append_assoc, List.singleton_append]
    intro d hd x hx
    rw [hset, List.mem_append, List.mem_singleton] at hd
    rcases hd with hd | rfl
    · exact hm d hd x (List.mem_cons_of_mem _ hx)
    · exact hf _ _ (he x hx)

/-- Keys that keep their order keep every entry. -/
theorem entries_rekey (f : κ → κ') (hf : ∀ a b, a < b → f a < f b) (m : KeyMap κ α) :
    (m.rekey f).entries = m.entries.map fun e => (f e.1, e.2) :=
  (entries_foldl_set f hf m.entries m.ascending empty (by simp [empty])).trans (List.nil_append _)

theorem get?_rekey [DecidableEq κ] [LE κ] [Std.LawfulOrderLT κ] (f : κ → κ')
    (hf : ∀ a b, a < b → f a < f b) (hinj : ∀ a b, f a = f b → a = b) (m : KeyMap κ α) (k : κ) :
    (m.rekey f).get? (f k) = m.get? k := by
  refine Option.ext fun v => ?_
  rw [← mem_entries_iff, ← mem_entries_iff, entries_rekey f hf, List.mem_map]
  constructor
  · rintro ⟨e, he, h⟩
    obtain ⟨hk, rfl⟩ := Prod.mk.inj h
    exact hinj _ _ hk ▸ he
  · exact fun h => ⟨(k, v), h, rfl⟩

end Rekey

end KeyMap

end Conformance
