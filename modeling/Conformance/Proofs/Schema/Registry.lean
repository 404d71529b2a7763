import Mathlib.Data.List.Nodup
import Conformance.Proofs.Result
import Conformance.Run.Command
/-!
# The registry of a configuration

Loading goes through the entries of a catalog and binds the path of each to its schema. A path for which no
later entry names a schema keeps what it was bound to, so in a catalog without repeated paths every entry that
names a schema is bound to that one in the end, and every other entry to none.
-/

namespace Conformance.SchemaRegistry

variable [SchemaLibrary] {disk : Disk} {c : Config} {r r' : SchemaRegistry} {e : ResourceEntry}
  {entries : List ResourceEntry} {path label : String} {document : Json}

/-- What an insertion that did not fail has bound. -/
theorem insert_eq_ok_iff : r.insert path label document = .ok r' ↔
    ∃ schema, SchemaLibrary.compile document = .ok schema ∧ r' = r.bind path ⟨label, schema⟩ := by
  unfold insert
  cases SchemaLibrary.compile document with
  | ok schema => simp [eq_comm]
  | error message => simp

section Loading
variable [JsonLibrary]

theorem addAll_cons_of_none (h : e.schema = none) :
    addAll disk c r (e :: entries) = addAll disk c r entries := by
  rw [addAll, h]

/-- Loading the schema of an entry goes through three steps, each of which may fail. -/
theorem addAll_cons_eq_ok_iff (h : e.schema = some label) :
    addAll disk c r (e :: entries) = .ok r' ↔ ∃ document schema,
      load disk (c.resolve label) = .ok document ∧ SchemaLibrary.compile document = .ok schema ∧
      addAll disk c (r.bind e.path ⟨label, schema⟩) entries = .ok r' := by
  rw [addAll, h]
  simp only [do_eq_ok_iff, insert_eq_ok_iff]
  constructor
  · rintro ⟨document, hload, _, ⟨schema, hschema, rfl⟩, hrest⟩
    exact ⟨document, schema, hload, hschema, hrest⟩
  · rintro ⟨document, schema, hload, hschema, hrest⟩
    exact ⟨document, hload, _, ⟨schema, hschema, rfl⟩, hrest⟩

/-- A path for which no entry names a schema stays bound as it was. -/
theorem get?_addAll_of_none (hpath : ∀ e ∈ entries, e.path = path → e.schema = none)
    (h : addAll disk c r entries = .ok r') : r'.get? path = r.get? path := by
  induction entries generalizing r with
  | nil =>
    cases h
    rfl
  | cons e entries ih =>
    obtain ⟨hfirst, hrest⟩ := List.forall_mem_cons.1 hpath
    cases hschema : e.schema with
    | none =>
      rw [addAll_cons_of_none hschema] at h
      exact ih hrest h
    | some label =>
      obtain ⟨document, schema, -, -, hadded⟩ := (addAll_cons_eq_ok_iff hschema).1 h
      have hne : e.path ≠ path := by
        intro heq
        rw [hfirst heq] at hschema
        cases hschema
      rw [ih hrest hadded, get?_bind, if_neg hne]

/-- Where no path is repeated, every entry that names a schema ends up bound to it. -/
theorem get?_addAll_of_mem (hnodup : (entries.map (·.path)).Nodup) (h : addAll disk c r entries = .ok r')
    (he : e ∈ entries) (hschema : e.schema = some label) : ∃ document schema,
      load disk (c.resolve label) = .ok document ∧ SchemaLibrary.compile document = .ok schema ∧
      r'.get? e.path = some ⟨label, schema⟩ := by
  induction entries generalizing r with
  | nil => cases he
  | cons head entries ih =>
    rw [List.map_cons, List.nodup_cons] at hnodup
    rcases List.mem_cons.1 he with rfl | he
    · obtain ⟨document, schema, hload, hcompiled, hrest⟩ := (addAll_cons_eq_ok_iff hschema).1 h
      refine ⟨document, schema, hload, hcompiled, ?_⟩
      have hpath : ∀ x ∈ entries, x.path = e.path → x.schema = none :=
        fun x hx heq => absurd (heq ▸ List.mem_map_of_mem hx) hnodup.1
      rw [get?_addAll_of_none hpath hrest, get?_bind, if_pos rfl]
    · cases hhead : head.schema with
      | none =>
        rw [addAll_cons_of_none hhead] at h
        exact ih hnodup.2 h he
      | some other =>
        obtain ⟨document, schema, -, -, hrest⟩ := (addAll_cons_eq_ok_iff hhead).1 h
        exact ih hnodup.2 hrest he

/-- An answer of a schema goes by the label of the schema. -/
theorem judge_eq (s : LabelledSchema) (body : ByteArray) :
    s.judge body = .valid s.label ∨ ∃ detail, s.judge body = .invalid s.label detail := by
  unfold LabelledSchema.judge
  split
  · exact .inr ⟨_, rfl⟩
  · split
    · exact .inl rfl
    · exact .inr ⟨_, rfl⟩

/-- Where no path is repeated, an entry that names no schema ends up bound to none. -/
theorem get?_ofConfig_of_none (hnodup : (c.resources.map (·.path)).Nodup) (h : ofConfig disk c = .ok r)
    (he : e ∈ c.resources) (hschema : e.schema = none) : r.get? e.path = none := by
  refine get?_addAll_of_none (fun x hx hpath => ?_) h
  rw [List.inj_on_of_nodup_map hnodup hx he hpath]
  exact hschema

end Loading

end Conformance.SchemaRegistry
