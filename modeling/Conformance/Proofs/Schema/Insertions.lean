import Mathlib.Data.List.Forall2
import Mathlib.Data.List.Induction
import Mathlib.Data.List.Perm.Basic
import Conformance.Proofs.Config.Valid
import Conformance.Proofs.Schema.Registry
/-!
# Insertions into a registry

A registry is filled by insertions, and one whose document is no schema changes nothing. After any run of them a
path is bound to the schema and the label of the last insertion for it that succeeded, whatever was inserted for
other paths meanwhile. Loading the schemas of a configuration is such a run, with one insertion for each entry that
names a schema.
-/

namespace Conformance.SchemaRegistry

/-- What is put into a registry: a document for a path, under a label. -/
structure Insertion where
  path : String
  label : String
  document : Json

variable [SchemaLibrary]

/-- The schema an insertion binds its path to, if its document is one. -/
def Insertion.schema? (i : Insertion) : Option LabelledSchema :=
  (SchemaLibrary.compile i.document).toOption.map fun schema => ⟨i.label, schema⟩

/-- The document of an insertion is no schema. -/
def Insertion.Fails (i : Insertion) : Prop := ∃ message, SchemaLibrary.compile i.document = .error message

/-- The registry after an insertion that may fail. -/
def attempt (r : SchemaRegistry) (i : Insertion) : SchemaRegistry :=
  (r.insert i.path i.label i.document).toOption.getD r

/-- The registry after a run of insertions, some of which may fail. -/
def run (is : List Insertion) : SchemaRegistry := is.foldl attempt empty

/-- What is bound to a path by a run of insertions, one after the other. -/
def bound (path : String) (is : List Insertion) : List LabelledSchema :=
  (is.filter fun i => i.path == path).filterMap Insertion.schema?

variable {r : SchemaRegistry} {i : Insertion} {is : List Insertion} {path : String} {s : LabelledSchema}
  {disk : Disk} {c : Config} {e : ResourceEntry} {entries : List ResourceEntry}

/-! ## One insertion -/

theorem Insertion.schema?_eq_some_iff : i.schema? = some s ↔
    ∃ schema, SchemaLibrary.compile i.document = .ok schema ∧ s = ⟨i.label, schema⟩ := by
  unfold schema?
  cases SchemaLibrary.compile i.document with
  | ok schema => simp [Except.toOption, eq_comm]
  | error fault => simp [Except.toOption]

theorem Insertion.schema?_eq_none_iff : i.schema? = none ↔ i.Fails := by
  unfold schema? Fails
  cases SchemaLibrary.compile i.document with
  | ok schema => simp [Except.toOption]
  | error fault => simp [Except.toOption]

/-- An insertion that fails says why and changes nothing. -/
theorem attempt_of_fails {message : String} (h : SchemaLibrary.compile i.document = .error message) :
    r.insert i.path i.label i.document = .error (.invalid i.label message) ∧ r.attempt i = r := by
  have hinsert : r.insert i.path i.label i.document = .error (.invalid i.label message) := by rw [insert, h]
  refine ⟨hinsert, ?_⟩
  rw [attempt, hinsert]
  rfl

theorem attempt_of_some (h : i.schema? = some s) : r.attempt i = r.bind i.path s := by
  obtain ⟨schema, hschema, rfl⟩ := Insertion.schema?_eq_some_iff.1 h
  rw [attempt, insert_eq_ok_iff.2 ⟨schema, hschema, rfl⟩]
  rfl

theorem get?_attempt (r : SchemaRegistry) (i : Insertion) (path : String) :
    (r.attempt i).get? path = if i.path = path then i.schema?.or (r.get? path) else r.get? path := by
  cases h : i.schema? with
  | none =>
    obtain ⟨fault, hfault⟩ := Insertion.schema?_eq_none_iff.1 h
    rw [(attempt_of_fails hfault).2, Option.none_or, ite_self]
  | some s => rw [attempt_of_some h, get?_bind, Option.some_or]

/-! ## The paths of a registry -/

/-- The bound paths of a registry. -/
def paths (r : SchemaRegistry) : List String := r.bindings.map (·.1)

theorem get?_eq_none_iff : r.get? path = none ↔ path ∉ r.paths := by
  simp only [get?, find?, paths, Option.map_eq_none_iff, List.find?_eq_none, List.mem_map, beq_iff_eq]
  constructor
  · rintro h ⟨b, hb, hpath⟩
    exact h b hb hpath
  · exact fun h b hb hpath => h ⟨b, hb, hpath⟩

/-! ## Runs -/

theorem run_concat (is : List Insertion) (i : Insertion) : run (is ++ [i]) = (run is).attempt i := by
  rw [run, List.foldl_append]
  rfl

theorem bound_append (path : String) (is js : List Insertion) :
    bound path (is ++ js) = bound path is ++ bound path js := by
  rw [bound, List.filter_append, List.filterMap_append, bound, bound]

theorem bound_singleton (path : String) (i : Insertion) :
    bound path [i] = if i.path = path then i.schema?.toList else [] := by
  by_cases hpath : i.path = path
  · cases hschema : i.schema? <;> simp [bound, hpath, hschema]
  · simp [bound, hpath]

/-- A path is bound to what the last insertion for it that succeeded has bound it to. -/
theorem get?_run (is : List Insertion) (path : String) : (run is).get? path = (bound path is).getLast? := by
  induction is using List.reverseRecOn with
  | nil => rfl
  | append_singleton is i ih =>
    rw [run_concat, get?_attempt, ih, bound_append, List.getLast?_append, bound_singleton]
    split
    · cases i.schema? <;> rfl
    · rfl

theorem bound_eq_nil_iff : bound path is = [] ↔ ∀ i ∈ is, i.path = path → i.Fails := by
  simp only [bound, List.filterMap_eq_nil_iff, List.mem_filter, beq_iff_eq, and_imp, Insertion.schema?_eq_none_iff]

theorem mem_paths_run : path ∈ (run is).paths ↔ ∃ i ∈ is, i.path = path ∧ ¬ i.Fails := by
  rw [← not_iff_not, ← get?_eq_none_iff, get?_run, List.getLast?_eq_none_iff, bound_eq_nil_iff]
  simp only [not_exists, not_and, not_not]

theorem run_validator_eq_notPerformed_iff [JsonLibrary] {resource : Resource} {body : ByteArray} :
    (run is).validator resource body = .notPerformed ↔ ∀ i ∈ is, i.path = resource.path → i.Fails := by
  rw [← bound_eq_nil_iff, ← List.getLast?_eq_none_iff, ← get?_run, validator]
  cases (run is).get? resource.path with
  | none => simp
  | some s =>
    rcases judge_eq s body with h | ⟨detail, h⟩ <;> simp [h]

/-- A later insertion for the same path takes the place of an earlier one only if it succeeds. -/
theorem get?_run_of_last {before after : List Insertion} (hi : i.schema? = some s)
    (hafter : ∀ j ∈ after, j.path = i.path → j.Fails) :
    (run (before ++ i :: after)).get? i.path = some s := by
  have hsplit : before ++ i :: after = before ++ [i] ++ after := by simp
  have hself : bound i.path [i] = [s] := by rw [bound_singleton, if_pos rfl, hi]; rfl
  rw [get?_run, hsplit, bound_append, bound_eq_nil_iff.2 hafter, bound_append, hself, List.append_nil,
    List.getLast?_concat]

/-! ## The schemas of a configuration -/

section Loading
variable [JsonLibrary]

/-- An insertion is the one an entry asks for: it puts in the document of the file the entry names, and succeeds. -/
def Insertion.Serves (disk : Disk) (c : Config) (e : ResourceEntry) (i : Insertion) : Prop :=
  i.path = e.path ∧ e.schema = some i.label ∧ load disk (c.resolve i.label) = .ok i.document ∧ ¬ i.Fails

/-- The entries that name a schema. -/
def named (entries : List ResourceEntry) : List ResourceEntry := entries.filter fun e => e.schema.isSome

theorem Insertion.serves_iff {label : String} (h : e.schema = some label) : i.Serves disk c e ↔
    ∃ document schema, load disk (c.resolve label) = .ok document ∧ SchemaLibrary.compile document = .ok schema ∧
      i = ⟨e.path, label, document⟩ := by
  obtain ⟨path, label', document⟩ := i
  simp only [Serves, ← schema?_eq_none_iff, ← ne_eq, Option.ne_none_iff_exists', schema?_eq_some_iff, h]
  constructor
  · rintro ⟨rfl, heq, hload, _, schema, hschema, -⟩
    obtain rfl := Option.some.inj heq
    exact ⟨document, schema, hload, hschema, rfl⟩
  · rintro ⟨_, schema, hload, hschema, heq⟩
    cases heq
    exact ⟨rfl, rfl, hload, ⟨label, schema⟩, schema, hschema, rfl⟩

/-- Loading succeeds exactly if the insertion of every entry that names a schema does, and it is their run. -/
theorem addAll_eq_ok_iff {r' : SchemaRegistry} : addAll disk c r entries = .ok r' ↔
    ∃ is, List.Forall₂ (Insertion.Serves disk c) (named entries) is ∧ is.foldl attempt r = r' := by
  induction entries generalizing r with
  | nil => simp [addAll, named]
  | cons e entries ih =>
    cases hschema : e.schema with
    | none =>
      have hnamed : named (e :: entries) = named entries := by simp [named, hschema]
      rw [addAll_cons_of_none hschema, ih, hnamed]
    | some label =>
      have hnamed : named (e :: entries) = e :: named entries := by simp [named, hschema]
      simp only [addAll_cons_eq_ok_iff hschema, ih, hnamed, List.forall₂_cons_left_iff,
        Insertion.serves_iff hschema]
      constructor
      · rintro ⟨document, schema, hload, hcompiled, is, his, hrun⟩
        refine ⟨_, ⟨⟨e.path, label, document⟩, is, ⟨document, schema, hload, hcompiled, rfl⟩, his, rfl⟩, ?_⟩
        rw [List.foldl_cons, attempt_of_some (Insertion.schema?_eq_some_iff.2 ⟨schema, hcompiled, rfl⟩)]
        exact hrun
      · rintro ⟨_, ⟨_, is, ⟨document, schema, hload, hcompiled, rfl⟩, his, rfl⟩, hrun⟩
        refine ⟨document, schema, hload, hcompiled, is, his, ?_⟩
        rw [List.foldl_cons, attempt_of_some (Insertion.schema?_eq_some_iff.2 ⟨schema, hcompiled, rfl⟩)] at hrun
        exact hrun

/-- Where no path is repeated, as many paths are bound as entries name a schema. -/
theorem size_ofConfig (hnodup : (c.resources.map (·.path)).Nodup) (h : ofConfig disk c = .ok r) :
    r.size = (named c.resources).length := by
  obtain ⟨is, his, hrun⟩ := addAll_eq_ok_iff.1 h
  have hserved : List.Forall₂ (fun i e => ¬ i.Fails ∧ i.path = e.path) is (named c.resources) :=
    his.flip.imp fun _ _ hserves => ⟨hserves.2.2.2, hserves.1⟩
  obtain ⟨hkept, hsame⟩ := (List.forall₂_and_left _ _).1 hserved
  have hpaths : is.map (·.path) = (named c.resources).map (·.path) := by
    rwa [← List.forall₂_eq_eq_eq, List.forall₂_map_left_iff, List.forall₂_map_right_iff]
  have hperm : r.paths.Perm (is.map (·.path)) := by
    obtain rfl : run is = r := hrun
    have hdistinct : (run is).paths.Nodup := (run is).distinct
    refine (List.perm_ext_iff_of_nodup hdistinct ?_).2 fun path => ?_
    · rw [hpaths]
      exact hnodup.sublist (List.filter_sublist.map _)
    · rw [mem_paths_run, List.mem_map]
      exact exists_congr fun i => and_congr_right fun hi => and_iff_left (hkept i hi)
  rw [size, ← List.length_map (·.1), ← paths, hperm.length_eq, hpaths, List.length_map]

/-- All schemas that entries name are put in exactly if each of them can be. -/
theorem exists_addAll_iff : (∃ r', addAll disk c r entries = .ok r') ↔
    ∀ e ∈ entries, ∀ label, e.schema = some label →
      ∃ document schema, load disk (c.resolve label) = .ok document ∧ SchemaLibrary.compile document = .ok schema := by
  induction entries generalizing r with
  | nil => simp [addAll]
  | cons e entries ih =>
    rw [List.forall_mem_cons]
    cases hschema : e.schema with
    | none => simp [addAll_cons_of_none hschema, ih]
    | some label =>
      simp only [addAll_cons_eq_ok_iff hschema, Option.some.injEq, forall_eq']
      constructor
      · rintro ⟨r', document, schema, hload, hcompiled, hrest⟩
        exact ⟨⟨document, schema, hload, hcompiled⟩, ih.1 ⟨r', hrest⟩⟩
      · rintro ⟨⟨document, schema, hload, hcompiled⟩, hrest⟩
        obtain ⟨r', hr'⟩ := ih.2 hrest
        exact ⟨r', document, schema, hload, hcompiled, hr'⟩

/-! ## Bodies -/

/-- The schema a path is bound to judges the bodies of its resource, and a body that cannot be read is no instance. -/
theorem validator_of_get? {resource : Resource} {body : ByteArray} (h : r.get? resource.path = some s) :
    (∀ message, JsonLibrary.read body = .error message →
      r.validator resource body = .invalid s.label ("body is not valid JSON: " ++ message)) ∧
    ∀ v, JsonLibrary.read body = .ok v → r.validator resource body =
      match SchemaLibrary.issue? s.schema v with
      | none => .valid s.label
      | some issue => .invalid s.label issue := by
  have hjudge : r.validator resource body = s.judge body := by rw [validator, h]
  rw [hjudge, LabelledSchema.judge]
  refine ⟨fun message hbody => ?_, fun v hbody => ?_⟩
  · rw [hbody]
  · cases hissue : SchemaLibrary.issue? s.schema v <;> simp only [hbody, hissue]

end Loading

/-- A registry after any run of insertions, some of which fail, whatever library reads JSON and whatever library
compiles schemas and checks values. An insertion that fails gives the reason of the library and changes nothing. A
body is not judged exactly if no insertion for the path of its resource succeeded. Otherwise the last one that did
judges it: under its label a body that cannot be read is invalid, for the reason the library gives, and a body that
can be read is valid or not as the schema says. Insertions for other paths make no difference, and there are as many
bindings as paths for which an insertion succeeded.

The registry of a valid configuration is there exactly if every schema an entry names can be loaded and is one. Then
the path of each such entry is bound to that schema under the name the entry gives it, no other path is bound, and
there are as many bindings as such entries. -/
theorem last_schema_judges [JsonLibrary] [UrlLibrary] :
    (∀ is : List Insertion,
      (∀ before i after message, is = before ++ i :: after → SchemaLibrary.compile i.document = .error message →
        (run before).insert i.path i.label i.document = .error (.invalid i.label message) ∧
        run (before ++ [i]) = run before ∧ run is = run (before ++ after)) ∧
      (∀ resource body, (run is).validator resource body = .notPerformed ↔
        ∀ i ∈ is, i.path = resource.path → i.Fails) ∧
      (∀ before i after schema, is = before ++ i :: after → SchemaLibrary.compile i.document = .ok schema →
        (∀ j ∈ after, j.path = i.path → j.Fails) → ∀ (resource : Resource) body, resource.path = i.path →
        (∀ message, JsonLibrary.read body = .error message →
          (run is).validator resource body = .invalid i.label ("body is not valid JSON: " ++ message)) ∧
        ∀ v, JsonLibrary.read body = .ok v → (run is).validator resource body =
          match SchemaLibrary.issue? schema v with
          | none => .valid i.label
          | some issue => .invalid i.label issue) ∧
      (∀ (js : List Insertion) (resource : Resource) body,
        js.filter (fun j => j.path == resource.path) = is.filter (fun i => i.path == resource.path) →
        (run js).validator resource body = (run is).validator resource body) ∧
      ∃ paths : List String, paths.Nodup ∧ (∀ path, path ∈ paths ↔ ∃ i ∈ is, i.path = path ∧ ¬ i.Fails) ∧
        (run is).size = paths.length) ∧
    ∀ (disk : Disk) (c : Config), c.fault? = none →
      ((∃ r, ofConfig disk c = .ok r) ↔ ∀ e ∈ c.resources, ∀ label, e.schema = some label →
        ∃ document schema, load disk (c.resolve label) = .ok document ∧
          SchemaLibrary.compile document = .ok schema) ∧
      ∀ r, ofConfig disk c = .ok r →
        (∀ e ∈ c.resources, ∀ label, e.schema = some label →
          ∃ document schema, load disk (c.resolve label) = .ok document ∧
            SchemaLibrary.compile document = .ok schema ∧ r.get? e.path = some ⟨label, schema⟩) ∧
        (∀ path, (∀ e ∈ c.resources, e.path = path → e.schema = none) → r.get? path = none) ∧
        r.size = (c.resources.filter fun e => e.schema.isSome).length := by
  constructor
  · intro is
    refine ⟨?_, fun resource body => run_validator_eq_notPerformed_iff, ?_, ?_, ?_⟩
    · rintro before i after message rfl hmessage
      obtain ⟨hinsert, hattempt⟩ := attempt_of_fails (r := run before) hmessage
      refine ⟨hinsert, (run_concat before i).trans hattempt, ?_⟩
      rw [run, List.foldl_append, List.foldl_cons, ← run, hattempt, run, ← List.foldl_append, ← run]
    · rintro before i after schema rfl hschema hafter resource body hpath
      have hbound : i.schema? = some ⟨i.label, schema⟩ := Insertion.schema?_eq_some_iff.2 ⟨schema, hschema, rfl⟩
      have hlast : (run (before ++ i :: after)).get? i.path = some ⟨i.label, schema⟩ := get?_run_of_last hbound hafter
      exact validator_of_get? (hpath ▸ hlast)
    · intro js resource body h
      have hbound : bound resource.path js = bound resource.path is := by rw [bound, h, bound]
      rw [validator, get?_run, hbound, ← get?_run, ← validator]
    · refine ⟨(run is).paths, (run is).distinct, fun path => mem_paths_run, ?_⟩
      rw [paths, List.length_map, size]
  · intro disk c hc
    have hnodup := (Config.fault?_eq_none_iff.1 hc).resources.distinct
    refine ⟨exists_addAll_iff, fun r hr => ⟨fun e he label hlabel => ?_, fun path hpath => ?_, ?_⟩⟩
    · exact get?_addAll_of_mem hnodup hr he hlabel
    · exact get?_addAll_of_none hpath hr
    · exact size_ofConfig hnodup hr

end Conformance.SchemaRegistry
