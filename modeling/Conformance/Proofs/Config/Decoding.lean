import Conformance.Proofs.Config.Load
import Conformance.Proofs.Record.Parts
/-!
# What a settings document may leave out, and what it may not add

The tables of a document are closed, and some of what they may leave out has a default. `Table.keys` and
`Table.IsDefault` give both as they are documented. `Config.decoding_strict_and_transparent` says that a document
with one more key is no configuration if the key is foreign to its table, and the same one if the key is given its
default.
-/

namespace Conformance

open Record hiding Part

/-! ## The tables -/

/-- A table of a settings document. -/
inductive Table where
  | top
  | target
  | resource
  | routing
  | workflow
  | scenario
  | step (action : ScenarioDeed.Kind)
  | audit

namespace Table

/-- The keys of a table, in order. -/
def keys : Table → List String
  | top => ["target", "resources", "routing", "workflow", "audit"]
  | target => ["base_url", "timeout_ms", "max_concurrency"]
  | resource => ["path", "content_type", "status", "schema"]
  | routing => ["rejected_path_chars", "delete_policy"]
  | workflow => ["recipients", "scenarios"]
  | scenario => ["name", "steps"]
  | step .click => ["action", "element"]
  | step .sendKeys => ["action", "element", "text"]
  | step .expectVisible => ["action", "element", "visible"]
  | step .expectEnabled => ["action", "element", "enabled"]
  | audit => ["mode", "path"]

/-- A key that is not there yet is added to a table. Which table a step is, is told by its action. -/
inductive Adds (t : Table) (k : String) (x : Json) : Json → Json → Prop
  | intro {ms ms' : List (String × Json)} (absent : Json.lookup k ms = none) (sets : Sets k x ms ms')
    (action : ∀ a, t = step a → Json.lookup "action" ms = some (.string a.label)) :
    Adds t k x (.object ms) (.object ms')

/-- One table of a document is changed. -/
def Within (R : Json → Json → Prop) : Table → Json → Json → Prop
  | top => R
  | target => AtField top.keys "target" R
  | resource => AtField top.keys "resources" (AtItem R)
  | routing => AtField top.keys "routing" R
  | workflow => AtField top.keys "workflow" R
  | scenario => AtField top.keys "workflow" (AtField workflow.keys "scenarios" (AtItem R))
  | step _ => AtField top.keys "workflow" (AtField workflow.keys "scenarios"
      (AtItem (AtField scenario.keys "steps" (AtItem R))))
  | audit => AtField top.keys "audit" R

/-- The members of an entry of a catalog that has no schema. -/
def entry (path contentType : String) (status : Int) : List (String × Json) :=
  [("path", .string path), ("content_type", .string contentType), ("status", .number (.integer status))]

/-- The documented defaults of the keys that have one. -/
inductive IsDefault : Table → String → Json → Prop
  | resources {entries : List Json} (h : List.Forall₂ HasMembers [
      entry "/" "text/html" 200,
      entry "/index.html" "text/html" 200,
      entry "/public" "application/json" 200,
      entry "/unexistent" "text/html; charset=UTF-8" 404,
      entry "/@invalid@" "text/html; charset=UTF-8" 404] entries) : IsDefault .top "resources" (.array entries)
  | baseUrl : IsDefault .target "base_url" (.string "http://127.0.0.1:8082")
  | timeoutMs : IsDefault .target "timeout_ms" (.number (.integer 10000))
  | maxConcurrency : IsDefault .target "max_concurrency" (.number (.integer 4))
  | rejectedChars : IsDefault .routing "rejected_path_chars" (.string "@")
  | deletePolicy : IsDefault .routing "delete_policy" (.string "mirror_get")
  | recipients : IsDefault .workflow "recipients" (.array [.string "receiver-0"])
  | scenarios : IsDefault .workflow "scenarios" (.array [])
  | visible : IsDefault (.step .expectVisible) "visible" (.boolean true)
  | enabled : IsDefault (.step .expectEnabled) "enabled" (.boolean true)
  | mode : IsDefault .audit "mode" (.string "stderr")

end Table

/-! ## The readers by their parts

The parts of a record are the keys its reader asks for, in the order of its fields. A step is read from what is left of
its table without the action.
-/

def Target.parts : List (Record.Part Target) := [
  part "base_url" Json.string? (some standard.baseUrl) baseUrl,
  part "timeout_ms" word64? (some standard.timeoutMs) timeoutMs,
  part "max_concurrency" word64? (some standard.maxConcurrency) maxConcurrency]

theorem Target.isRead : IsRead .ignored ofJson? parts := by
  refine isRead_of_fields (by decide) (fun _ => rfl) fun ms ⟨baseUrl, timeoutMs, maxConcurrency⟩ => ?_
  simp [parts, part, withDefault?_eq, Option.bind_eq_some_iff]

def ResourceEntry.parts : List (Record.Part ResourceEntry) := [
  part "path" Json.string? none path,
  part "content_type" Json.string? none contentType,
  part "status" word16? none status,
  part "schema" (fun v => v.string?.map some) (some none) schema]

theorem ResourceEntry.isRead : IsRead .ignored ofJson? parts := by
  refine isRead_of_fields (by decide) (fun _ => rfl) fun ms ⟨path, contentType, status, schema⟩ => ?_
  simp [parts, part, required?_eq, optional?_eq, Option.bind_eq_some_iff]

def Routing.parts : List (Record.Part Routing) := [
  part "rejected_path_chars" Json.string? (some standard.rejectedChars) rejectedChars,
  part "delete_policy" (word? isVoid DeleteRule.ofLabel?) (some standard.delete) delete]

theorem Routing.isRead : IsRead .ignored ofJson? parts := by
  refine isRead_of_fields (by decide) (fun _ => rfl) fun ms ⟨rejectedChars, delete⟩ => ?_
  simp [parts, part, withDefault?_eq, Option.bind_eq_some_iff]

def Scenario.parts : List (Record.Part Scenario) := [
  part "name" Json.string? none name,
  part "steps" (list? ScenarioStep.ofJson?) none steps]

theorem Scenario.isRead (spare : Spare) : IsRead spare (ofJson? spare) parts := by
  refine isRead_of_fields (by decide) (fun _ => rfl) fun ms ⟨name, steps⟩ => ?_
  simp [parts, part, required?_eq, Option.bind_eq_some_iff]

def Workflow.parts : List (Record.Part Workflow) := [
  part "recipients" (list? Json.string?) (some standard.recipients) recipients,
  part "scenarios" (list? (Scenario.ofJson? .ignored)) (some standard.scenarios) scenarios]

theorem Workflow.isRead : IsRead .ignored ofJson? parts := by
  refine isRead_of_fields (by decide) (fun _ => rfl) fun ms ⟨recipients, scenarios⟩ => ?_
  simp [parts, part, withDefault?_eq, Option.bind_eq_some_iff]

def AuditTarget.parts : List (Record.Part AuditTarget) := [
  part "mode" (word? isVoid AuditMode.ofLabel?) (some standard.mode) mode,
  part "path" (fun v => v.string?.map some) (some none) path]

theorem AuditTarget.isRead : IsRead .ignored ofJson? parts := by
  refine isRead_of_fields (by decide) (fun _ => rfl) fun ms ⟨mode, path⟩ => ?_
  simp [parts, part, withDefault?_eq, optional?_eq, Option.bind_eq_some_iff]

def Config.parts : List (Record.Part Config) := [
  part "target" Target.ofJson? (some .standard) target,
  part "resources" (list? ResourceEntry.ofJson?) (some ResourceEntry.standard) resources,
  part "routing" Routing.ofJson? (some .standard) routing,
  part "workflow" Workflow.ofJson? (some .standard) workflow,
  -- stands in for the directory as well: a document names none
  part "audit" (fun v => (AuditTarget.ofJson? v).map (·, none)) ((some .standard).map (·, none))
    fun c => (c.audit, c.baseDir)]

theorem Config.isRead : IsRead .ignored ofJson? parts := by
  refine isRead_of_fields (by decide) (fun _ => rfl) fun ms c => ?_
  obtain ⟨target, resources, routing, workflow, audit, baseDir⟩ := c
  simp only [parts, part, elim_map, withDefault?_eq]
  simp [Option.bind_eq_some_iff]

namespace ScenarioDeed.Kind

def parts : Kind → List (Record.Part ScenarioStep)
  | click => [
    part "element" (fun v => v.string?.map (·, .click)) (none.map (·, .click)) fun s => (s.element, s.deed)]
  | sendKeys => [
    part "element" Json.string? none ScenarioStep.element,
    part "text" (fun v => v.string?.map .sendKeys) (none.map .sendKeys) ScenarioStep.deed]
  | expectVisible => [
    part "element" Json.string? none ScenarioStep.element,
    part "visible" (fun v => v.boolean?.map .expectVisible) ((some true).map .expectVisible) ScenarioStep.deed]
  | expectEnabled => [
    part "element" Json.string? none ScenarioStep.element,
    part "enabled" (fun v => v.boolean?.map .expectEnabled) ((some true).map .expectEnabled) ScenarioStep.deed]

theorem isRead (action : Kind) : IsRead .refused (ScenarioStep.ofParts? action.label) action.parts := by
  cases action with
  | click =>
    refine isRead_of_fields (by decide) (fun _ => rfl) fun ms ⟨element, deed⟩ => ?_
    simp only [parts, part, elim_map, required?_eq]
    simp [Option.bind_eq_some_iff]
  | sendKeys =>
    refine isRead_of_fields (by decide) (fun _ => rfl) fun ms ⟨element, deed⟩ => ?_
    simp only [parts, part, elim_map, required?_eq]
    simp [Option.bind_eq_some_iff]
  | expectVisible =>
    refine isRead_of_fields (by decide) (fun _ => rfl) fun ms ⟨element, deed⟩ => ?_
    simp only [parts, part, elim_map, required?_eq, withDefault?_eq]
    simp [Option.bind_eq_some_iff]
  | expectEnabled =>
    refine isRead_of_fields (by decide) (fun _ => rfl) fun ms ⟨element, deed⟩ => ?_
    simp only [parts, part, elim_map, required?_eq, withDefault?_eq]
    simp [Option.bind_eq_some_iff]

end ScenarioDeed.Kind

theorem ScenarioStep.ofJson?_object {ms : List (String × Json)} {action : ScenarioDeed.Kind}
    (h : Json.lookup "action" ms = some (.string action.label)) :
    ofJson? (.object ms) = ofParts? action.label (.object (ms.filter fun m => m.1 != "action")) := by
  rw [ofJson?, required?, h]
  rfl

/-! ## The tables by their parts -/

namespace Table

/-- What a table stands for. -/
def Content : Table → Type
  | top => Config
  | target => Target
  | resource => ResourceEntry
  | routing => Routing
  | workflow => Workflow
  | scenario => Scenario
  | step _ => ScenarioStep
  | audit => AuditTarget

/-- The reader of a table. -/
def read : (t : Table) → Json → Option t.Content
  | top => Config.ofJson?
  | target => Target.ofJson?
  | resource => ResourceEntry.ofJson?
  | routing => Routing.ofJson?
  | workflow => Workflow.ofJson?
  | scenario => Scenario.ofJson? .ignored
  | step _ => ScenarioStep.ofJson?
  | audit => AuditTarget.ofJson?

/-- A table by its parts. Those of a step come besides its action. -/
def parts : (t : Table) → List (Record.Part t.Content)
  | top => Config.parts
  | target => Target.parts
  | resource => ResourceEntry.parts
  | routing => Routing.parts
  | workflow => Workflow.parts
  | scenario => Scenario.parts
  | step action => action.parts
  | audit => AuditTarget.parts

/-- The members of a table that tell its parts. -/
def rest : Table → List (String × Json) → List (String × Json)
  | step _, ms => ms.filter fun m => m.1 != "action"
  | _, ms => ms

variable {t : Table} {k : String} {x : Json} {ms ms' : List (String × Json)} {R : Json → Json → Prop}

theorem nodup_parts (t : Table) : (t.parts.map (·.name)).Nodup := by
  cases t with
  | step action => exact action.isRead.distinct
  | _ => decide

theorem notMem_parts (h : k ∉ t.keys) : k ∉ t.parts.map (·.name) := by
  cases t with
  | step action =>
    -- the action stands before the parts
    cases action <;> exact mt (List.mem_cons_of_mem _) h
  | _ => exact h

theorem read_object_iff {a : t.Content}
    (action : ∀ a, t = step a → Json.lookup "action" ms = some (.string a.label)) :
    t.read (.object ms) = some a ↔ Told t.parts (t.rest ms) a := by
  cases t with
  | top => exact Config.isRead.table ms a
  | target => exact Target.isRead.table ms a
  | resource => exact ResourceEntry.isRead.table ms a
  | routing => exact Routing.isRead.table ms a
  | workflow => exact Workflow.isRead.table ms a
  | scenario => exact (Scenario.isRead .ignored).table ms a
  | step kind =>
    rw [read, ScenarioStep.ofJson?_object (action kind rfl)]
    exact kind.isRead.table _ a
  | audit => exact AuditTarget.isRead.table ms a

theorem sets_rest (h : Sets k x ms ms') (hk : ∀ a, t = step a → k ≠ "action") :
    Sets k x (t.rest ms) (t.rest ms') := by
  cases t with
  | step a =>
    intro n
    rw [rest, rest, Json.lookup_filter_ne, Json.lookup_filter_ne, h n]
    by_cases hn : n = "action"
    · rw [if_pos hn, if_pos hn, if_neg fun hnk => hk a rfl (hnk.symm.trans hn)]
    · rw [if_neg hn, if_neg hn]
  | _ => exact h

theorem lookup_rest (h : Json.lookup k ms = none) : Json.lookup k (t.rest ms) = none := by
  cases t with
  | step a => rw [rest, Json.lookup_filter_ne, h, ite_self]
  | _ => exact h

/-! ## One more key -/

/-- A key that is added to a table is added to the members that tell its parts. -/
theorem Adds.told {v v' : Json} (h : t.Adds k x v v') : ∃ ms ms', Json.lookup k ms = none ∧ Sets k x ms ms' ∧
    (∀ a, t.read v = some a ↔ Told t.parts ms a) ∧ ∀ a, t.read v' = some a ↔ Told t.parts ms' a := by
  obtain @⟨ms, ms', absent, sets, action⟩ := h
  -- a step has its action already
  have hk (a) (ha : t = step a) : k ≠ "action" := by
    rintro rfl
    cases absent.symm.trans (action a ha)
  have action' (a) (ha : t = step a) : Json.lookup "action" ms' = some (.string a.label) := by
    rw [sets, if_neg (hk a ha).symm, action a ha]
  exact ⟨t.rest ms, t.rest ms', lookup_rest absent, sets_rest sets hk, fun _ => read_object_iff action,
    fun _ => read_object_iff action'⟩

/-- No reader bears a key that is foreign to its table. -/
theorem bears_foreign (hk : k ∉ t.keys) : Bears false (t.Adds k x) t.read := by
  intro v v' a hadds ha
  obtain ⟨ms, ms', -, sets, -, hread⟩ := hadds.told
  exact Option.eq_none_iff_forall_ne_some.2 fun a ha =>
    Record.not_told_of_foreign (notMem_parts hk) sets ((hread a).1 ha)

/-- A part that is left out is read as its default. -/
theorem exists_part_of_isDefault (h : IsDefault t k x) :
    ∃ p ∈ t.parts, p.name = k ∧ ∀ a, p.tells none a → p.tells (some x) a := by
  cases h with
  | resources h => exact ⟨_, .tail _ (.head _), rfl, fun _ => (ResourceEntry.isRead.list_of_members h).trans⟩
  | baseUrl => exact ⟨_, .head _, rfl, fun _ h => h⟩
  | timeoutMs => exact ⟨_, .tail _ (.head _), rfl, fun _ h => h⟩
  | maxConcurrency => exact ⟨_, .tail _ (.tail _ (.head _)), rfl, fun _ h => h⟩
  | rejectedChars => exact ⟨_, .head _, rfl, fun _ h => h⟩
  | deletePolicy => exact ⟨_, .tail _ (.head _), rfl, fun _ h => h⟩
  | recipients => exact ⟨_, .head _, rfl, fun _ h => h⟩
  | scenarios => exact ⟨_, .tail _ (.head _), rfl, fun _ h => h⟩
  | visible => exact ⟨_, .tail _ (.head _), rfl, fun _ h => h⟩
  | enabled => exact ⟨_, .tail _ (.head _), rfl, fun _ h => h⟩
  | mode => exact ⟨_, .head _, rfl, fun _ h => h⟩

/-- No reader tells a key that is left out from one that is given its default. -/
theorem bears_default (h : IsDefault t k x) : Bears true (t.Adds k x) t.read := by
  intro v v' a hadds ha
  obtain ⟨ms, ms', absent, sets, hread, hread'⟩ := hadds.told
  obtain ⟨p, hp, rfl, hdefault⟩ := exists_part_of_isDefault h
  have told := (hread a).1 ha
  have hnone := told.tells p hp
  rw [absent] at hnone
  exact (hread' a).2 (told.sets t.nodup_parts hp sets (hdefault a hnone))

/-- A document bears a change of one of its tables as the reader of the table does. -/
theorem bears_within {kept : Bool} (h : Bears kept R t.read) : Bears kept (t.Within R) Config.ofJson? := by
  -- a section that is left out reads as an empty one; a list that is left out has no item to change
  have noItem {R} (v : Json) : ¬ AtItem R (.object []) v := nofun
  have workflow {R} (h : Bears kept R Workflow.ofJson?) :
      Bears kept (AtField top.keys "workflow" R) Config.ofJson? :=
    Config.isRead.bears_field (.tail _ (.tail _ (.tail _ (.head _)))) h (.inl rfl)
  have scenario {R} (h : Bears kept R (Scenario.ofJson? .ignored)) :
      Bears kept (AtField Table.workflow.keys "scenarios" (AtItem R)) Workflow.ofJson? :=
    Workflow.isRead.bears_field (.tail _ (.head _)) h.list (.inr noItem)
  cases t with
  | top => exact h
  | target => exact Config.isRead.bears_field (.head _) h (.inl rfl)
  | resource => exact Config.isRead.bears_field (.tail _ (.head _)) h.list (.inr noItem)
  | routing => exact Config.isRead.bears_field (.tail _ (.tail _ (.head _))) h (.inl rfl)
  | workflow => exact workflow h
  | scenario => exact workflow (scenario h)
  | step a =>
    have hstep := (Scenario.isRead .ignored).bears_field (.tail _ (.head _)) h.list (.inr noItem)
    exact workflow (scenario hstep)
  | audit =>
    exact Config.isRead.bears_field (.tail _ (.tail _ (.tail _ (.tail _ (.head _))))) (h.map _) (.inl rfl)

end Table

/-! ## Texts -/

namespace Config

variable {text : String} {c : Config} {doc : Json}

section Libraries
variable [SettingsLibrary]

theorem decode_of_read (h : SettingsLibrary.read text = .ok doc) :
    decode text = (ofJson? doc).elim (.error (.misfit (SettingsLibrary.misfit text))) .ok := by
  simp only [decode, h]
  cases ofJson? doc <;> rfl

theorem decode_eq_ok_iff : decode text = .ok c ↔ ∃ doc, SettingsLibrary.read text = .ok doc ∧ ofJson? doc = some c := by
  cases hread : SettingsLibrary.read text with
  | error message =>
    rw [decode, hread]
    constructor <;> simp
  | ok doc =>
    rw [decode_of_read hread]
    cases hdoc : ofJson? doc <;> simp [hdoc]

variable [UrlLibrary]

theorem ofText_eq_ok_iff : ofText text = .ok c ↔ text.utf8ByteSize ≤ 1048576 ∧
    ∃ doc, SettingsLibrary.read text = .ok doc ∧ ofJson? doc = some c ∧ c.Valid := by
  by_cases hlarge : maxSize < text.utf8ByteSize
  · rw [ofText, if_pos hlarge]
    constructor
    · intro h
      cases h
    · exact fun h => absurd h.1 (Nat.not_le.2 hlarge)
  · rw [ofText, if_neg hlarge]
    simp only [bind_eq_ok_iff, validated_eq_ok_iff, decode_eq_ok_iff]
    constructor
    · rintro ⟨_, ⟨doc, hread, hdoc⟩, rfl, hvalid⟩
      exact ⟨Nat.not_lt.1 hlarge, doc, hread, hdoc, hvalid⟩
    · rintro ⟨-, doc, hread, hdoc, hvalid⟩
      exact ⟨c, ⟨doc, hread, hdoc⟩, rfl, hvalid⟩

theorem ofText_of_misfit (hread : SettingsLibrary.read text = .ok doc) (hsize : text.utf8ByteSize ≤ 1048576)
    (hdoc : ofJson? doc = none) : ofText text = .error (.misfit (SettingsLibrary.misfit text)) := by
  rw [ofText, maxSize, if_neg (Nat.not_lt.2 hsize), decode_of_read hread, hdoc]
  rfl

end Libraries

/-- A key of some table is added with its default. -/
def AddsDefault (doc doc' : Json) : Prop := ∃ t k x, Table.IsDefault t k x ∧ t.Within (t.Adds k x) doc doc'

theorem ofJson?_of_defaults {doc' : Json} (h : Relation.ReflTransGen AddsDefault doc doc')
    (hdoc : ofJson? doc = some c) : ofJson? doc' = some c := by
  -- documents on the way need not be written down, so this is about trees and not about texts
  induction h with
  | refl => exact hdoc
  | tail _ hadds ih =>
    obtain ⟨t, k, x, hdefault, hwithin⟩ := hadds
    exact Table.bears_within (Table.bears_default hdefault) _ _ c hwithin ih

/-- A text that has a configuration is a settings document. A text of allowed size whose document has one more key in
some table, a key that is foreign to the table, is no configuration. A text of allowed size whose document has any
number of keys more, each with its default, is the same configuration. -/
theorem decoding_strict_and_transparent [SettingsLibrary] [UrlLibrary] (h : ofText text = .ok c) :
    ∃ doc, SettingsLibrary.read text = .ok doc ∧
    ∀ text' doc', SettingsLibrary.read text' = .ok doc' → text'.utf8ByteSize ≤ 1048576 →
      (∀ (t : Table) k x, k ∉ t.keys → t.Within (t.Adds k x) doc doc' →
        ofText text' = .error (.misfit (SettingsLibrary.misfit text'))) ∧
      (Relation.ReflTransGen AddsDefault doc doc' → ofText text' = .ok c) := by
  obtain ⟨-, doc, hread, hdoc, hvalid⟩ := ofText_eq_ok_iff.1 h
  refine ⟨doc, hread, fun text' doc' hread' hsize => ⟨fun t k x hk hwithin => ?_, fun hdefaults => ?_⟩⟩
  · exact ofText_of_misfit hread' hsize (Table.bears_within (Table.bears_foreign hk) _ _ c hwithin hdoc)
  · exact ofText_eq_ok_iff.2 ⟨hsize, doc', hread', ofJson?_of_defaults hdefaults hdoc, hvalid⟩

theorem decoding_extended_target :
    ofText "[target]\ntimeout_ms=500\n" = .ok { standard with target := ⟨"http://127.0.0.1:8082", 500, 4⟩ } ∧
    ofText "[target]\ntimeout_ms=500\nmax_concurrency=4\n" =
      .ok { standard with target := ⟨"http://127.0.0.1:8082", 500, 4⟩ } ∧
    ofText "[target]\ntimeout_ms=500\nretries=4\n" = .error (.misfit "unknown, missing or ill-typed key") := by
  let ms : List (String × Json) := [("timeout_ms", .number (.integer 500))]
  have hread : SettingsLibrary.read "[target]\ntimeout_ms=500\n" = .ok (.object [("target", .object ms)]) := by cbv
  have hread₁ : SettingsLibrary.read "[target]\ntimeout_ms=500\nmax_concurrency=4\n" =
      .ok (.object [("target", .object (("max_concurrency", .number (.integer 4)) :: ms))]) := by cbv
  have hread₂ : SettingsLibrary.read "[target]\ntimeout_ms=500\nretries=4\n" =
      .ok (.object [("target", .object (("retries", .number (.integer 4)) :: ms))]) := by cbv
  have hvalid : { standard with target := ⟨"http://127.0.0.1:8082", 500, 4⟩ }.fault? = none := by decide +kernel
  have haccepted : ofText "[target]\ntimeout_ms=500\n" =
      .ok { standard with target := ⟨"http://127.0.0.1:8082", 500, 4⟩ } :=
    ofText_eq_ok_iff.2 ⟨by decide +kernel, _, hread, by rfl, fault?_eq_none_iff.1 hvalid⟩
  have within (k : String) (x : Json) (hk : Json.lookup k ms = none) : Table.target.Within (Table.target.Adds k x)
      (.object [("target", .object ms)]) (.object [("target", .object ((k, x) :: ms))]) :=
    .key rfl (.intro hk (Record.sets_cons hk) (by rintro _ ⟨⟩)) (Record.sets_head rfl)
  obtain ⟨doc, hdoc, h⟩ := decoding_strict_and_transparent haccepted
  cases hread.symm.trans hdoc
  exact ⟨haccepted,
    (h _ _ hread₁ (by decide +kernel)).2 (.single ⟨_, _, _, .maxConcurrency, within _ _ (by rfl)⟩),
    (h _ _ hread₂ (by decide +kernel)).1 _ _ _ (by decide) (within _ _ (by rfl))⟩

end Config

end Conformance
