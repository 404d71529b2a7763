import Mathlib.Data.List.Basic
import Mathlib.Tactic.MkIffOfInductiveProp
import Conformance.Config.Validation
import Conformance.Proofs.Demand
import Conformance.Proofs.Text.Pieces
/-!
# The rules of a configuration

Everything asked of a configuration as one list of rules, in the order in which it is looked at: target,
resources from the first on, routing, workflow, audit log. `Config.reports` says that the fault of a
configuration is what the first broken rule of the list finds.
-/

namespace Conformance

open Demand

namespace Demand.Reports
variable {φ : Type} {fault : φ} {p : Prop}

/-! ## Rules with one fault -/

theorem asks_iff {broken : Bool} (h : broken = false ↔ p) : Reports [asks p fault] (faultIf broken fault) := by
  cases broken with
  | false => exact .asked (h.1 rfl) .nil
  | true => exact .not_asked (by simp [← h])

theorem asks_le {m n : Nat} : Reports [asks (m ≤ n) fault] (faultIf (n < m) fault) :=
  asks_iff (by rw [decide_eq_false_iff_not, Nat.not_lt])

theorem asks_between {empty : Bool} {m n : Nat} (h : empty = false ↔ 1 ≤ m) :
    Reports [asks (1 ≤ m ∧ m ≤ n) fault] (faultIf (empty || n < m) fault) :=
  asks_iff (by rw [Bool.or_eq_false_iff, h, decide_eq_false_iff_not, Nat.not_lt])

end Demand.Reports

/-! ## The rules -/

/-- The form of a recipient's id: `receiver-` with one or more ASCII digits behind it. -/
def IsReceiver (id : String) : Prop :=
  ∃ digits : List Char, digits ≠ [] ∧ (∀ c ∈ digits, '0' ≤ c ∧ c ≤ '9') ∧
    id = "receiver-" ++ String.ofList digits

/-- A path keeps the limits: 4096 bytes in all and 255 bytes between slashes. -/
@[mk_iff]
structure Path.Fits (path : String) : Prop where
  total : path.utf8ByteSize ≤ 4096
  pieces : ∀ piece ∈ Text.pieces '/' path, piece.utf8ByteSize ≤ 255

/-- What is asked of a configured path, read without the blanks around it. -/
def pathRules (path : String) : List (Demand PathFault) := [
  asks (Text.trim path ≠ "") .blank,
  asks ((Text.trim path).utf8ByteSize ≤ 4096) (.excess .total),
  asks (∀ piece ∈ Text.pieces '/' (Text.trim path), piece.utf8ByteSize ≤ 255) (.excess .component)]

/-- What is asked of a base URL, read without the blanks around it. -/
def baseUrlRules [UrlLibrary] (s : String) : List (Demand BaseUrlFault) := [
  fun f => ∃ e, UrlLibrary.parse (Text.trim s) = .error e ∧ f = .notUrl e,
  asks (∀ url, UrlLibrary.parse (Text.trim s) = .ok url → url.scheme ∈ ["http", "https"]) .notHttp,
  asks (∀ url, UrlLibrary.parse (Text.trim s) = .ok url →
    ∃ web, url = .web web ∧ web.authority.host.text ≠ "") .noHost,
  asks (∀ url, UrlLibrary.parse (Text.trim s) = .ok (.web url) → url.hasQuery = false ∧ url.hasFragment = false)
    .hasQueryOrFragment]

/-- What is asked of a target. -/
def Target.rules [UrlLibrary] (t : Target) : List (Demand ConfigFault) :=
  (baseUrlRules t.baseUrl).map (within .baseUrl) ++ [
    asks (1 ≤ t.timeoutMs ∧ t.timeoutMs ≤ 300000) .timeout,
    asks (1 ≤ t.maxConcurrency ∧ t.maxConcurrency ≤ 64) .concurrency]

/-- What is asked of the schema of an entry, if it has one. -/
def ResourceEntry.schemaRules (e : ResourceEntry) : List (Demand ResourceFault) :=
  match e.schema with
  | none => []
  | some path =>
    (pathRules path).map (within .schema) ++ [asks (e.resource.declaresJson = true) .schemaWithoutJson]

/-- What is asked of an entry taken alone. -/
def ResourceEntry.rules (e : ResourceEntry) : List (Demand ResourceFault) := [
    asks (e.path.toList.head? = some '/') .noSlash,
    asks (e.path.utf8ByteSize ≤ 2048) .pathTooLong,
    asks (∀ c ∈ e.path.toList, Text.isControl c = false) .pathControl,
    asks (1 ≤ (Text.trim e.contentType).utf8ByteSize ∧ (Text.trim e.contentType).utf8ByteSize ≤ 256)
      .contentTypeLength,
    asks (100 ≤ e.status ∧ e.status ≤ 599) .statusRange] ++
  e.schemaRules

/-- What is asked of an entry behind others. It may not have the path of one of them. -/
def entryRules (before : List ResourceEntry) (e : ResourceEntry) : List (Demand ConfigFault) :=
  (e.rules ++ [asks (e.path ∉ before.map (·.path)) (ResourceFault.repeated e.path)]).map
    (within (.resource before.length))

/-- What is asked of a catalog. -/
def catalogRules (entries : List ResourceEntry) : List (Demand ConfigFault) := [
    asks (1 ≤ entries.length) .noResources,
    asks (entries.length ≤ 256) .tooManyResources] ++
  each entryRules entries

/-- What is asked of routing rules. -/
def Routing.rules (r : Routing) : List (Demand ConfigFault) := [
  asks (r.rejectedChars.length ≤ 32) .tooManyRejected,
  asks ('/' ∉ r.rejectedChars.toList) .rejectedSlash]

/-- What is asked of a step behind others. -/
def stepRules (before : List ScenarioStep) (step : ScenarioStep) : List (Demand ScenarioFault) :=
  [asks (Element.parse? step.element ≠ none) (.unknownElement before.length step.element)]

/-- What is asked of a scenario taken alone. -/
def Scenario.rules (s : Scenario) : List (Demand ScenarioFault) := [
    asks (Text.trim s.name ≠ "") .blankName,
    asks (1 ≤ s.steps.length ∧ s.steps.length ≤ 256) .stepCount] ++
  each stepRules s.steps

/-- What is asked of a recipient behind others. It may not be one of them. -/
def recipientRules (before : List String) (id : String) : List (Demand ConfigFault) := [
  asks (IsReceiver id) (.malformedRecipient id),
  asks (id ∉ before) (.repeatedRecipient id)]

/-- What is asked of a scenario behind others. It may not have the name of one of them. -/
def scenarioRules (before : List Scenario) (s : Scenario) : List (Demand ConfigFault) :=
  (s.rules ++ [asks (s.name ∉ before.map (·.name)) ScenarioFault.repeated]).map (within (.scenario s.name))

/-- What is asked of a workflow. -/
def Workflow.rules (w : Workflow) : List (Demand ConfigFault) :=
  [asks (1 ≤ w.recipients.length ∧ w.recipients.length ≤ 64) .recipientCount] ++
  each recipientRules w.recipients ++
  [asks (w.scenarios.length ≤ 64) .tooManyScenarios] ++
  each scenarioRules w.scenarios

/-- What is asked of the place of an audit log, if it has one. -/
def AuditTarget.placeRules (a : AuditTarget) : List (Demand ConfigFault) :=
  match a.path with
  | none => []
  | some path => (pathRules path).map (within .auditPath)

/-- What is asked of an audit log. -/
def AuditTarget.rules (a : AuditTarget) : List (Demand ConfigFault) :=
  asks (a.mode = .file → a.path ≠ none) .noAuditPath :: a.placeRules

/-- What is asked of a configuration, in order. -/
def Config.rules [UrlLibrary] (c : Config) : List (Demand ConfigFault) :=
  c.target.rules ++ catalogRules c.resources ++ c.routing.rules ++ c.workflow.rules ++ c.audit.rules

/-! ## The first fault is what the first broken rule finds -/

theorem isRecipientId_iff {id : String} : Element.isRecipientId id = true ↔ IsReceiver id := by
  rw [Element.isRecipientId, Bool.and_eq_true, List.isPrefixOf_iff_prefix]
  constructor
  · rintro ⟨⟨digits, hid⟩, hread⟩
    rw [← hid, show ("receiver-".toList ++ digits).drop 9 = digits from rfl, Decimal.read?] at hread
    have hdigits : digits ≠ [] ∧ ∀ c ∈ digits, '0' ≤ c ∧ c ≤ '9' := by
      simpa [Decimal.isDigit, Option.isSome_iff_exists] using hread
    refine ⟨digits, hdigits.1, hdigits.2, ?_⟩
    rw [← String.toList_inj, ← hid]
    simp
  · rintro ⟨digits, hne, hdigits, rfl⟩
    have hid : ("receiver-" ++ String.ofList digits).toList = "receiver-".toList ++ digits := by
      simp
    rw [hid, show ("receiver-".toList ++ digits).drop 9 = digits from rfl, Decimal.read?]
    refine ⟨List.prefix_append _ _, ?_⟩
    simpa [Decimal.isDigit, hne] using hdigits

theorem isEmpty_eq_false_iff_one_le {α : Type} {xs : List α} : xs.isEmpty = false ↔ 1 ≤ xs.length := by
  cases xs <;> simp

theorem longestPiece_le_iff {path : String} {n : Nat} :
    Path.longestPiece path ≤ n ↔ ∀ piece ∈ Text.pieces '/' path, piece.utf8ByteSize ≤ n := by
  have hfold : ∀ (pieces : List String) (m : Nat),
      pieces.foldl (fun n p => max n p.utf8ByteSize) m ≤ n ↔ m ≤ n ∧ ∀ p ∈ pieces, p.utf8ByteSize ≤ n := by
    intro pieces
    induction pieces with
    | nil => simp
    | cons p pieces ih =>
      intro m
      rw [List.foldl_cons, ih, List.forall_mem_cons, Nat.max_le, and_assoc]
  rw [Path.longestPiece, hfold]
  simp

theorem reports_path (path : String) : Reports (pathRules path) (pathFault? path) := by
  have hexcess : ∀ p, (Path.excess? p).map PathFault.excess =
      (faultIf (Path.maxTotal < p.utf8ByteSize) (.excess .total) <|>
        faultIf (Path.maxComponent < Path.longestPiece p) (.excess .component)) := by
    intro p
    unfold Path.excess?
    split
    · simp [faultIf, *]
    · split <;> simp [faultIf, *]
  rw [pathFault?, hexcess]
  refine .cons (.asks_iff ?_) (.cons .asks_le (.asks_iff ?_))
  · simp
  · rw [decide_eq_false_iff_not, Nat.not_lt]
    exact longestPiece_le_iff

theorem reports_baseUrl [UrlLibrary] (t : Target) : Reports (baseUrlRules t.baseUrl) (match t.url with
    | .ok _ => none
    | .error fault => some fault) := by
  unfold Target.url baseUrlRules
  cases UrlLibrary.parse (Text.trim t.baseUrl) with
  | error e => exact .broken (by simp)
  | ok url =>
    refine .kept (by simp [Kept]) ?_
    by_cases hscheme : url.scheme ∈ httpSchemes
    · refine .asked (by rintro _ ⟨⟩; exact hscheme) ?_
      simp only [hscheme, not_true_eq_false, if_false]
      cases url with
      | other scheme => exact .not_asked (by simp)
      | web url =>
        by_cases hhost : url.authority.host.text = ""
        · simp only [hhost]
          exact .not_asked (by simp [hhost])
        · refine .asked (by rintro _ ⟨⟩; exact ⟨url, rfl, hhost⟩) ?_
          simp only [String.isEmpty_iff, hhost, if_false]
          by_cases hmore : (url.hasQuery || url.hasFragment) = true
          · rw [if_pos hmore]
            refine .not_asked fun h => ?_
            rw [(h url rfl).1, (h url rfl).2] at hmore
            cases hmore
          · rw [if_neg hmore]
            rw [Bool.not_eq_true, Bool.or_eq_false_iff] at hmore
            exact .asked (by rintro _ ⟨⟩; exact hmore) .nil
    · simp only [hscheme, not_false_eq_true, if_true]
      exact .not_asked fun h => hscheme (h _ rfl)

/-- A count of a machine word between two bounds. -/
theorem word_between_iff {n m : UInt64} : (n == 0 || m < n) = false ↔ 1 ≤ n ∧ n ≤ m := by
  rw [Bool.or_eq_false_iff, decide_eq_false_iff_not, UInt64.not_lt, beq_eq_false_iff_ne]
  refine and_congr_left fun _ => ?_
  rw [ne_eq, ← UInt64.toNat_inj, UInt64.le_iff_toNat_le]
  exact Nat.one_le_iff_ne_zero.symm

theorem Target.reports [UrlLibrary] (t : Target) : Reports t.rules t.fault? := by
  have hurl := (reports_baseUrl t).within ConfigFault.baseUrl
  rw [rules, fault?]
  refine .append ?_ (.cons (.asks_iff word_between_iff) (.asks_iff word_between_iff))
  cases h : t.url <;> rw [h] at hurl <;> exact hurl

theorem ResourceEntry.reports_schema (e : ResourceEntry) : Reports e.schemaRules e.schemaFault? := by
  unfold schemaRules schemaFault?
  cases e.schema with
  | none => exact .nil
  | some path => exact ((reports_path path).within _).append (.asks_iff (by simp))

theorem ResourceEntry.reports (e : ResourceEntry) : Reports e.rules e.fault? := by
  refine .cons (.asks_iff ?_) (.cons .asks_le (.cons (.asks_iff ?_) (.cons (.asks_between ?_)
    (.cons (.asks_iff ?_) e.reports_schema))))
  · simp
  · simp
  · simp [Nat.one_le_iff_ne_zero]
  · simp

theorem reports_entries (entries : List ResourceEntry) :
    Reports (each entryRules entries) (entriesFault? 0 [] entries) := by
  -- the scan carries the place of an entry and the paths before it
  refine Reports.each (fun (s : Nat × List String) es => entriesFault? s.1 s.2 es)
    (fun s e => (e.fault? <|> faultIf (s.2.contains e.path) (ResourceFault.repeated e.path)).map (.resource s.1))
    (fun s e => (s.1 + 1, e.path :: s.2))
    (fun before s => s.1 = before.length ∧ ∀ p, p ∈ s.2 ↔ p ∈ before.map (·.path))
    (fun _ => rfl) (fun _ _ _ => rfl) ?_ ?_ (s := (0, [])) ⟨rfl, fun _ => Iff.rfl⟩ entries
  · rintro before ⟨i, seen⟩ e ⟨rfl, hseen⟩
    refine (e.reports.append (.asks_iff ?_)).within _
    simp [hseen]
  · rintro before ⟨i, seen⟩ e ⟨rfl, hseen⟩
    simp [hseen, or_comm]

theorem reports_catalog (entries : List ResourceEntry) :
    Reports (catalogRules entries) (resourcesFault? entries) :=
  .cons (.asks_iff isEmpty_eq_false_iff_one_le) (.cons .asks_le (reports_entries entries))

theorem Routing.reports (r : Routing) : Reports r.rules r.fault? := by
  exact .cons .asks_le (.asks_iff (by simp))

theorem Scenario.reports (s : Scenario) : Reports s.rules s.fault? := by
  refine .cons (.asks_iff ?_) (.cons (.asks_between isEmpty_eq_false_iff_one_le) ?_)
  · rw [← Bool.not_eq_true, Text.isBlankText_iff]
  · refine Reports.each stepsFault?
      (fun i step => faultIf (Element.parse? step.element).isNone (.unknownElement i step.element))
      (fun i _ => i + 1) (fun before i => i = before.length) (fun _ => rfl) (fun _ _ _ => rfl) ?_ ?_ rfl s.steps
    · rintro before _ step rfl
      exact .asks_iff (by cases Element.parse? step.element <;> simp)
    · rintro before _ step rfl
      simp

theorem reports_recipients (ids : List String) : Reports (each recipientRules ids) (recipientsFault? [] ids) := by
  refine Reports.each recipientsFault?
    (fun seen id => faultIf (!Element.isRecipientId id) (.malformedRecipient id) <|>
      faultIf (seen.contains id) (.repeatedRecipient id))
    (fun seen id => id :: seen) (fun before seen => ∀ id, id ∈ seen ↔ id ∈ before)
    (fun _ => rfl) (fun _ _ _ => ?_) ?_ ?_ (fun _ => Iff.rfl) ids
  · rw [recipientsFault?]
    cases faultIf (!Element.isRecipientId _) _ <;> rfl
  · rintro before seen id hseen
    refine .cons (.asks_iff ?_) (.asks_iff ?_)
    · simp [isRecipientId_iff]
    · simp [hseen]
  · rintro before seen id hseen
    simp [hseen, or_comm]

theorem reports_scenarios (scenarios : List Scenario) :
    Reports (each scenarioRules scenarios) (scenariosFault? [] scenarios) := by
  refine Reports.each scenariosFault?
    (fun seen s => (s.fault? <|> faultIf (seen.contains s.name) ScenarioFault.repeated).map (.scenario s.name))
    (fun seen s => s.name :: seen) (fun before seen => ∀ name, name ∈ seen ↔ name ∈ before.map (·.name))
    (fun _ => rfl) (fun _ _ _ => rfl) ?_ ?_ (fun _ => Iff.rfl) scenarios
  · rintro before seen s hseen
    refine (s.reports.append (.asks_iff ?_)).within _
    simp [hseen]
  · rintro before seen s hseen
    simp [hseen, or_comm]

theorem Workflow.reports (w : Workflow) : Reports w.rules w.fault? := by
  rw [rules, List.append_assoc, List.append_assoc]
  exact .append (.asks_between isEmpty_eq_false_iff_one_le) (.append (reports_recipients _)
    (.append .asks_le (reports_scenarios _)))

theorem AuditTarget.reports (a : AuditTarget) : Reports a.rules a.fault? := by
  refine .cons (.asks_iff ?_) ?_
  · cases a.mode <;> cases a.path <;> simp
  · unfold placeRules
    cases a.path with
    | none => exact .nil
    | some path => exact (reports_path path).within _

/-- The first fault of a configuration is what the first rule it breaks finds. -/
theorem Config.reports [UrlLibrary] (c : Config) : Reports c.rules c.fault? := by
  rw [rules, List.append_assoc, List.append_assoc, List.append_assoc]
  exact c.target.reports.append ((reports_catalog _).append (c.routing.reports.append
    (c.workflow.reports.append c.audit.reports)))

end Conformance
