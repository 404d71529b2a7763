import Conformance.Proofs.Record.RoundTrip
import Conformance.Proofs.Report.Filling
import Conformance.Proofs.Report.Totals
import Conformance.Run.Program
/-!
# The end of a run

A command that ran tells its summary three times: in the exit code, in the report, and in the event that
closes the audit log. All three tell the same one.
-/

namespace Conformance

/-! ## Last lines -/

/-- The last line of a text whose lines all end in a line feed. -/
def Text.LastLine (line text : String) : Prop :=
  text = line ++ "\n" ∨ ∃ before, text = before ++ "\n" ++ line ++ "\n"

theorem Text.join_concat {sep line : String} {lines : List String} (h : lines ≠ []) :
    join sep (lines ++ [line]) = join sep lines ++ sep ++ line := by
  induction lines with
  | nil => exact absurd rfl h
  | cons s rest ih =>
    cases rest with
    | nil => rfl
    | cons t rest =>
      show s ++ sep ++ join sep (t :: rest ++ [line]) = s ++ sep ++ join sep (t :: rest) ++ sep ++ line
      rw [ih (List.cons_ne_nil t rest)]
      simp only [String.append_assoc]

theorem Text.lastLine_join (lines : List String) (line : String) :
    LastLine line (join "\n" (lines ++ [line]) ++ "\n") := by
  cases lines with
  | nil => exact .inl rfl
  | cons s rest => exact .inr ⟨_, by rw [join_concat (List.cons_ne_nil s rest)]⟩

theorem AuditEvent.lastLine_log (time : Nat) (events : List AuditEvent) (e : AuditEvent) :
    Text.LastLine (e.toJson time).compact (log time (events ++ [e])) := by
  rcases List.eq_nil_or_concat events with rfl | ⟨earlier, last, rfl⟩
  · exact .inl (by simp [log, line])
  · exact .inr ⟨log time earlier ++ (last.toJson time).compact, by simp [log, line, String.append_assoc]⟩

/-! ## Documents about a summary -/

/-- A document tells the status and the counts of a summary. -/
structure Json.Tells (doc : Json) (s : Summary) : Prop where
  status : doc.get? "status" = some (.string s.status.label)
  counts : (doc.get? "summary").bind Summary.ofJson? = some s

theorem Summary.ofJson?_toJson (s : Summary) : ofJson? s.toJson = some s := by
  simp [ofJson?, toJson, Record.required?, Json.lookup]

/-- The counts of a summary. -/
def Summary.counts (s : Summary) : List Nat :=
  [s.checks, s.passed, s.failed, s.inconclusive, s.notValidated, s.scenarios, s.scenariosFailed]

theorem Summary.readable_toJson {number? : Json.Numeral → Option Json.Number} (depth : Nat) {s : Summary}
    (h : ∀ n ∈ s.counts, Json.Takes number? n) : Json.Readable number? (depth + 1) s.toJson := by
  simpa [toJson, counts] using h

theorem Results.tells_toJson (r : Results) : r.toJson.Tells r.summary where
  status := by simp [toJson, Json.get?, Json.lookup]
  counts := by simp [toJson, Json.get?, Json.lookup, Summary.ofJson?_toJson]

/-- A log ends with the event of a finished command, which tells a summary. -/
def AuditEvent.Closed (label : String) (s : Summary) (log : String) : Prop :=
  ∃ doc : Json, Text.LastLine doc.compact log ∧ doc.get? "event" = some (.string "harness_run") ∧
    doc.get? "command" = some (.string label) ∧ doc.Tells s

theorem Results.closed_log (r : Results) (label : String) (time : Nat) :
    AuditEvent.Closed label r.summary (AuditEvent.log time (r.events label)) := by
  refine ⟨_, AuditEvent.lastLine_log time _ (.ofRun label r.summary), ?_, ?_, ?_, ?_⟩
  all_goals simp [AuditEvent.toJson, AuditEvent.ofRun, Json.get?, Json.lookup, Summary.ofJson?_toJson]

/-- A log holds one event of a finished command. -/
theorem Results.run_mem_events_iff {r : Results} {label command : String} {status : Status} {s : Summary} :
    .run command status s ∈ r.events label ↔
      command = label ∧ status = r.summary.status ∧ s = r.summary := by
  simp [events, AuditEvent.ofVerdict, AuditEvent.ofScenario, AuditEvent.ofRun]

/-! ## Answers about a summary -/

/-- What an answer has to say about a summary, in its exit code, in its report, and in the log that goes to
the audit sink. -/
structure Answer.Tells (a : Answer) (sink : AuditSink) (label : String) (f : Format) (s : Summary) :
    Prop where
  pass : a.exit = 0 ↔ s.status = .pass
  fail : a.exit = 1 ↔ s.status = .fail
  inconclusive : a.exit = 2 ↔ s.status = .inconclusive
  text : f = .text → Text.LastLine
    ("Summary: " ++ s.status.label ++ "; checks " ++ Decimal.text s.checks ++
      ", passed " ++ Decimal.text s.passed ++ ", failed " ++ Decimal.text s.failed ++
      ", inconclusive " ++ Decimal.text s.inconclusive ++
      ", schema not performed " ++ Decimal.text s.notValidated ++
      "; scenarios " ++ Decimal.text s.scenarios ++ ", failed " ++ Decimal.text s.scenariosFailed ++ ".")
    a.stdout
  json : f = .json → ∃ doc : Json, a.stdout = doc.pretty ++ "\n" ∧ doc.Tells s
  stderr : sink = .stderr → AuditEvent.Closed label s a.stderr
  file : ∀ path, sink = .file path → ∃ log, a.appended = some (path, log) ∧ AuditEvent.Closed label s log

theorem Program.tells_finish (s : Surroundings) (sink : AuditSink) (label : String) (r : Results) (f : Format) :
    (finish s sink label r f).Tells sink label f r.summary where
  pass := by
    show r.summary.status.exitCode = 0 ↔ _
    cases r.summary.status <;> decide
  fail := by
    show r.summary.status.exitCode = 1 ↔ _
    cases r.summary.status <;> decide
  inconclusive := by
    show r.summary.status.exitCode = 2 ↔ _
    cases r.summary.status <;> decide
  text := by
    rintro rfl
    rw [← Summary.line_eq]
    exact Text.lastLine_join _ _
  json := by
    rintro rfl
    exact ⟨_, rfl, r.tells_toJson⟩
  stderr := by
    rintro rfl
    exact r.closed_log label s.now
  file := by
    rintro path rfl
    exact ⟨_, rfl, r.closed_log label s.now⟩

/-- The counts of a run are sums over its results, its status follows from the results and only gets worse
with more of them, and whatever a finished command says is about these counts and this status. -/
theorem Results.totals_agree (r : Results) :
    (r.summary.checks = r.verdicts.length ∧
      r.summary.checks = r.summary.passed + r.summary.failed + r.summary.inconclusive) ∧
    (∀ t : Results, (r ++ t).summary = r.summary + t.summary) ∧
    (∀ batches : List Results, (batches.flatMap (·.verdicts)).Perm r.verdicts →
      (batches.flatMap (·.scenarios)).Perm r.scenarios →
      r.summary = Summary.total (batches.map summary)) ∧
    ((r.summary.status = .fail ↔ r.Fails) ∧
      (r.summary.status = .inconclusive ↔ ¬ r.Fails ∧ r.Stalls) ∧
      (r.summary.status = .pass ↔ ¬ r.Fails ∧ ¬ r.Stalls)) ∧
    (Status.pass < .inconclusive ∧ Status.inconclusive < .fail ∧
      ∀ t : Results, r.summary.status ≤ (r ++ t).summary.status) ∧
    (∀ label command status s, .run command status s ∈ r.events label ↔
      command = label ∧ status = r.summary.status ∧ s = r.summary) ∧
    ∀ s sink label f, (Program.finish s sink label r f).Tells sink label f r.summary := by
  refine ⟨⟨rfl, Summary.balanced_ofResults _ _⟩, r.summary_append, fun _ => summary_eq_total,
    ⟨status_eq_fail_iff, status_eq_inconclusive_iff, status_eq_pass_iff⟩,
    ⟨by decide, by decide, r.status_le_append⟩, fun _ _ _ _ => run_mem_events_iff, ?_⟩
  intro s sink label f
  exact Program.tells_finish s sink label r f

end Conformance
