import Conformance.Proofs.Run.Finish
import Conformance.Proofs.Text.Utf8
/-!
# Reading an audit log back

An audit log is a file to which every event is appended as one line. Whatever texts the events carry, each line
is told from the others by its line feed, and is read back as its event.
-/

namespace Conformance

/-! ## Events and their documents -/

namespace AuditEvent

theorem ofJson?_toJson (time : Nat) (e : AuditEvent) : ofJson? (e.toJson time) = some (time, e) := by
  cases e with
  | verdict resource verb expectedStatus observedStatus outcome detail notes =>
    simp [ofJson?, toJson, Record.required?, Json.lookup, Json.string?, Record.nullable?_status,
      Record.nullable?_string, Record.list?_string]
  | scenario name outcome finalPhase failedStep reason transitions =>
    simp [ofJson?, toJson, Record.required?, Json.lookup, Json.string?, Record.nullable?_natural,
      Record.nullable?_string]
  | run command status summary =>
    simp [ofJson?, toJson, Record.required?, Json.lookup, Json.string?, Status.ofLabel?_label,
      Summary.ofJson?_toJson]

end AuditEvent

section
open Json (Readable Takes)
variable {number? : Json.Numeral → Option Json.Number} (depth : Nat)

/-- The numbers of an event that are no statuses. -/
def AuditEvent.counts : AuditEvent → List Nat
  | .verdict .. => []
  | .scenario _ _ _ failedStep _ transitions => failedStep.toList ++ [transitions]
  | .run _ _ summary => summary.counts

theorem AuditEvent.readable_toJson (hwords : ∀ n < UInt16.size, Takes number? n) {time : Nat} {e : AuditEvent}
    (h : ∀ n ∈ time :: e.counts, Takes number? n) : Readable number? (depth + 2) (e.toJson time) := by
  cases e with
  | verdict resource verb expectedStatus observedStatus outcome detail notes =>
    simp [toJson, Verb.toJson, Record.readable_status hwords, h time List.mem_cons_self]
  | scenario name outcome finalPhase failedStep reason transitions =>
    have htime := h time List.mem_cons_self
    have hstep (n : Nat) (hn : n ∈ failedStep) : Takes number? n := h n (by simp_all [counts])
    have htransitions : Takes number? transitions := h transitions (by simp [counts])
    simpa [toJson, PhaseName.toJson, htime, htransitions] using hstep
  | run command status summary =>
    simp only [List.mem_cons, forall_eq_or_imp, counts] at h
    simp [toJson, h.1, Summary.readable_toJson depth h.2]

end

/-! ## Lines -/

namespace AuditEvent

/-- A log with one more event in it, as its last line. -/
def append (time : Nat) (file : ByteArray) (e : AuditEvent) : ByteArray := file ++ (line time e).toUTF8

/-- The event of a line of a log, with its time. -/
def ofLine? (line : ByteArray) : Option (Nat × AuditEvent) :=
  (String.fromUTF8? line).bind fun text => (Json.unrounded? text).bind ofJson?

theorem readable_unrounded (time : Nat) (e : AuditEvent) :
    Json.Readable Json.Numeral.unrounded? Json.deepest (e.toJson time) :=
  readable_toJson 125 (fun n _ => Json.takes_unrounded n) (fun n _ => Json.takes_unrounded n)

theorem readable_number {time : Nat} {e : AuditEvent} (h : ∀ n ∈ time :: e.counts, n < UInt64.size) :
    Json.Readable Json.Numeral.number? Json.deepest (e.toJson time) :=
  readable_toJson 125 Json.takes_word (fun n hn => Json.takes_number (h n hn))

theorem ofLine?_compact (time : Nat) (e : AuditEvent) :
    ofLine? (e.toJson time).compact.toUTF8 = some (time, e) := by
  have hread := Json.unrounded?_compact (readable_unrounded time e)
  rw [ofLine?, Text.fromUTF8?_toUTF8, Option.bind_some, hread, Option.bind_some, ofJson?_toJson]

theorem foldl_append (records : List (Nat × AuditEvent)) (file : ByteArray) :
    records.foldl (fun file r => append r.1 file r.2) file =
      file ++ (String.join (records.map fun r => line r.1 r.2)).toUTF8 := by
  induction records generalizing file with
  | nil => simp
  | cons r rest ih =>
    rw [List.foldl_cons, ih, append, List.map_cons, String.join_cons, Text.toUTF8_append,
      ByteArray.append_assoc]

/-- Events with their times, appended one by one to a file that is empty or ends in a line feed, add a line
each, in order, and leave the lines that were there as they are. Whatever texts the events carry, the compact
document of an event has no line feed, and the line is read back as the event with its time; so does the reader
that rounds numbers beyond 64 bits, if there are none. -/
theorem log_recovers (old : ByteArray) (hold : old = .empty ∨ ∃ before, old = before ++ "\n".toUTF8)
    (records : List (Nat × AuditEvent)) :
    let new := records.foldl (fun file r => append r.1 file r.2) old
    let texts := records.map fun r => (r.2.toJson r.1).compact
    (∀ text ∈ texts, '\n' ∉ text.toList) ∧
    (∃ added, new = old ++ added ∧ Text.lines added = (texts.map String.toUTF8, .empty) ∧
      Text.lines new = ((Text.lines old).1 ++ texts.map String.toUTF8, .empty)) ∧
    texts.map (fun text => ofLine? text.toUTF8) = records.map some ∧
    (∀ time e, (time, e) ∈ records → (∀ n ∈ time :: e.counts, n < UInt64.size) →
      (Json.ofBytes? (e.toJson time).compact.toUTF8).bind ofJson? = some (time, e)) ∧
    ∀ time events, events.foldl (append time) old = old ++ (log time events).toUTF8 := by
  intro new texts
  have hline : ∀ text ∈ texts, '\n' ∉ text.toList := by
    intro text htext
    obtain ⟨r, -, rfl⟩ := List.mem_map.1 htext
    exact (readable_unrounded r.1 r.2).lineFeed_notMem_compact
  have hadded := Text.lines_join hline
  have hnew : new = old ++ (String.join (texts.map (· ++ "\n"))).toUTF8 := by
    rw [show new = _ from foldl_append records old, List.map_map]
    rfl
  refine ⟨hline, ⟨_, hnew, hadded, ?_⟩, ?_, ?_, ?_⟩
  · rw [hnew, Text.lines_append hold, hadded]
  · rw [List.map_map]
    exact List.map_congr_left fun r _ => ofLine?_compact r.1 r.2
  · intro time e _ h
    have hread := Json.parse?_compact (readable_number h)
    rw [Json.ofBytes?, Text.fromUTF8?_toUTF8, Option.bind_some, hread, Option.bind_some, ofJson?_toJson]
  · intro time events
    have hevents := foldl_append (events.map (time, ·)) old
    rwa [List.foldl_map, List.map_map] at hevents

/-- Two events in which texts try to end their line, their string or their record. -/
def hostile : List (Nat × AuditEvent) := [
  (5, .scenario "a\n\"\x7d\\" "fail" .form (some 3) (some "\r\t\u0001\u000c\u0008\u2028é𝄞") 0),
  (1180591620717411303424, .verdict "/\"," .get 200 none "inconclusive" (some "\n") ["null", "\\u0041"])]

theorem log_recovers_hostile :
    let old := "# log\n".toUTF8
    let new := hostile.foldl (fun file r => append r.1 file r.2) old
    (Text.lines new).1.length = 3 ∧ (Text.lines new).2 = .empty ∧
    hostile.map (fun r => ofLine? (r.2.toJson r.1).compact.toUTF8) = hostile.map some := by
  intro old new
  obtain ⟨-, ⟨added, -, -, hlines⟩, hread, -, -⟩ :=
    log_recovers old (.inr ⟨"# log".toUTF8, Text.toUTF8_append "# log" "\n"⟩) hostile
  have hold : (Text.lines old).1.length = 1 := by
    decide +kernel
  rw [List.map_map] at hread
  refine ⟨?_, by rw [show Text.lines new = _ from hlines], hread⟩
  rw [show Text.lines new = _ from hlines, List.length_append, hold]
  rfl

end AuditEvent

end Conformance
