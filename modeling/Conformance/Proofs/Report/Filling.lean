import Mathlib.Data.List.TakeWhile
import Conformance.Report.Rendering
/-!
# Filling a template

An argument goes where its mark stands and nowhere else: text without an opening brace stays as it is, and
so does the mark of another argument. So a template taken apart into pieces is filled piece by piece, as
long as no value but the last opens a brace of its own. The line of a note and the line of a summary are
read off their templates this way. Whatever the values hold, their characters and those of the template come
out, and no others.
-/

namespace Conformance.Wording

variable {mark value before rest : List Char} {name other : String}

/-- The brace that opens a mark. -/
def opening : Char := '\x7b'

/-- The brace that closes a mark. -/
def closing : Char := '\x7d'

theorem replaceAll_cons_of_not {c : Char} (h : mark.isPrefixOf (c :: rest) = false) :
    replaceAll mark value (c :: rest) = c :: replaceAll mark value rest := by
  rw [replaceAll, h]
  rfl

/-- Text in front of the first brace stays as it is. -/
theorem replaceAll_append (h : opening ∉ before) :
    replaceAll (placeholder name) value (before ++ rest) =
      before ++ replaceAll (placeholder name) value rest := by
  induction before with
  | nil => rfl
  | cons c cs ih =>
    obtain ⟨hc, hcs⟩ := not_or.1 (mt List.mem_cons.2 h)
    have hhead : ('\x7b' == c) = false := beq_eq_false_iff_ne.2 hc
    have hmark : (placeholder name).isPrefixOf (c :: (cs ++ rest)) = false := by
      rw [placeholder, List.cons_append, List.isPrefixOf, hhead, Bool.false_and]
    rw [List.cons_append, replaceAll_cons_of_not hmark, ih hcs, List.cons_append]

theorem replaceAll_eq_self (h : opening ∉ rest) : replaceAll (placeholder name) value rest = rest := by
  have happend : replaceAll (placeholder name) value (rest ++ []) = rest ++ _ := replaceAll_append h
  rwa [List.append_nil, replaceAll, List.append_nil] at happend

/-- A mark is replaced by its value. -/
theorem replaceAll_placeholder :
    replaceAll (placeholder name) value (placeholder name ++ rest) =
      value ++ replaceAll (placeholder name) value rest := by
  have hprefix : (placeholder name).isPrefixOf (placeholder name ++ rest) = true :=
    List.isPrefixOf_iff_prefix.2 (List.prefix_append _ _)
  rw [placeholder, List.cons_append, List.cons_append] at hprefix ⊢
  rw [replaceAll, if_pos hprefix]
  congr 2
  simp

/-- A mark does not begin with the mark of another argument. -/
theorem isPrefixOf_placeholder (hne : other ≠ name) (hname : closing ∉ name.toList)
    (hother : closing ∉ other.toList) :
    (placeholder name).isPrefixOf (placeholder other ++ rest) = false := by
  rw [← Bool.not_eq_true, List.isPrefixOf_iff_prefix]
  rintro ⟨t, ht⟩
  -- both names end at the first closing brace
  have hupto (s : String) (cs : List Char) (hs : closing ∉ s.toList) :
      (s.toList ++ closing :: cs).takeWhile (· ≠ closing) = s.toList := by
    rw [List.takeWhile_append_of_pos fun c hc => decide_eq_true (ne_of_mem_of_not_mem hc hs)]
    simp
  have hcons : opening :: (name.toList ++ closing :: t) = opening :: (other.toList ++ closing :: rest) := by
    simpa [placeholder, opening, closing] using ht
  have htail := (List.cons.inj hcons).2
  apply hne
  rw [← String.toList_inj, ← hupto other rest hother, ← htail, hupto name t hname]

/-- The mark of another argument stays as it is. -/
theorem replaceAll_other (hne : other ≠ name) (hname : closing ∉ name.toList)
    (hopening : opening ∉ other.toList) (hclosing : closing ∉ other.toList) :
    replaceAll (placeholder name) value (placeholder other ++ rest) =
      placeholder other ++ replaceAll (placeholder name) value rest := by
  have hmark : (placeholder name).isPrefixOf (placeholder other ++ rest) = false :=
    isPrefixOf_placeholder hne hname hclosing
  have hbefore : opening ∉ other.toList ++ ['\x7d'] := by
    rw [List.mem_append]
    exact not_or.2 ⟨hopening, by decide⟩
  have hcons : placeholder other ++ rest = opening :: (other.toList ++ ['\x7d'] ++ rest) := rfl
  rw [hcons] at hmark ⊢
  rw [replaceAll_cons_of_not hmark, replaceAll_append hbefore]
  rfl

/-! ## Piece by piece -/

/-- A piece of a template. -/
inductive Piece where
  /-- text that stays -/
  | text (s : String)
  /-- the mark of an argument -/
  | mark (name : String)

namespace Piece

variable {p : Piece} {a : Argument}

/-- The characters of a piece. -/
def chars : Piece → List Char
  | .text s => s.toList
  | .mark name => placeholder name

/-- No brace besides the two of a mark. -/
def Plain : Piece → Prop
  | .text s => opening ∉ s.toList
  | .mark name => opening ∉ name.toList ∧ closing ∉ name.toList

instance : DecidablePred Plain
  | .text s => inferInstanceAs (Decidable (opening ∉ s.toList))
  | .mark name => inferInstanceAs (Decidable (opening ∉ name.toList ∧ closing ∉ name.toList))

/-- The piece with an argument put in. -/
def put (a : Argument) : Piece → Piece
  | .text s => .text s
  | .mark name => if name = a.1 then .text a.2 else .mark name

theorem Plain.put (hp : p.Plain) (hvalue : opening ∉ a.2.toList) : (p.put a).Plain := by
  cases p with
  | text s => exact hp
  | mark name =>
    rw [Piece.put]
    split
    · exact hvalue
    · exact hp

theorem fill_chars_append (hp : p.Plain) (hname : closing ∉ a.1.toList) :
    fill (p.chars ++ rest) a = (p.put a).chars ++ fill rest a := by
  cases p with
  | text s => exact replaceAll_append hp
  | mark name =>
    by_cases h : name = a.1
    · rw [put, if_pos h, chars, h]
      exact replaceAll_placeholder
    · rw [put, if_neg h, chars]
      exact replaceAll_other h hname hp.1 hp.2

end Piece

/-- The characters of a template in pieces. -/
def spell (ps : List Piece) : List Char := ps.flatMap Piece.chars

/-- The pieces with all arguments put in, in order. -/
def putAll (args : List Argument) (ps : List Piece) : List Piece :=
  args.foldl (fun ps a => ps.map (.put a)) ps

variable {ps : List Piece} {a : Argument} {args : List Argument}

/-- One argument is filled into every piece on its own. -/
theorem fill_spell (hps : ∀ p ∈ ps, p.Plain) (hname : closing ∉ a.1.toList) :
    fill (spell ps) a = spell (ps.map (.put a)) := by
  induction ps with
  | nil => exact replaceAll_eq_self List.not_mem_nil
  | cons p ps ih =>
    obtain ⟨hp, hrest⟩ := List.forall_mem_cons.1 hps
    rw [spell, List.flatMap_cons, Piece.fill_chars_append hp hname]
    exact congrArg _ (ih hrest)

/-- A run of arguments is filled into every piece on its own, if no value but the last opens a brace. -/
theorem foldl_fill_spell (hps : ∀ p ∈ ps, p.Plain) (hnames : ∀ a ∈ args, closing ∉ a.1.toList)
    (hvalues : ∀ a ∈ args.dropLast, opening ∉ a.2.toList) :
    args.foldl fill (spell ps) = spell (putAll args ps) := by
  induction args generalizing ps with
  | nil => rfl
  | cons a rest ih =>
    obtain ⟨hname, hnames⟩ := List.forall_mem_cons.1 hnames
    rw [List.foldl_cons, fill_spell hps hname]
    cases rest with
    | nil => rfl
    | cons b rest =>
      rw [List.dropLast_cons_cons, List.forall_mem_cons] at hvalues
      refine ih (fun p hp => ?_) hnames hvalues.2
      obtain ⟨q, hq, rfl⟩ := List.mem_map.1 hp
      exact (hps q hq).put hvalues.1

@[simp] theorem ofList_spell_nil : String.ofList (spell []) = "" := rfl

@[simp] theorem ofList_spell_text (s : String) (ps : List Piece) :
    String.ofList (spell (.text s :: ps)) = s ++ String.ofList (spell ps) := by
  rw [spell, List.flatMap_cons, String.ofList_append, Piece.chars, String.ofList_toList, ← spell]

/-- The text of a key, read off the pieces of its template. -/
theorem translate_eq {key : String} (htemplate : (template key).toList = spell ps)
    (hps : ∀ p ∈ ps, p.Plain) (hnames : ∀ a ∈ args, closing ∉ a.1.toList)
    (hvalues : ∀ a ∈ args.dropLast, opening ∉ a.2.toList) :
    translate key args = String.ofList (spell (putAll args ps)) := by
  rw [translate, htemplate, foldl_fill_spell hps hnames hvalues]

/-- A number opens no brace. -/
theorem opening_notMem_digits (n : Nat) : opening ∉ (Decimal.text n).toList := by
  intro h
  rw [Decimal.text, String.toList_ofList] at h
  exact absurd (Decimal.isDigit_of_mem_digits h) (by decide)

/-! ## Characters of a filled text -/

variable {text : List Char} {names : List String} {c : Char}

theorem exists_of_isPrefixOf (h : (placeholder name).isPrefixOf (c :: text) = true) :
    ∃ rest, c :: text = placeholder name ++ rest ∧ text.drop ((placeholder name).length - 1) = rest := by
  obtain ⟨rest, hrest⟩ := List.isPrefixOf_iff_prefix.1 h
  refine ⟨rest, hrest.symm, ?_⟩
  rw [placeholder, List.cons_append, List.cons_append, List.cons.injEq] at hrest
  rw [← hrest.2]
  simp [placeholder]

/-- Only characters of the text and of the value come out. -/
theorem mem_of_mem_replaceAll (h : c ∈ replaceAll mark value text) : c ∈ text ∨ c ∈ value := by
  fun_induction replaceAll mark value text with
  | case1 => exact .inl h
  | case2 d ds _ ih =>
    rcases List.mem_append.1 h with h | h
    · exact .inr h
    · exact (ih h).imp_left fun hds => List.mem_cons_of_mem d (List.mem_of_mem_drop hds)
  | case3 d ds _ ih =>
    rcases List.mem_cons.1 h with rfl | h
    · exact .inl List.mem_cons_self
    · exact (ih h).imp_left (List.mem_cons_of_mem d)

/-- A character that the mark does not hold comes out again. -/
theorem mem_replaceAll_of_mem (hmark : c ∉ placeholder name) (h : c ∈ text) :
    c ∈ replaceAll (placeholder name) value text := by
  fun_induction replaceAll (placeholder name) value text with
  | case1 => exact h
  | case2 d ds hprefix ih =>
    obtain ⟨rest, htext, hrest⟩ := exists_of_isPrefixOf hprefix
    rw [htext, List.mem_append] at h
    rw [hrest] at ih ⊢
    exact List.mem_append_right value (ih (h.resolve_left hmark))
  | case3 d ds _ ih =>
    rcases List.mem_cons.1 h with rfl | h
    · exact List.mem_cons_self
    · exact List.mem_cons_of_mem d (ih h)

/-- Where the mark is found, the characters of the value come out. -/
theorem subset_replaceAll (h : placeholder name <:+: text) : value ⊆ replaceAll (placeholder name) value text := by
  fun_induction replaceAll (placeholder name) value text with
  | case1 => exact absurd (List.infix_nil.1 h) (List.cons_ne_nil _ _)
  | case2 d ds _ ih => exact List.subset_append_left _ _
  | case3 d ds hprefix ih =>
    rcases List.infix_cons_iff.1 h with h | h
    · exact absurd (List.isPrefixOf_iff_prefix.2 h) hprefix
    · exact List.subset_cons_of_subset d (ih h)

/-- A mark does not begin in a text without an opening brace. -/
theorem infix_of_infix_append (hbefore : opening ∉ before) (h : placeholder name <:+: before ++ rest) :
    placeholder name <:+: rest := by
  induction before with
  | nil => exact h
  | cons c before ih =>
    obtain ⟨hc, hbefore⟩ := not_or.1 (mt List.mem_cons.2 hbefore)
    refine ih hbefore ((List.infix_cons_iff.1 h).resolve_left fun hprefix => ?_)
    exact hc (List.cons_prefix_cons.1 hprefix).1

/-- The mark of another argument comes out again. -/
theorem infix_replaceAll (hne : other ≠ name) (hname : (Piece.mark name).Plain)
    (hother : (Piece.mark other).Plain) (h : placeholder other <:+: text) :
    placeholder other <:+: replaceAll (placeholder name) value text := by
  fun_induction replaceAll (placeholder name) value text with
  | case1 => exact h
  | case2 d ds hprefix ih =>
    -- the two marks do not overlap, so the other one is behind the one that is replaced
    obtain ⟨rest, htext, hrest⟩ := exists_of_isPrefixOf hprefix
    rw [hrest] at ih ⊢
    refine (ih ?_).trans (List.suffix_append value _).isInfix
    have hfront : ¬ placeholder other <+: opening :: (name.toList ++ [closing] ++ rest) := by
      rw [← List.isPrefixOf_iff_prefix, Bool.not_eq_true]
      exact isPrefixOf_placeholder hne.symm hother.2 hname.2
    rw [htext] at h
    refine infix_of_infix_append ?_ ((List.infix_cons_iff.1 h).resolve_left hfront)
    simpa [opening] using hname.1
  | case3 d ds hprefix ih =>
    rcases List.infix_cons_iff.1 h with ⟨rest, hrest⟩ | h
    · rw [← replaceAll_cons_of_not (Bool.eq_false_iff.2 hprefix), ← hrest,
        replaceAll_other hne hname.2 hother.1 hother.2]
      exact (List.prefix_append _ _).isInfix
    · exact (ih h).trans (List.suffix_cons d _).isInfix

/-- A text in which each of some names has its mark. -/
def Marks (text : List Char) (names : List String) : Prop :=
  names.Nodup ∧ ∀ name ∈ names, (Piece.mark name).Plain ∧ placeholder name <:+: text

instance (text : List Char) (names : List String) : Decidable (Marks text names) :=
  inferInstanceAs (Decidable (names.Nodup ∧ ∀ name ∈ names, (Piece.mark name).Plain ∧ placeholder name <:+: text))

theorem Marks.fill (h : Marks text (a.1 :: names)) : Marks (fill text a) names := by
  obtain ⟨hnodup, hmarks⟩ := h
  obtain ⟨hfirst, hrest⟩ := List.forall_mem_cons.1 hmarks
  obtain ⟨hnotMem, hnodup⟩ := List.nodup_cons.1 hnodup
  refine ⟨hnodup, fun name hname => ⟨(hrest name hname).1, ?_⟩⟩
  exact infix_replaceAll (ne_of_mem_of_not_mem hname hnotMem) hfirst.1 (hrest name hname).1 (hrest name hname).2

theorem mem_fill_iff (hmark : placeholder a.1 <:+: text) (hc : c ∉ placeholder a.1) :
    c ∈ fill text a ↔ c ∈ text ∨ c ∈ a.2.toList := by
  refine ⟨mem_of_mem_replaceAll, ?_⟩
  rintro (h | h)
  · exact mem_replaceAll_of_mem hc h
  · exact subset_replaceAll hmark h

/-- A filled text holds the characters it had and those of the values, the characters of the marks apart. -/
theorem mem_foldl_fill_iff (h : Marks text (args.map (·.1))) (hc : ∀ a ∈ args, c ∉ placeholder a.1) :
    c ∈ args.foldl fill text ↔ c ∈ text ∨ ∃ a ∈ args, c ∈ a.2.toList := by
  -- on the arguments: filling one in leaves the marks of the others in the text
  induction args generalizing text with
  | nil => simp
  | cons a args ih =>
    obtain ⟨hfirst, hrest⟩ := List.forall_mem_cons.1 hc
    have hmark : placeholder a.1 <:+: text := (h.2 a.1 List.mem_cons_self).2
    rw [List.foldl_cons, ih h.fill hrest, mem_fill_iff hmark hfirst, or_assoc]
    simp only [List.mem_cons, exists_eq_or_imp]

end Conformance.Wording

namespace Conformance

open Wording

/-- The pieces of the template for a note. -/
def Note.pieces : List Piece := [.text "  note: ", .mark "label", .text " (", .mark "detail", .text ")"]

/-- The line of a note. -/
theorem Note.line_eq (n : Note) : n.line = "  note: " ++ n.label ++ " (" ++ n.detail ++ ")" := by
  have hlabel : opening ∉ n.label.toList := by
    cases n
    case notValidated => exact (by decide : opening ∉ "schema validation not performed".toList)
    case validated => exact (by decide : opening ∉ "schema validated".toList)
  have htemplate : (template "report.annotation").toList = spell Note.pieces := rfl
  rw [line, translate_eq htemplate (by decide) (by simp [closing]) (by simpa using hlabel)]
  simp [Note.pieces, putAll, Piece.put, String.append_assoc]

/-- The pieces of the template for a summary. -/
def Summary.pieces : List Piece := [
  .text "Summary: ", .mark "status",
  .text "; checks ", .mark "checks",
  .text ", passed ", .mark "passed",
  .text ", failed ", .mark "failed",
  .text ", inconclusive ", .mark "inconclusive",
  .text ", schema not performed ", .mark "schema",
  .text "; scenarios ", .mark "scenarios",
  .text ", failed ", .mark "scenarios_failed",
  .text "."]

/-- The line of a summary. -/
theorem Summary.line_eq (s : Summary) :
    s.line = "Summary: " ++ s.status.label ++ "; checks " ++ Decimal.text s.checks ++
      ", passed " ++ Decimal.text s.passed ++ ", failed " ++ Decimal.text s.failed ++
      ", inconclusive " ++ Decimal.text s.inconclusive ++
      ", schema not performed " ++ Decimal.text s.notValidated ++
      "; scenarios " ++ Decimal.text s.scenarios ++ ", failed " ++ Decimal.text s.scenariosFailed ++ "." := by
  have hstatus : opening ∉ s.status.label.toList := by
    cases s.status <;> decide
  have htemplate : (template "report.summary").toList = spell Summary.pieces := by decide +kernel
  rw [line, translate_eq htemplate (by decide)
    (by simp [count, closing]) (by simp [count, hstatus, opening_notMem_digits])]
  simp [Summary.pieces, putAll, Piece.put, count, String.append_assoc]

end Conformance
