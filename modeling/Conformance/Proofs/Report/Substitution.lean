import Mathlib.Data.List.Find
import Mathlib.Data.List.Induction
import Mathlib.Data.List.Nodup
import Conformance.Proofs.Report.Filling
/-!
# Substitution in one pass

Arguments are filled in one after the other, each over the whole text so far, yet what comes out is the template
with all its marks replaced at once. In the catalog no mark is followed by a character that could go on a name or
close one, so a mark is never put together from the end of a value and the text behind it, and the only marks a
value can bring in are those it spells. As long as it spells none of an argument still to come, the order of the
arguments is no matter.
-/

namespace Conformance.Wording

/-! ## Definitions -/

/-- A character of an identifier: a letter, a digit or an underscore in ASCII, and any character beyond it. -/
def isNameChar (c : Char) : Bool := c.isAlphanum || c == '_' || 0x7f < c.toNat

/-- No character but those of identifiers. -/
def IsName (name : String) : Prop := ∀ c ∈ name.toList, isNameChar c = true

/-- No value spells the mark of a later argument. -/
def Unentangled (args : List Argument) : Prop :=
  args.Pairwise fun a b => ¬ placeholder b.1 <:+: a.2.toList

/-- One pass over a text: where the mark of an argument begins its value is put in, and all else stays. -/
def substitute (args : List Argument) : List Char → List Char
  | [] => []
  | c :: cs =>
    match args.find? fun a => (placeholder a.1).isPrefixOf (c :: cs) with
    | some a => a.2.toList ++ substitute args (cs.drop ((placeholder a.1).length - 1))
    | none => c :: substitute args cs
termination_by cs => cs.length
decreasing_by all_goals simp; try omega

/-! ## Templates in pieces -/

/-- What may stand behind a mark: nothing, or a character that neither goes on a name nor is a brace. -/
def Apart (cs : List Char) : Prop := ∀ c ∈ cs.head?, isNameChar c = false ∧ c ≠ opening ∧ c ≠ closing

/-- Pieces without braces but those of marks, and behind each mark something that keeps apart from it. -/
def Spaced : List Piece → Prop
  | [] => True
  | .text s :: ps => opening ∉ s.toList ∧ Spaced ps
  | .mark name :: ps => IsName name ∧ Apart (spell ps) ∧ Spaced ps

/-- Reads a template, inside a mark or outside of marks, and checks that it is in such pieces. -/
def isSpaced (inMark : Bool) : List Char → Bool
  | [] => !inMark
  | c :: cs =>
    if !inMark then isSpaced (c == opening) cs
    else if c = closing then !(cs.head?.any fun d => isNameChar d || d == opening || d == closing) && isSpaced false cs
    else isNameChar c && isSpaced true cs

instance (name : String) : Decidable (IsName name) :=
  List.decidableBAll (fun c => isNameChar c = true) name.toList

instance (args : List Argument) : Decidable (Unentangled args) :=
  inferInstanceAs (Decidable (args.Pairwise fun (a b : Argument) => ¬ placeholder b.1 <:+: a.2.toList))

variable {args args' : List Argument} {a : Argument} {ps : List Piece} {name : String} {cs rest value : List Char}

theorem IsName.opening_notMem (h : IsName name) : opening ∉ name.toList := fun hmem => absurd (h _ hmem) (by decide)

theorem IsName.closing_notMem (h : IsName name) : closing ∉ name.toList := fun hmem => absurd (h _ hmem) (by decide)

/-- A template that passes the check is in pieces that keep apart. Read from inside a mark, it goes on with the rest of
a name. -/
theorem exists_of_isSpaced {inMark : Bool} (h : isSpaced inMark cs = true) :
    if inMark then
      ∃ name ps, cs = name.toList ++ closing :: spell ps ∧ IsName name ∧ Apart (spell ps) ∧ Spaced ps
    else ∃ ps, cs = spell ps ∧ Spaced ps := by
  induction cs generalizing inMark with
  | nil =>
    cases inMark with
    | false => exact ⟨[], rfl, trivial⟩
    | true => cases h
  | cons c cs ih =>
    rw [isSpaced] at h
    cases inMark with
    | false =>
      by_cases hc : c = opening
      · have hmark : isSpaced true cs = true := by simpa [hc] using h
        obtain ⟨name, ps, rfl, hname, hapart, hps⟩ := ih hmark
        exact ⟨.mark name :: ps, by simp [spell, Piece.chars, placeholder, hc, opening, closing], hname, hapart, hps⟩
      · have hflag : (c == opening) = false := beq_eq_false_iff_ne.2 hc
        have hrest : isSpaced false cs = true := by simpa [hflag] using h
        obtain ⟨ps, rfl, hps⟩ := ih hrest
        exact ⟨.text (String.singleton c) :: ps, by simp [spell, Piece.chars], by simpa using Ne.symm hc, hps⟩
    | true =>
      by_cases hc : c = closing
      · obtain ⟨hapart, hrest⟩ : cs.head?.any (fun d => isNameChar d || d == opening || d == closing) = false ∧
            isSpaced false cs = true := by simpa [hc] using h
        obtain ⟨ps, rfl, hps⟩ := ih hrest
        refine ⟨"", ps, by rw [hc]; rfl, by simp [IsName], fun d hd => ?_, hps⟩
        rw [Option.mem_def.1 hd] at hapart
        simpa [and_assoc] using hapart
      · obtain ⟨hchar, hrest⟩ : isNameChar c = true ∧ isSpaced true cs = true := by simpa [hc] using h
        obtain ⟨name, ps, rfl, hname, hapart, hps⟩ := ih hrest
        refine ⟨String.ofList (c :: name.toList), ps, by simp, ?_, hapart, hps⟩
        rw [IsName, String.toList_ofList]
        exact List.forall_mem_cons.2 ⟨hchar, hname⟩

theorem template_of_mem {key t : String} (h : (key, t) ∈ catalog) : template key = t := by
  have hall : ∀ e ∈ catalog, template e.1 = e.2 := by decide +kernel
  exact hall _ h

/-- The templates of the catalog pass the check. -/
theorem isSpaced_of_mem {key t : String} (h : (key, t) ∈ catalog) : isSpaced false t.toList = true := by
  have hall : ∀ e ∈ catalog, isSpaced false e.2.toList = true := by
    simp only [catalog, List.forall_mem_cons, List.not_mem_nil, false_implies, implies_true, and_true,
      String.toList_append]
    and_intros
    -- a literal is a list of characters by definition, which is faster to check than to compute
    all_goals
      rw [String.toList_ofList]
      decide +kernel
  exact hall _ h

/-! ## Pieces with values in them -/

/-- The argument of a name. -/
def argument? (args : List Argument) (name : String) : Option Argument := args.find? fun a => a.1 == name

/-- The characters of a piece in which the mark of an argument is replaced by its value. -/
def Piece.filled (args : List Argument) : Piece → List Char
  | .text s => s.toList
  | .mark name =>
    match argument? args name with
    | some a => a.2.toList
    | none => placeholder name

/-- The characters of a template with the marks of all arguments replaced. -/
def filled (args : List Argument) (ps : List Piece) : List Char := ps.flatMap (Piece.filled args)

theorem filled_nil (ps : List Piece) : filled [] ps = spell ps := by
  refine List.flatMap_congr fun p _ => ?_
  cases p <;> rfl

theorem filled_cons (args : List Argument) (p : Piece) (ps : List Piece) :
    filled args (p :: ps) = p.filled args ++ filled args ps := rfl

/-- Behind a mark the text begins as before, whatever is put in further on. -/
theorem apart_filled (h : Apart (spell ps)) : Apart (filled args ps) := by
  induction ps with
  | nil => exact h
  | cons p ps ih =>
    cases p with
    | text s =>
      rw [spell, List.flatMap_cons, Piece.chars, ← spell] at h
      rw [filled_cons, Piece.filled]
      cases hs : s.toList with
      | nil =>
        rw [hs] at h
        exact ih h
      | cons c cs =>
        rw [hs] at h
        exact h
    | mark name => exact absurd rfl (h opening rfl).2.1

/-! ## One argument -/

/-- No mark is put together from the end of a value and the text behind it. -/
theorem not_isPrefixOf_value {c : Char} {before : List Char} (hname : IsName name)
    (hbefore : ¬ placeholder name <+: c :: before) (hrest : Apart rest) :
    (placeholder name).isPrefixOf (c :: before ++ rest) = false := by
  rw [← Bool.not_eq_true, List.isPrefixOf_iff_prefix]
  rintro ⟨t, ht⟩
  rcases List.append_eq_append_iff.1 ht with ⟨behind, hvalue, -⟩ | ⟨behind, hmark, htext⟩
  · exact hbefore ⟨behind, hvalue.symm⟩
  · cases behind with
    | nil => exact hbefore ⟨[], by rw [List.append_nil, hmark, List.append_nil]⟩
    | cons d behind =>
      -- the mark would go on with the first character behind the value
      obtain ⟨hchar, -, hclosing⟩ := hrest d (by rw [htext]; rfl)
      have htail : name.toList ++ [closing] = before ++ d :: behind := (List.cons.inj hmark).2
      have hmem : d ∈ name.toList ++ [closing] := htail ▸ List.mem_append_right before List.mem_cons_self
      rcases List.mem_append.1 hmem with hmem | hmem
      · exact absurd (hname d hmem) (by rw [hchar]; exact Bool.false_ne_true)
      · exact hclosing (List.mem_singleton.1 hmem)

/-- A value that does not spell a mark stays as it is. -/
theorem replaceAll_value {before : List Char} (hname : IsName name) (hbefore : ¬ placeholder name <:+: before)
    (hrest : Apart rest) :
    replaceAll (placeholder name) value (before ++ rest) = before ++ replaceAll (placeholder name) value rest := by
  induction before with
  | nil => rfl
  | cons c before ih =>
    have hmark := not_isPrefixOf_value hname (mt List.IsPrefix.isInfix hbefore) hrest
    have hbehind := ih (mt (fun h => h.trans (List.suffix_cons c before).isInfix) hbefore)
    rw [List.cons_append] at hmark ⊢
    rw [replaceAll_cons_of_not hmark, hbehind, List.cons_append]

theorem argument?_concat (args : List Argument) (a : Argument) (name : String) :
    argument? (args ++ [a]) name = (argument? args name).or (if a.1 = name then some a else none) := by
  rw [argument?, List.find?_append, ← argument?]
  congr 1
  by_cases h : a.1 = name <;> simp [h]

/-- A further argument is filled in where its mark stands, and nothing that was filled in before is touched. -/
theorem fill_filled (hps : Spaced ps) (hname : IsName a.1)
    (hvalues : ∀ b ∈ args, ¬ placeholder a.1 <:+: b.2.toList) :
    fill (filled args ps) a = filled (args ++ [a]) ps := by
  induction ps with
  | nil => exact replaceAll_eq_self List.not_mem_nil
  | cons p ps ih =>
    rw [filled_cons, filled_cons]
    cases p with
    | text s =>
      rw [Piece.filled, Piece.filled, ← ih hps.2]
      exact replaceAll_append hps.1
    | mark name =>
      obtain ⟨hmark, hapart, hps⟩ := hps
      simp only [Piece.filled, argument?_concat]
      cases hfind : argument? args name with
      | some b =>
        rw [Option.some_or, ← ih hps]
        exact replaceAll_value hname (hvalues b (List.mem_of_find?_eq_some hfind)) (apart_filled hapart)
      | none =>
        rw [Option.none_or, ← ih hps]
        by_cases heq : a.1 = name
        · rw [if_pos heq, ← heq]
          exact replaceAll_placeholder
        · rw [if_neg heq]
          exact replaceAll_other (Ne.symm heq) hname.closing_notMem hmark.opening_notMem hmark.closing_notMem

/-! ## All arguments -/

theorem foldl_fill_eq_filled (hps : Spaced ps) (hnames : ∀ a ∈ args, IsName a.1) (horder : Unentangled args) :
    args.foldl fill (spell ps) = filled args ps := by
  -- from the last argument: the ones before it are filled in already
  induction args using List.reverseRecOn with
  | nil => exact (filled_nil ps).symm
  | append_singleton args a ih =>
    obtain ⟨hbefore, hlast⟩ := List.forall_mem_append.1 hnames
    obtain ⟨horder, -, hvalues⟩ := List.pairwise_append.1 horder
    rw [List.foldl_append, ih hbefore horder]
    exact fill_filled hps (hlast a List.mem_cons_self) fun b hb => hvalues b hb a List.mem_cons_self

/-! ## In one pass -/

theorem substitute_cons_of_none {c : Char} (h : ∀ a ∈ args, (placeholder a.1).isPrefixOf (c :: cs) = false) :
    substitute args (c :: cs) = c :: substitute args cs := by
  have hfind : args.find? (fun a => (placeholder a.1).isPrefixOf (c :: cs)) = none :=
    List.find?_eq_none.2 fun a ha => by simp [h a ha]
  rw [substitute, hfind]

theorem substitute_append {before : List Char} (h : opening ∉ before) :
    substitute args (before ++ rest) = before ++ substitute args rest := by
  induction before with
  | nil => rfl
  | cons c before ih =>
    obtain ⟨hc, hbefore⟩ := not_or.1 (mt List.mem_cons.2 h)
    have hmark : ∀ a ∈ args, (placeholder a.1).isPrefixOf (c :: (before ++ rest)) = false := by
      intro a _
      rw [← Bool.not_eq_true, List.isPrefixOf_iff_prefix]
      exact fun hprefix => hc (List.cons_prefix_cons.1 hprefix).1
    rw [List.cons_append, substitute_cons_of_none hmark, ih hbefore, List.cons_append]

theorem substitute_mark (hnames : ∀ a ∈ args, IsName a.1) (hname : IsName name) :
    substitute args (placeholder name ++ rest) = (Piece.mark name).filled args ++ substitute args rest := by
  have hsame : ∀ a ∈ args, (placeholder a.1).isPrefixOf (placeholder name ++ rest) = (a.1 == name) := by
    intro a ha
    by_cases h : a.1 = name
    · rw [h, beq_self_eq_true, List.isPrefixOf_iff_prefix]
      exact List.prefix_append _ _
    · rw [isPrefixOf_placeholder (Ne.symm h) (hnames a ha).closing_notMem hname.closing_notMem, beq_eq_false_iff_ne.2 h]
  have hfind : args.find? (fun a => (placeholder a.1).isPrefixOf (placeholder name ++ rest)) = argument? args name :=
    List.find?_congr hsame
  have hbehind : opening ∉ name.toList ++ [closing] := by
    simpa [opening, closing] using hname.opening_notMem
  have hcons : placeholder name ++ rest = opening :: (name.toList ++ [closing] ++ rest) := rfl
  rw [hcons] at hfind ⊢
  rw [substitute, hfind, Piece.filled]
  cases hargument : argument? args name with
  | some a =>
    obtain rfl : a.1 = name := by simpa using List.find?_some hargument
    simp [placeholder]
  | none =>
    simp only
    rw [substitute_append hbehind]
    rfl

theorem substitute_spell (hps : Spaced ps) (hnames : ∀ a ∈ args, IsName a.1) :
    substitute args (spell ps) = filled args ps := by
  induction ps with
  | nil => rw [spell, List.flatMap_nil, substitute]; rfl
  | cons p ps ih =>
    rw [spell, List.flatMap_cons, ← spell, filled_cons]
    cases p with
    | text s => rw [Piece.chars, substitute_append hps.1, ih hps.2, Piece.filled]
    | mark name => rw [Piece.chars, substitute_mark hnames hps.1, ih hps.2.2]

/-! ## In any order -/

theorem argument?_eq_some_iff (hdistinct : (args.map (·.1)).Nodup) :
    argument? args name = some a ↔ a ∈ args ∧ a.1 = name := by
  constructor
  · intro h
    exact ⟨List.mem_of_find?_eq_some h, by simpa using List.find?_some h⟩
  · rintro ⟨ha, rfl⟩
    cases hfind : argument? args a.1 with
    | none => exact absurd (List.find?_eq_none.1 hfind a ha) (by simp)
    | some b =>
      have hsame : b.1 = a.1 := by simpa using List.find?_some hfind
      rw [List.inj_on_of_nodup_map hdistinct (List.mem_of_find?_eq_some hfind) ha hsame]

/-- Arguments of different names are put in alike in any order. -/
theorem filled_perm (h : args'.Perm args) (hdistinct : (args.map (·.1)).Nodup) (ps : List Piece) :
    filled args' ps = filled args ps := by
  have hdistinct' : (args'.map (·.1)).Nodup := (h.map (·.1)).nodup_iff.2 hdistinct
  have hargument (name : String) : argument? args' name = argument? args name := by
    ext a
    rw [argument?_eq_some_iff hdistinct', argument?_eq_some_iff hdistinct, h.mem_iff]
  refine List.flatMap_congr fun p _ => ?_
  cases p with
  | text s => rfl
  | mark name => rw [Piece.filled, Piece.filled, hargument]

/-- A template of the catalog is translated as if all arguments were put in at once: one pass over the template
replaces the mark of each argument by its value as it stands and leaves all else as it is. It takes that the names
of the arguments are different identifiers and that no value spells the mark of a later argument. In every other
order for which that is so the text is the same. -/
theorem translate_simultaneous {key t : String} (hkey : (key, t) ∈ catalog) {args : List Argument}
    (hnames : ∀ a ∈ args, IsName a.1) (hdistinct : (args.map (·.1)).Nodup) (horder : Unentangled args) :
    translate key args = String.ofList (substitute args t.toList) ∧
      ∀ args' : List Argument, args'.Perm args → Unentangled args' → translate key args' = translate key args := by
  obtain ⟨ps, hspell, hspaced⟩ := exists_of_isSpaced (isSpaced_of_mem hkey)
  have hfilled (args : List Argument) (hnames : ∀ a ∈ args, IsName a.1) (horder : Unentangled args) :
      translate key args = String.ofList (filled args ps) := by
    rw [translate, template_of_mem hkey, hspell, foldl_fill_eq_filled hspaced hnames horder]
  constructor
  · rw [hfilled args hnames horder, ← substitute_spell hspaced hnames, hspell]
  · intro args' hperm horder'
    have hnames' : ∀ a ∈ args', IsName a.1 := fun a ha => hnames a (hperm.subset ha)
    rw [hfilled args' hnames' horder', hfilled args hnames horder, filled_perm hperm hdistinct]

/-- Values with braces, a part of a mark and the mark of an argument before them. -/
theorem translate_braces_simultaneous :
    let args : List Argument :=
      [("verb", "GET"), ("path", "/\x7bverb"), ("violation", "\x7bverb\x7d \x7b\x7bpath \x7d")]
    let other : List Argument :=
      [("path", "/\x7bverb"), ("verb", "GET"), ("violation", "\x7bverb\x7d \x7b\x7bpath \x7d")]
    translate "report.verdict.fail" args = "FAIL GET /\x7bverb: \x7bverb\x7d \x7b\x7bpath \x7d" ∧
      other.Perm args ∧ translate "report.verdict.fail" other = translate "report.verdict.fail" args := by
  intro args other
  have hperm : other.Perm args := .swap _ _ _
  have hkey : ("report.verdict.fail", "FAIL \x7bverb\x7d \x7bpath\x7d: \x7bviolation\x7d") ∈ catalog := by
    decide +kernel
  obtain ⟨honce, horder⟩ := translate_simultaneous hkey (by decide +kernel : ∀ a ∈ args, IsName a.1)
    (by decide +kernel) (by decide +kernel)
  refine ⟨?_, hperm, horder other hperm (by decide +kernel)⟩
  rw [honce]
  decide +kernel

end Conformance.Wording
