import Mathlib.Data.List.Forall2
import Conformance.Proofs.Matrix.Routing
import Conformance.Proofs.Text.Padding
/-!
# JSON media types

A content type names its media type in front of the first semicolon, with white space around it that does not
count. The name is one of JSON if it is `application/json` or ends in `+json`, in whatever case its letters are
written. What a resource declares and what an exact expectation asks for are put to this one test.
-/

namespace Conformance

namespace Text

/-! ## Letters in another case -/

/-- A character is a capital of ASCII, and another one is its small letter. -/
def Lowers (c d : Char) : Prop := 'A'.toNat ≤ c.toNat ∧ c.toNat ≤ 'Z'.toNat ∧ d.toNat = c.toNat + 32

/-- The same character, or the same letter of ASCII in the other case. -/
def SameLetter (c d : Char) : Prop := c = d ∨ Lowers c d ∨ Lowers d c

/-- The same text, letters of ASCII in another case. -/
def Recased (cs ds : List Char) : Prop := List.Forall₂ SameLetter cs ds

variable {c d : Char} {cs ds : List Char}

theorem toNat_toLower (c : Char) :
    c.toLower.toNat = if 'A'.toNat ≤ c.toNat ∧ c.toNat ≤ 'Z'.toNat then c.toNat + 32 else c.toNat := by
  delta Char.toLower
  simp only [ge_iff_le, UInt32.le_iff_toNat_le, Char.toNat_val]
  split
  · rename_i h
    have hle : c.toNat ≤ 90 := h.2
    have hsum : (c.val + ('a'.val - 'A'.val)).toNat = (c.toNat + 32) % 2 ^ 32 := UInt32.toNat_add c.val 32
    rw [← Char.toNat_val, hsum, Nat.mod_eq_of_lt (by omega)]
  · rfl

theorem toLower_eq_iff : c.toLower = d.toLower ↔ SameLetter c d := by
  rw [← Char.toNat_inj, toNat_toLower, toNat_toLower, SameLetter, Lowers, Lowers, ← Char.toNat_inj]
  simp only [Char.reduceToNat]
  split <;> split <;> omega

theorem map_toLower_eq_iff : cs.map Char.toLower = ds.map Char.toLower ↔ Recased cs ds := by
  rw [← List.forall₂_eq_eq_eq, List.forall₂_map_left_iff, List.forall₂_map_right_iff]
  simp only [toLower_eq_iff, Recased]

/-- Only a capital is changed, and neither a capital nor a small letter is white space. -/
theorem isBlank_toLower (c : Char) : isBlank c.toLower = isBlank c := by
  rw [Bool.eq_iff_iff, isBlank_iff, isBlank_iff, toNat_toLower]
  split
  · rename_i h
    have hrange : 65 ≤ c.toNat ∧ c.toNat ≤ 90 := h
    simp only [whiteSpace, List.mem_cons, List.not_mem_nil, or_false]
    omega
  · rfl

theorem map_toLower_trimChars (cs : List Char) :
    (trimChars cs).map Char.toLower = trimChars (cs.map Char.toLower) := by
  have hblank : isBlank ∘ Char.toLower = isBlank := funext isBlank_toLower
  simp only [trimChars, List.dropWhile_map, ← List.map_reverse, hblank]

/-! ## Trimming -/

/-- Nothing but white space. -/
def White (cs : List Char) : Prop := ∀ c ∈ cs, c.toNat ∈ whiteSpace

/-- No white space at either end. -/
def Bare (cs : List Char) : Prop :=
  (∀ c ∈ cs.head?, c.toNat ∉ whiteSpace) ∧ ∀ c ∈ cs.getLast?, c.toNat ∉ whiteSpace

theorem white_iff : White cs ↔ ∀ c ∈ cs, isBlank c = true := by simp only [White, isBlank_iff]

theorem bare_iff : Bare cs ↔ (∀ c ∈ cs.head?, isBlank c = false) ∧ ∀ c ∈ cs.getLast?, isBlank c = false := by
  simp only [Bare, ← isBlank_iff, Bool.not_eq_true]

theorem trimChars_of_bare (h : Bare cs) : trimChars cs = cs := by
  obtain ⟨hhead, hlast⟩ := bare_iff.1 h
  have hkept (ds : List Char) (hds : ∀ c ∈ ds.head?, isBlank c = false) : ds.dropWhile isBlank = ds := by
    cases ds with
    | nil => rfl
    | cons d ds => exact List.dropWhile_cons_of_neg (by simpa using hds d rfl)
  have hback : ∀ c ∈ cs.reverse.head?, isBlank c = false := by rwa [List.head?_reverse]
  rw [trimChars, hkept cs hhead, hkept _ hback, List.reverse_reverse]

theorem bare_trimChars (cs : List Char) : Bare (trimChars cs) := by
  have hbehind : trimChars cs = (cs.dropWhile isBlank).rdropWhile isBlank := rfl
  have hfirst (ds : List Char) : ∀ c ∈ (ds.dropWhile isBlank).head?, isBlank c = false := by
    intro c hc
    have hnot := List.head?_dropWhile_not isBlank ds
    rw [Option.mem_def.1 hc] at hnot
    exact hnot
  refine bare_iff.2 ⟨fun c hc => ?_, fun c hc => ?_⟩
  · obtain ⟨rest, hrest⟩ := List.head?_eq_some_iff.1 hc
    obtain ⟨behind, hcut⟩ := List.rdropWhile_prefix isBlank (cs.dropWhile isBlank)
    refine hfirst cs c ?_
    rw [← hcut, ← hbehind, hrest]
    rfl
  · rw [trimChars, List.getLast?_reverse] at hc
    exact hfirst _ c hc

/-- What trimming leaves of a text is found between white space and has none at its ends. -/
theorem trimChars_eq_iff : trimChars cs = ds ↔
    ∃ before behind, cs = before ++ ds ++ behind ∧ White before ∧ White behind ∧ Bare ds := by
  constructor
  · rintro rfl
    have hparts := lead_append_trim_append_trail (String.ofList cs)
    rw [← String.toList_inj, String.toList_append, String.toList_append, trim, String.toList_ofList,
      String.toList_ofList] at hparts
    exact ⟨_, _, hparts.symm, white_iff.2 fun c => isBlank_of_mem_lead, white_iff.2 fun c => isBlank_of_mem_trail,
      bare_trimChars cs⟩
  · rintro ⟨before, behind, rfl, hbefore, hbehind, hbare⟩
    rw [trimChars_append_right (white_iff.1 hbehind), trimChars_append_left (white_iff.1 hbefore),
      trimChars_of_bare hbare]

end Text

/-! ## The name of a media type -/

open Text

/-- What may stand behind a media type: nothing, or a semicolon with anything behind it. -/
def AreParameters (cs : List Char) : Prop := cs = [] ∨ cs.head? = some ';'

/-- A content type names a media type in front of the first semicolon, white space around the name apart. -/
def NamesMedia (contentType : String) (name : List Char) : Prop :=
  ∃ before behind parameters, contentType.toList = before ++ name ++ behind ++ parameters ∧
    White before ∧ White behind ∧ Bare name ∧ ';' ∉ before ++ name ++ behind ∧ AreParameters parameters

/-- A name of JSON: `application/json`, or any text that ends in `+json`. -/
def IsJsonName (name : List Char) : Prop :=
  Recased name "application/json".toList ∨
    ∃ front suffix, name = front ++ suffix ∧ Recased suffix "+json".toList

variable {t : String} {name front parameters : List Char}

theorem takeWhile_parameters (hfront : ';' ∉ front) (h : AreParameters parameters) :
    (front ++ parameters).takeWhile (· != ';') = front := by
  have hkept : ∀ c ∈ front, (c != ';') = true := fun c hc => bne_iff_ne.2 (ne_of_mem_of_not_mem hc hfront)
  rw [List.takeWhile_append_of_pos hkept]
  rcases h with rfl | h
  · rw [List.takeWhile_nil, List.append_nil]
  · obtain ⟨rest, rfl⟩ := List.head?_eq_some_iff.1 h
    rw [List.takeWhile_cons_of_neg (by decide), List.append_nil]

theorem essence_parameters (hfront : ';' ∉ front) (h : AreParameters parameters)
    (ht : t.toList = front ++ parameters) : essence t = trimChars front := by
  rw [essence, ht, takeWhile_parameters hfront h]

/-- The text in front of the first semicolon, and what is behind it. -/
theorem exists_parameters (t : String) :
    ∃ front parameters, t.toList = front ++ parameters ∧ ';' ∉ front ∧ AreParameters parameters := by
  refine ⟨t.toList.takeWhile (· != ';'), t.toList.dropWhile (· != ';'),
    List.takeWhile_append_dropWhile.symm, fun h => ?_, ?_⟩
  · exact absurd (List.mem_takeWhile_imp h) (by decide)
  · have hnot := List.head?_dropWhile_not (· != ';') t.toList
    unfold AreParameters
    cases hrest : t.toList.dropWhile (· != ';') with
    | nil => exact .inl rfl
    | cons c rest =>
      rw [hrest] at hnot
      exact .inr (by simpa using hnot)

theorem essence_eq_iff : essence t = name ↔ NamesMedia t name := by
  constructor
  · intro h
    obtain ⟨front, parameters, ht, hfront, hparameters⟩ := exists_parameters t
    rw [essence_parameters hfront hparameters ht] at h
    obtain ⟨before, behind, rfl, hbefore, hbehind, hbare⟩ := trimChars_eq_iff.1 h
    exact ⟨before, behind, parameters, ht, hbefore, hbehind, hbare, hfront, hparameters⟩
  · rintro ⟨before, behind, parameters, ht, hbefore, hbehind, hbare, hfront, hparameters⟩
    rw [essence_parameters hfront hparameters ht]
    exact trimChars_eq_iff.2 ⟨before, behind, rfl, hbefore, hbehind, hbare⟩

/-- The test on a content type sees nothing but its essence, in lower case. -/
theorem isJsonMedia_eq_true_iff : isJsonMedia t = true ↔ IsJsonName (essence t) := by
  have hjson : "application/json".toList.map Char.toLower = "application/json".toList := by decide
  have hsuffix : "+json".toList.map Char.toLower = "+json".toList := by decide
  rw [isJsonMedia, IsJsonName, ← map_toLower_eq_iff, hjson]
  simp only [Bool.or_eq_true, beq_iff_eq, List.isSuffixOf_iff_suffix, ← map_toLower_eq_iff, hsuffix]
  refine or_congr Iff.rfl ⟨?_, ?_⟩
  · rintro ⟨front, hfront⟩
    obtain ⟨as, bs, hname, -, hbs⟩ := List.map_eq_append_iff.1 hfront.symm
    exact ⟨as, bs, hname, hbs⟩
  · rintro ⟨front, suffix, hname, h⟩
    rw [hname, List.map_append, h]
    exact List.suffix_append _ _

theorem map_toLower_essence (t : String) :
    (essence t).map Char.toLower = trimChars ((t.toList.map Char.toLower).takeWhile (· != ';')) := by
  have hsame (c : Char) : c.toLower = ';' ↔ c = ';' := by
    rw [← Char.toNat_inj, toNat_toLower, ← Char.toNat_inj]
    simp only [Char.reduceToNat]
    split <;> omega
  have hsemicolon : (· != ';') ∘ Char.toLower = (· != ';') := by
    funext c
    rw [Bool.eq_iff_iff, Function.comp_apply, bne_iff_ne, bne_iff_ne, ne_eq, ne_eq, hsame]
  rw [essence, map_toLower_trimChars, List.takeWhile_map, hsemicolon]

theorem isJsonMedia_congr {t' : String} (h : (essence t).map Char.toLower = (essence t').map Char.toLower) :
    isJsonMedia t = isJsonMedia t' := by
  rw [isJsonMedia, h, isJsonMedia]

/-- A content type is one of JSON exactly if the media type it names in front of its first semicolon, without the
white space around it, is `application/json` or ends in `+json`, whatever the case of their letters. So the answer
is the same for a content type with its letters in another case, with white space around the name of its media
type, or with parameters put behind it. What a resource declares is one of JSON exactly if an exact expectation of
what it declares expects JSON, and the expectations of a policy on a valid path are of this kind, for GET and where
DELETE mirrors it. -/
theorem json_media_exact :
    (∀ t, ∃! name, NamesMedia t name) ∧
    (∀ t, isJsonMedia t = true ↔ ∃ name, NamesMedia t name ∧ IsJsonName name) ∧
    (∀ t t' : String, Recased t.toList t'.toList → isJsonMedia t' = isJsonMedia t) ∧
    (∀ before part behind parameters : String, White before.toList → White behind.toList →
      ';' ∉ part.toList → AreParameters parameters.toList →
      isJsonMedia (before ++ part ++ behind ++ parameters) = isJsonMedia (part ++ parameters)) ∧
    (∀ t parameters : String, isJsonMedia (t ++ ";" ++ parameters) = isJsonMedia t) ∧
    ∀ r : Resource,
      (∀ e : Expectation, e.contentType = .exact r.contentType → e.expectsJson = r.declaresJson) ∧
      ∀ (p : Policy) (v : Verb), p.classify r.path = .valid → Policy.Mirrors p.delete v →
        (p.evaluate r v).expectsJson = r.declaresJson := by
  have hexpects (r : Resource) (e : Expectation) (h : e.contentType = .exact r.contentType) :
      e.expectsJson = r.declaresJson := by
    rw [Expectation.expectsJson, h]
    rfl
  refine ⟨fun t => ?_, fun t => ?_, fun t t' h => ?_, ?_, fun t parameters => ?_, fun r => ⟨hexpects r, ?_⟩⟩
  · exact ⟨essence t, essence_eq_iff.1 rfl, fun name h => (essence_eq_iff.2 h).symm⟩
  · rw [isJsonMedia_eq_true_iff]
    constructor
    · intro h
      exact ⟨essence t, essence_eq_iff.1 rfl, h⟩
    · rintro ⟨name, hname, h⟩
      rwa [essence_eq_iff.2 hname]
  · apply isJsonMedia_congr
    rw [map_toLower_essence, map_toLower_essence, map_toLower_eq_iff.2 h]
  · intro before part behind parameters hbefore hbehind hpart hparameters
    have hsemicolon : ∀ cs, White cs → ';' ∉ cs := fun cs hcs hmem => absurd (hcs _ hmem) (by decide)
    have hfront : ';' ∉ before.toList ++ part.toList ++ behind.toList := by
      simp [hsemicolon _ hbefore, hsemicolon _ hbehind, hpart]
    apply isJsonMedia_congr
    rw [essence_parameters hfront hparameters (by simp), essence_parameters hpart hparameters (by simp),
      trimChars_append_right (white_iff.1 hbehind), trimChars_append_left (white_iff.1 hbefore)]
  · obtain ⟨front, old, ht, hfront, hold⟩ := exists_parameters t
    apply isJsonMedia_congr
    have hmore : AreParameters (old ++ ';' :: parameters.toList) := by
      rcases hold with rfl | hold
      · exact .inr rfl
      · obtain ⟨rest, rfl⟩ := List.head?_eq_some_iff.1 hold
        exact .inr rfl
    rw [essence_parameters hfront hold ht, essence_parameters hfront hmore]
    simp [ht]
  · intro p v hpath hv
    apply hexpects
    rw [Policy.evaluate_of_mirrors hpath hv]

example : isJsonMedia "\u3000Application/Problem+JSON\t; title=\";\"" = true ∧
    isJsonMedia "text/html; application/json" = false ∧ isJsonMedia ";application/json" = false := by
  decide +kernel

end Conformance
