import Mathlib.Data.List.Sort
import Conformance.Proofs.Matrix.Plan
/-!
# What routing makes of a resource

A path is looked at before the verb and the verb before what the resource declares. `TurnsAway` says which
paths the routing rejects, by code points and by the characters of the policy taken as a set. What is owed on a
rejected path, or by a verb that writes, says nothing about the declared contract.
-/

namespace Conformance

/-- The code points with the property `White_Space`. -/
def Text.whiteSpace : List Nat := [0x09, 0x0a, 0x0b, 0x0c, 0x0d, 0x20, 0x85, 0xa0, 0x1680, 0x2000, 0x2001, 0x2002,
  0x2003, 0x2004, 0x2005, 0x2006, 0x2007, 0x2008, 0x2009, 0x200a, 0x2028, 0x2029, 0x202f, 0x205f, 0x3000]

theorem Text.isBlank_iff {ch : Char} : isBlank ch = true ↔ ch.toNat ∈ whiteSpace := by
  simp only [isBlank, whiteSpace, Bool.or_eq_true, Bool.and_eq_true, decide_eq_true_eq, beq_iff_eq, List.mem_cons,
    List.not_mem_nil, or_false]
  omega

theorem Text.isAsciiControl_iff {ch : Char} : isAsciiControl ch = true ↔ ch.toNat < 0x20 ∨ ch.toNat = 0x7f := by
  simp [isAsciiControl]

namespace Policy

/-- The routing turns a path away: it is empty, does not start with a slash, or holds an ASCII control character,
white space or a rejected character. -/
def TurnsAway (rejected path : String) : Prop :=
  path = "" ∨ path.toList.head? ≠ some '/' ∨
    ∃ ch ∈ path.toList, (ch.toNat < 0x20 ∨ ch.toNat = 0x7f) ∨ ch.toNat ∈ Text.whiteSpace ∨ ch ∈ rejected.toList

variable {p : Policy} {rejected other path : String} {delete : DeleteRule} {r : Resource} {v : Verb}

/-! ## Classes of paths -/

theorem refuses_iff {ch : Char} : (ofText rejected delete).refuses ch = true ↔
    (ch.toNat < 0x20 ∨ ch.toNat = 0x7f) ∨ ch.toNat ∈ Text.whiteSpace ∨ ch ∈ rejected.toList := by
  rw [← Text.isAsciiControl_iff, ← Text.isBlank_iff]
  simp [refuses, ofText, Text.mem_ascending, or_assoc]

theorem classify_eq_malformed_iff :
    (ofText rejected delete).classify path = .malformed ↔ TurnsAway rejected path := by
  have hclass : (ofText rejected delete).classify path = .malformed ↔
      ¬ (ofText rejected delete).classify path = .valid := by
    cases (ofText rejected delete).classify path <;> simp
  rw [hclass, classify_eq_valid_iff]
  constructor
  · intro h
    by_cases hslash : path.toList.head? = some '/'
    · refine .inr (.inr ?_)
      by_contra hnone
      refine h ⟨hslash, fun ch hch => ?_⟩
      rw [← Bool.not_eq_true, refuses_iff]
      exact fun hrefused => hnone ⟨ch, hch, hrefused⟩
    · exact .inr (.inl hslash)
  · rintro (rfl | hslash | ⟨ch, hch, hrefused⟩) ⟨hhead, hclean⟩
    · cases hhead
    · exact hslash hhead
    · have hkept := hclean ch hch
      rw [refuses_iff.2 hrefused] at hkept
      cases hkept

theorem classify_of_not_turnsAway (h : ¬ TurnsAway rejected path) :
    (ofText rejected delete).classify path = .valid := by
  cases hclass : (ofText rejected delete).classify path with
  | valid => rfl
  | malformed => exact absurd (classify_eq_malformed_iff.1 hclass) h

/-- The rejected characters count as a set. -/
theorem ofText_congr (h : ∀ ch, ch ∈ rejected.toList ↔ ch ∈ other.toList) :
    ofText other delete = ofText rejected delete := by
  have hsame : Text.ascending other.toList = Text.ascending rejected.toList := by
    refine List.Pairwise.eq_of_mem_iff (Text.pairwise_ascending _) (Text.pairwise_ascending _) fun ch => ?_
    rw [Text.mem_ascending, Text.mem_ascending, h]
  unfold ofText
  rw [hsame]

theorem TurnsAway.mono (h : rejected.toList ⊆ other.toList) (hpath : TurnsAway rejected path) :
    TurnsAway other path := by
  rcases hpath with hempty | hslash | ⟨ch, hch, hcontrol | hblank | hrejected⟩
  · exact .inl hempty
  · exact .inr (.inl hslash)
  · exact .inr (.inr ⟨ch, hch, .inl hcontrol⟩)
  · exact .inr (.inr ⟨ch, hch, .inr (.inl hblank)⟩)
  · exact .inr (.inr ⟨ch, hch, .inr (.inr (h hrejected))⟩)

/-! ## What is owed -/

/-- The verb owes what the resource declares. -/
def Mirrors (delete : DeleteRule) (v : Verb) : Prop := v = .get ∨ v = .delete ∧ delete = .likeGet

theorem evaluate_of_mirrors (hpath : p.classify r.path = .valid) (hv : Mirrors p.delete v) :
    p.evaluate r v = ⟨r.status, .exact r.contentType⟩ := by
  unfold evaluate
  rw [hpath]
  rcases hv with rfl | ⟨rfl, hdelete⟩
  · rfl
  · rw [hdelete]

theorem evaluate_of_not_mirrors (hpath : p.classify r.path = .valid) (hv : ¬ Mirrors p.delete v) :
    p.evaluate r v = ⟨405, .unconstrained⟩ := by
  unfold evaluate
  rw [hpath]
  cases v with
  | get => exact absurd (.inl rfl) hv
  | post | put => rfl
  | delete =>
    cases hdelete : p.delete with
    | likeGet => exact absurd (.inr ⟨rfl, hdelete⟩) hv
    | refused => rfl

theorem evaluate_of_turnsAway (h : TurnsAway rejected r.path) :
    (ofText rejected delete).evaluate r v = ⟨404, .exact Resource.errorPage⟩ := by
  apply evaluate_of_not_valid
  rw [classify_eq_malformed_iff.2 h]
  simp

/-- On a rejected path, and by a verb that writes, neither what the resource declares nor the rule for DELETE
matters. -/
theorem evaluate_eq_of_path {s : Resource} {delete' : DeleteRule} (hpath : s.path = r.path)
    (h : TurnsAway rejected r.path ∨ v = .post ∨ v = .put) :
    (ofText rejected delete').evaluate s v = (ofText rejected delete).evaluate r v := by
  by_cases haway : TurnsAway rejected r.path
  · rw [evaluate_of_turnsAway haway, evaluate_of_turnsAway (hpath ▸ haway)]
  · have hv : ∀ rule, ¬ Mirrors rule v := by
      rcases h.resolve_left haway with rfl | rfl <;> simp [Mirrors]
    rw [evaluate_of_not_mirrors (classify_of_not_turnsAway haway) (hv _),
      evaluate_of_not_mirrors (classify_of_not_turnsAway (hpath ▸ haway)) (hv _)]

/-- What is owed, for any rejected characters in any order and with any repetitions. A path that is empty, does
not start with a slash or holds an ASCII control character, white space or a rejected character owes the error
page to every verb. On any other path GET, and DELETE where it mirrors GET, owe what the resource declares, and
every other verb is refused. The rejected characters are kept in ascending order and count as a set, and more of
them only turn valid paths into malformed ones. On malformed paths and for POST and PUT neither the declared
contract nor the rule for DELETE has a part in the outcome. -/
theorem routing_exact (rejected : String) (delete : DeleteRule) (r : Resource) (v : Verb) :
    let p := ofText rejected delete
    (∀ path, p.classify path = .malformed ↔ TurnsAway rejected path) ∧
    (TurnsAway rejected r.path → p.evaluate r v = ⟨404, .exact "text/html; charset=UTF-8"⟩) ∧
    (¬ TurnsAway rejected r.path → Mirrors delete v → p.evaluate r v = ⟨r.status, .exact r.contentType⟩) ∧
    (¬ TurnsAway rejected r.path → ¬ Mirrors delete v → p.evaluate r v = ⟨405, .unconstrained⟩) ∧
    p.rejected.Pairwise (· < ·) ∧ (∀ ch, ch ∈ p.rejected ↔ ch ∈ rejected.toList) ∧
    (∀ other, (∀ ch, ch ∈ rejected.toList ↔ ch ∈ other.toList) →
      (∀ path, (ofText other delete).classify path = p.classify path) ∧
      (∀ r v, (ofText other delete).evaluate r v = p.evaluate r v) ∧
      ∀ catalog, (ofText other delete).plan catalog = p.plan catalog) ∧
    (∀ more, rejected.toList ⊆ more.toList → ∀ path,
      (ofText more delete).classify path = p.classify path ∨
        p.classify path = .valid ∧ (ofText more delete).classify path = .malformed) ∧
    ∀ (s : Resource) delete', s.path = r.path → p.classify r.path = .malformed ∨ v = .post ∨ v = .put →
      (ofText rejected delete').evaluate s v = p.evaluate r v := by
  intro p
  refine ⟨fun path => classify_eq_malformed_iff, evaluate_of_turnsAway, ?_, ?_, Text.pairwise_ascending _,
    fun ch => Text.mem_ascending, ?_, ?_, ?_⟩
  · intro hpath hv
    exact evaluate_of_mirrors (classify_of_not_turnsAway hpath) hv
  · intro hpath hv
    exact evaluate_of_not_mirrors (classify_of_not_turnsAway hpath) hv
  · intro other hsame
    rw [ofText_congr hsame]
    exact ⟨fun _ => rfl, fun _ _ => rfl, fun _ => rfl⟩
  · intro more hmore path
    by_cases haway : TurnsAway rejected path
    · left
      rw [classify_eq_malformed_iff.2 haway, classify_eq_malformed_iff.2 (haway.mono hmore)]
    · have hvalid : p.classify path = .valid := classify_of_not_turnsAway haway
      rw [hvalid]
      cases (ofText more delete).classify path with
      | valid => exact .inl rfl
      | malformed => exact .inr ⟨rfl, rfl⟩
  · intro s delete' hpath h
    rw [classify_eq_malformed_iff] at h
    exact evaluate_eq_of_path hpath h

end Policy

end Conformance
