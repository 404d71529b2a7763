import Mathlib.Data.List.Nodup
import Conformance.Proofs.Verdict.Envelope
/-!
# Headers that came more than once

The values of a repeated header are folded into one before they are compared, so a repeated header meets
the contract exactly if its values fold to the literal. A literal without a comma is no fold of several
values; the one literal that is a list has three.
-/

namespace Conformance

open Text

/-! ## Folds of the contract's literals -/

namespace SecurityHeader
variable {h : SecurityHeader} {vs : List String}

/-- The lists of several values that fold to the literal of `Cache-control`. -/
def cacheControlParts : List (List String) := [
  ["no-cache", "no-store, must-revalidate"],
  ["no-cache, no-store", "must-revalidate"],
  ["no-cache", "no-store", "must-revalidate"]]

/-- The literal of every header but `Cache-control` cannot be cut at the separator of the folding. -/
theorem cuts_value (hmem : h ∈ contract) (hname : h.name ≠ "Cache-control") :
    cuts ", " h.value = [] ∧ h.value ≠ "" := by
  revert h
  decide

theorem value_cacheControl (hmem : h ∈ contract) (hname : h.name = "Cache-control") :
    h.value = "no-cache, no-store, must-revalidate" := by
  revert h
  decide

theorem join_noStore_iff : join ", " vs = "no-store, must-revalidate" ↔
    vs = ["no-store, must-revalidate"] ∨ vs = ["no-store", "must-revalidate"] := by
  cases vs with
  | nil => simp [join]
  | cons v vs =>
    have hcuts : cuts ", " "no-store, must-revalidate" = [("no-store", "must-revalidate")] := by decide
    rw [join_cons_eq_iff, hcuts, List.mem_singleton, Prod.mk.injEq,
      join_eq_iff_of_cuts (by decide) (by decide)]
    constructor
    · rintro (⟨rfl, rfl⟩ | ⟨-, rfl, rfl⟩) <;> simp
    · rintro (heq | heq) <;> cases heq <;> simp

theorem join_cacheControl_iff : join ", " vs = "no-cache, no-store, must-revalidate" ↔
    vs = ["no-cache, no-store, must-revalidate"] ∨ vs ∈ cacheControlParts := by
  -- the first value ends at one of the two commas, the others are joined to what is behind it
  cases vs with
  | nil => simp [join, cacheControlParts]
  | cons v vs =>
    have hcuts : cuts ", " "no-cache, no-store, must-revalidate" =
        [("no-cache", "no-store, must-revalidate"), ("no-cache, no-store", "must-revalidate")] := by decide
    rw [join_cons_eq_iff, hcuts, List.mem_cons, List.mem_singleton, Prod.mk.injEq, Prod.mk.injEq,
      join_noStore_iff, join_eq_iff_of_cuts (by decide) (by decide)]
    constructor
    · rintro (⟨rfl, rfl⟩ | ⟨-, ⟨rfl, rfl | rfl⟩ | ⟨rfl, rfl⟩⟩) <;> simp [cacheControlParts]
    · intro hvs
      simp only [cacheControlParts, List.mem_cons, List.not_mem_nil, or_false] at hvs
      rcases hvs with heq | heq | heq | heq <;> cases heq <;> simp

/-- Several values fold to a literal of the contract in three cases only. -/
theorem join_eq_value_iff (hmem : h ∈ contract) (hlen : 2 ≤ vs.length) :
    join ", " vs = h.value ↔ h.name = "Cache-control" ∧ vs ∈ cacheControlParts := by
  by_cases hname : h.name = "Cache-control"
  · rw [value_cacheControl hmem hname, join_cacheControl_iff]
    constructor
    · rintro (rfl | hparts)
      · exact absurd hlen (by simp)
      · exact ⟨hname, hparts⟩
    · exact fun hparts => .inr hparts.2
  · obtain ⟨hcuts, hne⟩ := cuts_value hmem hname
    rw [join_eq_iff_of_cuts hcuts hne]
    constructor
    · rintro rfl
      exact absurd hlen (by simp)
    · exact fun hparts => absurd hparts.1 hname

end SecurityHeader

/-! ## What is reported of a header -/

/-- A header of the contract is reported unless it came and its values fold to the literal. -/
theorem Misses.exists_header_iff {r : Response} {e : Expectation} {h : SecurityHeader}
    (hmem : h ∈ SecurityHeader.contract) : (∃ v, Misses r e v ∧ v.subject = h.name) ↔
      r.headers.values h.name = [] ∨ join ", " (r.headers.values h.name) ≠ h.value := by
  have hnodup := Response.nodup_subjects
  rw [Response.subjects, List.nodup_cons, List.nodup_cons] at hnodup
  obtain ⟨hstatus, htype, hnames⟩ := hnodup
  have hname := List.mem_map_of_mem (f := SecurityHeader.name) hmem
  rw [HeaderList.values_eq_nil_iff, join_eq_intercalate]
  constructor
  · rintro ⟨v, hv, hsub⟩
    cases hv with
    | status =>
      rw [show h.name = "status" from hsub.symm] at hname
      exact absurd (.tail _ hname) hstatus
    | contentType =>
      rw [show h.name = "content-type" from hsub.symm] at hname
      exact absurd hname htype
    | missingHeader hmem' habsent =>
      obtain rfl := List.inj_on_of_nodup_map hnames hmem' hmem hsub
      exact .inl habsent
    | headerValue hmem' _ hdiffers =>
      obtain rfl := List.inj_on_of_nodup_map hnames hmem' hmem hsub
      exact .inr hdiffers
  · intro h'
    by_cases habsent : ∀ x ∈ r.headers.entries, fold x.1 ≠ fold h.name
    · exact ⟨_, .missingHeader hmem habsent, rfl⟩
    · have hpresent : ∃ x ∈ r.headers.entries, fold x.1 = fold h.name := by simpa using habsent
      exact ⟨_, .headerValue hmem hpresent (h'.resolve_left habsent), rfl⟩

/-- A header of the contract that came more than once is reported, except for `Cache-control` when its
values are the literal cut at its commas. -/
theorem repeated_header_reported_iff {r : Response} {e : Expectation} {h : SecurityHeader}
    (hmem : h ∈ SecurityHeader.contract)
    (htwice : 2 ≤ r.headers.entries.countP fun x => sameName x.1 h.name) :
    (∃ v ∈ r.violations e, v.subject = h.name) ↔
      ¬ (h.name = "Cache-control" ∧ r.headers.values h.name ∈ SecurityHeader.cacheControlParts) := by
  have hlen : 2 ≤ (r.headers.values h.name).length := by
    rwa [HeaderList.values, List.length_map, ← List.countP_eq_length_filter]
  have hne : r.headers.values h.name ≠ [] := List.ne_nil_of_length_pos (Nat.lt_of_lt_of_le Nat.two_pos hlen)
  simp only [mem_violations_iff]
  rw [Misses.exists_header_iff hmem, or_iff_right hne, ne_eq, SecurityHeader.join_eq_value_iff hmem hlen]

theorem repeated_pragma_reported :
    let r : Response := ⟨200, ⟨[("Pragma", "no-cache"), ("pragma", "no-cache")]⟩, .empty, none⟩
    2 ≤ (r.headers.entries.countP fun x => sameName x.1 "Pragma") ∧
      ∃ v ∈ r.violations ⟨200, .unconstrained⟩, v.subject = "Pragma" := by
  intro r
  have hmem : ⟨"Pragma", "no-cache"⟩ ∈ SecurityHeader.contract := by decide
  have htwice : 2 ≤ (r.headers.entries.countP fun x => sameName x.1 "Pragma") := by decide
  exact ⟨htwice, (repeated_header_reported_iff hmem htwice).2 (by decide)⟩

/-- A response with every header of the contract, `Cache-control` in two pieces. -/
def Response.cacheControlInPieces : Response :=
  let others := SecurityHeader.contract.filter (·.name != "Cache-control")
  let pieces := [("Cache-control", "no-cache"), ("cache-control", "no-store, must-revalidate")]
  ⟨200, ⟨others.map (fun h => (h.name, h.value)) ++ pieces⟩, .empty, none⟩

/-- Not every repeated header is reported: `Cache-control` may come in two pieces. -/
theorem cacheControl_in_pieces_passes :
    ¬ ∀ (r : Response) (e : Expectation), ∀ h ∈ SecurityHeader.contract,
      2 ≤ (r.headers.entries.countP fun x => sameName x.1 h.name) → ∃ v ∈ r.violations e, v.subject = h.name := by
  intro hall
  have hnone : Response.cacheControlInPieces.violations ⟨200, .unconstrained⟩ = [] := by decide
  obtain ⟨v, hv, -⟩ := hall .cacheControlInPieces ⟨200, .unconstrained⟩
    ⟨"Cache-control", "no-cache, no-store, must-revalidate"⟩ (by decide) (by decide)
  rw [hnone] at hv
  cases hv

end Conformance
