import Mathlib.Data.Nat.Digits.Defs
import Conformance.Config.Source
import Conformance.Proofs.Config.Valid
import Conformance.Proofs.Result
import Conformance.Proofs.Text.Utf8
/-!
# Variables of the environment

When the value of a variable is taken, and what it does to a configuration. A number is taken if it is positive
and fits into a word of 64 bits. A time that does not fit in milliseconds becomes the longest one, so no number is
so large that it passes for a small one.
-/

namespace Conformance

/-! ## Numbers -/

theorem Decimal.value_eq_ofDigits (cs : List Char) : value cs = Nat.ofDigits 10 (cs.reverse.map digitValue) := by
  rw [value, List.foldl_eq_foldr_reverse, Nat.ofDigits_eq_foldr, List.foldr_map]
  simp [Nat.add_comm]

/-- A text denotes a number: decimal digits, the ones last, with nothing around them but blanks and a plus sign in
front if wanted. Zeros may stand in front. -/
def Denotes (s : String) (n : Nat) : Prop :=
  ∃ digits : List Char, digits ≠ [] ∧ (∀ c ∈ digits, '0' ≤ c ∧ c ≤ '9') ∧
    (Text.trim s = String.ofList digits ∨ Text.trim s = "+" ++ String.ofList digits) ∧
    Nat.ofDigits 10 (digits.reverse.map Decimal.digitValue) = n

/-- The rest of a text behind the plus sign it may start with. -/
def withoutPlus : List Char → List Char
  | '+' :: cs => cs
  | cs => cs

theorem withoutPlus_of_digits {cs : List Char} (h : ∀ c ∈ cs, Decimal.isDigit c = true) : withoutPlus cs = cs := by
  unfold withoutPlus
  split
  · exact absurd (h '+' List.mem_cons_self) (by decide)
  · rfl

theorem eq_or_eq_plus_cons (cs : List Char) : cs = withoutPlus cs ∨ cs = '+' :: withoutPlus cs := by
  unfold withoutPlus
  split
  · exact .inr rfl
  · exact .inl rfl

theorem denotes_iff {s : String} {n : Nat} :
    Denotes s n ↔ Decimal.read? (withoutPlus (Text.trimChars s.toList)) = some n := by
  have hdigit (c : Char) : Decimal.isDigit c = true ↔ '0' ≤ c ∧ c ≤ '9' := by simp [Decimal.isDigit]
  have hplain (ds : List Char) : Text.trim s = String.ofList ds ↔ Text.trimChars s.toList = ds := by
    rw [Text.trim, String.ofList_inj]
  have hplus (ds : List Char) : Text.trim s = "+" ++ String.ofList ds ↔ Text.trimChars s.toList = '+' :: ds := by
    rw [← hplain, ← String.toList_inj, ← String.toList_inj]
    simp
  simp only [Denotes, Decimal.read?_eq_some_iff, Decimal.value_eq_ofDigits, hdigit, hplain, hplus]
  constructor
  · rintro ⟨ds, hne, hds, hs | hs, hn⟩
    · rw [hs, withoutPlus_of_digits fun c hc => (hdigit c).2 (hds c hc)]
      exact ⟨hne, hds, hn⟩
    · rw [hs]
      exact ⟨hne, hds, hn⟩
  · rintro ⟨hne, hds, hn⟩
    exact ⟨_, hne, hds, eq_or_eq_plus_cons _, hn⟩

theorem Denotes.unique {s : String} {m n : Nat} (hm : Denotes s m) (hn : Denotes s n) : m = n := by
  rw [denotes_iff] at hm hn
  exact Option.some.inj (hm.symm.trans hn)

theorem Denotes.trim_ne_empty {s : String} {n : Nat} (h : Denotes s n) : Text.trim s ≠ "" := by
  obtain ⟨ds, hne, -, hs | hs, -⟩ := h
  · simpa [hs] using hne
  · simp [hs]

/-! ## Values -/

namespace Environment

variable {env : Environment} {v : Variable} {s : String}

theorem number?_eq_some_iff {w : UInt64} : number? (Text.trimChars s.toList) = some w ↔ Denotes s w.toNat := by
  have hnumber : number? (Text.trimChars s.toList) =
      (Decimal.read? (withoutPlus (Text.trimChars s.toList))).bind fun n => Decimal.word64? n := rfl
  rw [hnumber, Option.bind_eq_some_iff, denotes_iff]
  simp only [Decimal.word64?_eq_some_iff]
  simp

theorem positive_eq_ok_iff {w : UInt64} : positive s = .ok w ↔ Denotes s w.toNat ∧ 1 ≤ w.toNat := by
  have hzero (n : UInt64) : n = 0 ↔ n.toNat = 0 := by rw [← UInt64.toNat_inj]; rfl
  unfold positive
  split
  · rename_i hnone
    simp [← number?_eq_some_iff, hnone]
  · rename_i n hsome
    rw [← number?_eq_some_iff, hsome]
    split
    · rename_i h0
      simp only [reduceCtorEq, Option.some.injEq, false_iff, not_and]
      rintro rfl
      simp [h0]
    · rename_i h0
      rw [hzero] at h0
      simp only [Except.ok.injEq, Option.some.injEq]
      constructor
      · rintro rfl
        exact ⟨rfl, by omega⟩
      · exact fun h => h.1

theorem text_eq_ok_iff {o : Option String} : env.text v = .ok o ↔ env v = o.map String.toUTF8 := by
  unfold text
  cases hv : env v with
  | none => cases o <;> simp
  | some bytes =>
    cases o with
    | none =>
      simp only [Option.map_none, reduceCtorEq, iff_false]
      split <;> simp
    | some s =>
      simp only [Option.map_some, Option.some.injEq, ← Text.fromUTF8?_eq_some_iff]
      cases String.fromUTF8? bytes <;> simp

/-- A variable is not set, or holds a text that is not blank. -/
inductive Holds (env : Environment) (v : Variable) : Option String → Prop
  | unset (unset : env v = none) : Holds env v none
  | text {s : String} (bytes : env v = some s.toUTF8) (filled : Text.trim s ≠ "") : Holds env v (some s)

/-- A variable is not set, or holds a positive number of 64 bits. -/
inductive Counts (env : Environment) (v : Variable) : Option Nat → Prop
  | unset (unset : env v = none) : Counts env v none
  | number {s : String} {n : Nat} (bytes : env v = some s.toUTF8) (denotes : Denotes s n) (pos : 1 ≤ n)
    (lt : n < UInt64.size) : Counts env v (some n)

theorem filled_eq_ok_iff {o : Option String} : env.filled v = .ok o ↔ env.Holds v o := by
  rw [filled, bind_eq_ok_iff]
  simp only [text_eq_ok_iff, Option.any_eq_true]
  constructor
  · rintro ⟨o', hv, h⟩
    cases o' with
    | none =>
      cases h
      exact .unset hv
    | some s =>
      by_cases hs : Text.isBlankText s = true
      · simp [hs] at h
      · simp only [Option.some.injEq, exists_eq_left', hs] at h
        cases h
        exact .text hv (mt Text.isBlankText_iff.2 hs)
  · rintro (⟨hv⟩ | ⟨hv, hs⟩)
    · exact ⟨none, hv, by simp⟩
    · exact ⟨some _, hv, by simp [mt Text.isBlankText_iff.1 hs]⟩

theorem count_eq_ok_iff {o : Option UInt64} : env.count v = .ok o ↔ env.Counts v (o.map UInt64.toNat) := by
  rw [count, bind_eq_ok_iff]
  simp only [filled_eq_ok_iff]
  constructor
  · rintro ⟨_, ⟨hv⟩ | ⟨hv, hs⟩, h⟩
    · cases h
      exact .unset hv
    · simp only at h
      split at h
      · rename_i n hn
        cases h
        obtain ⟨hden, hpos⟩ := positive_eq_ok_iff.1 hn
        exact .number hv hden hpos n.toNat_lt
      · cases h
  · intro h
    cases o with
    | none =>
      cases h with
      | unset hv => exact ⟨none, .unset hv, rfl⟩
    | some w =>
      cases h with
      | number hv hden hpos hlt =>
        exact ⟨some _, .text hv hden.trim_ne_empty, by simp only [positive_eq_ok_iff.2 ⟨hden, hpos⟩]⟩

theorem Counts.exists_word {n : Option Nat} (h : env.Counts v n) : ∃ w : Option UInt64, w.map UInt64.toNat = n := by
  cases h with
  | unset => exact ⟨none, rfl⟩
  | @number _ n _ _ _ lt => exact ⟨some (.ofNat n), congrArg some (UInt64.toNat_ofNat_of_lt' lt)⟩

/-- A variable that holds the text of a number counts that number. -/
theorem Counts.eq_some {o : Option Nat} {n : Nat} (h : env.Counts v o) (hv : env v = some s.toUTF8)
    (hn : Denotes s n) : o = some n ∧ 1 ≤ n := by
  cases h with
  | unset unset => rw [hv] at unset; cases unset
  | number bytes denotes pos lt =>
    have htext := Text.toUTF8_injective (Option.some.inj (hv.symm.trans bytes))
    obtain rfl := (htext ▸ denotes).unique hn
    exact ⟨rfl, pos⟩

/-- What the environment says about the target. -/
theorem overrides_eq_ok_iff {o : Overrides} : env.overrides = .ok o ↔
    (∃ url, env.Holds .baseUrl url ∧ o.baseUrl = url.map Text.trim) ∧
      env.Counts .timeoutSeconds (o.timeoutSeconds.map UInt64.toNat) ∧
      env.Counts .concurrency (o.maxConcurrency.map UInt64.toNat) := by
  have hbinds : env.overrides = (env.filled .baseUrl).bind fun url =>
      (env.count .timeoutSeconds).bind fun seconds =>
        (env.count .concurrency).bind fun n => .ok ⟨url.map Text.trim, seconds, n⟩ := rfl
  rw [hbinds]
  simp only [bind_eq_ok_iff, filled_eq_ok_iff, count_eq_ok_iff]
  constructor
  · rintro ⟨url, hurl, seconds, hseconds, n, hn, ⟨⟩⟩
    exact ⟨⟨url, hurl, rfl⟩, hseconds, hn⟩
  · rintro ⟨⟨url, hurl, hbase⟩, hseconds, hn⟩
    exact ⟨url, hurl, _, hseconds, _, hn, by rw [← hbase]⟩

theorem exists_holds_iff : (∃ o, env.Holds v o) ↔
    ∀ bytes, env v = some bytes → ∃ s, bytes = s.toUTF8 ∧ Text.trim s ≠ "" := by
  constructor
  · rintro ⟨o, ⟨unset⟩ | ⟨hv, filled⟩⟩ bytes hbytes
    · rw [unset] at hbytes
      cases hbytes
    · exact ⟨_, Option.some.inj (hbytes.symm.trans hv), filled⟩
  · intro h
    cases hv : env v with
    | none => exact ⟨none, .unset hv⟩
    | some bytes =>
      obtain ⟨s, rfl, filled⟩ := h bytes hv
      exact ⟨some s, .text hv filled⟩

theorem exists_counts_iff : (∃ o, env.Counts v o) ↔
    ∀ bytes, env v = some bytes → ∃ s n, bytes = s.toUTF8 ∧ Denotes s n ∧ 1 ≤ n ∧ n < UInt64.size := by
  constructor
  · rintro ⟨o, ⟨unset⟩ | ⟨hv, denotes, pos, lt⟩⟩ bytes hbytes
    · rw [unset] at hbytes
      cases hbytes
    · exact ⟨_, _, Option.some.inj (hbytes.symm.trans hv), denotes, pos, lt⟩
  · intro h
    cases hv : env v with
    | none => exact ⟨none, .unset hv⟩
    | some bytes =>
      obtain ⟨s, n, rfl, denotes, pos, lt⟩ := h bytes hv
      exact ⟨some n, .number hv denotes pos lt⟩

theorem exists_overrides_iff : (∃ o, env.overrides = .ok o) ↔
    (∃ url, env.Holds .baseUrl url) ∧ (∃ n, env.Counts .timeoutSeconds n) ∧ ∃ n, env.Counts .concurrency n := by
  simp only [overrides_eq_ok_iff]
  constructor
  · rintro ⟨o, ⟨url, hurl, -⟩, hseconds, hn⟩
    exact ⟨⟨url, hurl⟩, ⟨_, hseconds⟩, _, hn⟩
  · rintro ⟨⟨url, hurl⟩, ⟨seconds, hseconds⟩, n, hn⟩
    obtain ⟨secondsWord, rfl⟩ := hseconds.exists_word
    obtain ⟨word, rfl⟩ := hn.exists_word
    exact ⟨⟨url.map Text.trim, secondsWord, word⟩, ⟨url, hurl, rfl⟩, hseconds, hn⟩

end Environment

/-! ## Overrides -/

theorem toNat_milliseconds (seconds : UInt64) :
    (milliseconds seconds).toNat = min (1000 * seconds.toNat) (UInt64.size - 1) := by
  rw [milliseconds, UInt64.toNat_ofNat_of_lt']
  simp only [UInt64.size]
  omega

namespace Config

variable {c : Config}

/-- A configuration with another time for an exchange. -/
def withTimeout (c : Config) (ms : UInt64) : Config := { c with target := { c.target with timeoutMs := ms } }

/-- A configuration with another number of exchanges under way. -/
def withConcurrency (c : Config) (n : UInt64) : Config :=
  { c with target := { c.target with maxConcurrency := n } }

/-- What has been overridden stays so when it is overridden in the same way again. -/
theorem override_override (c : Config) (o : Overrides) : (c.override o).override o = c.override o := by
  obtain ⟨url, seconds, n⟩ := o
  cases url <;> cases seconds <;> cases n <;> rfl

theorem toNat_timeoutMs_override {o : Overrides} {n : Nat} (h : o.timeoutSeconds.map UInt64.toNat = some n) :
    (c.override o).target.timeoutMs.toNat = min (1000 * n) (UInt64.size - 1) := by
  obtain ⟨w, hw, rfl⟩ := Option.map_eq_some_iff.1 h
  rw [← toNat_milliseconds, override, Target.override, hw]
  rfl

theorem toNat_maxConcurrency_override {o : Overrides} {n : Nat} (h : o.maxConcurrency.map UInt64.toNat = some n) :
    (c.override o).target.maxConcurrency.toNat = n := by
  obtain ⟨w, hw, rfl⟩ := Option.map_eq_some_iff.1 h
  rw [override, Target.override, hw]
  rfl

theorem valid_iff_timeout [UrlLibrary] {ms : UInt64} (h : (c.withTimeout ms).Valid) :
    c.Valid ↔ 1 ≤ c.target.timeoutMs.toNat ∧ c.target.timeoutMs.toNat ≤ 300000 := by
  constructor
  · exact fun hc => hc.target.timeout
  · exact fun hms => ⟨⟨h.target.baseUrl, hms, h.target.concurrency⟩, h.resources, h.routing, h.workflow, h.audit⟩

theorem valid_iff_concurrency [UrlLibrary] {n : UInt64} (h : (c.withConcurrency n).Valid) :
    c.Valid ↔ 1 ≤ c.target.maxConcurrency.toNat ∧ c.target.maxConcurrency.toNat ≤ 64 := by
  constructor
  · exact fun hc => hc.target.concurrency
  · exact fun hn => ⟨⟨h.target.baseUrl, h.target.timeout, hn⟩, h.resources, h.routing, h.workflow, h.audit⟩

end Config

/-- An environment is taken exactly if the URL it may name is a text that is not blank, and either number it may set
is UTF-8 of a text that denotes a positive number of 64 bits. The time is then that number of seconds, or the longest
time there is if the milliseconds do not fit, and the number of exchanges is the other number. So a configuration
that is valid but for the time is accepted exactly up to 300 seconds, and one that is valid but for the number of
exchanges exactly up to 64 of them. -/
theorem Environment.numbers_exact [UrlLibrary] (env : Environment) :
    ((∃ o, env.overrides = .ok o) ↔
      (∀ bytes, env .baseUrl = some bytes → ∃ s, bytes = s.toUTF8 ∧ Text.trim s ≠ "") ∧
      ∀ v, v = .timeoutSeconds ∨ v = .concurrency → ∀ bytes, env v = some bytes →
        ∃ s n, bytes = s.toUTF8 ∧ Denotes s n ∧ 1 ≤ n ∧ n < UInt64.size) ∧
    ∀ o, env.overrides = .ok o → ∀ (c : Config) (s : String) (n : Nat), Denotes s n →
      (env .timeoutSeconds = some s.toUTF8 →
        (c.override o).target.timeoutMs.toNat = min (1000 * n) (UInt64.size - 1) ∧
        ∀ ms, ((c.override o).withTimeout ms).Valid →
          ((c.override o).validated = .ok (c.override o) ↔ n ≤ 300)) ∧
      (env .concurrency = some s.toUTF8 →
        (c.override o).target.maxConcurrency.toNat = n ∧
        ∀ m, ((c.override o).withConcurrency m).Valid →
          ((c.override o).validated = .ok (c.override o) ↔ n ≤ 64)) := by
  have haccept (c : Config) : c.validated = .ok c ↔ c.Valid :=
    Config.validated_eq_ok_iff.trans (and_iff_right rfl)
  constructor
  · rw [exists_overrides_iff, exists_holds_iff, exists_counts_iff, exists_counts_iff]
    simp
  intro o ho c s n hn
  obtain ⟨-, htimeout, hconcurrency⟩ := overrides_eq_ok_iff.1 ho
  constructor
  · intro hv
    obtain ⟨hsome, hpos⟩ := htimeout.eq_some hv hn
    have hms := Config.toNat_timeoutMs_override (c := c) hsome
    refine ⟨hms, fun ms hvalid => ?_⟩
    rw [haccept, Config.valid_iff_timeout hvalid, hms, UInt64.size]
    omega
  · intro hv
    obtain ⟨hsome, hpos⟩ := hconcurrency.eq_some hv hn
    have hm := Config.toNat_maxConcurrency_override (c := c) hsome
    refine ⟨hm, fun m hvalid => ?_⟩
    rw [haccept, Config.valid_iff_concurrency hvalid, hm]
    omega

end Conformance
