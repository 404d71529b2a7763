import Conformance.Proofs.Text.Utf8
import Conformance.Proofs.Url.Address
import Conformance.Proofs.Url.Characters
/-!
# Hosts in normal form

What is read as a host is written in a form that is not read as another host. Addresses and names without Punycode
are read back; Punycode may be longer than what is read.
-/

namespace Conformance

/-! ## Names -/

namespace Domain

open Unicode

variable {c : Char} {text : List Char} {domain : String}

/-- Plain characters are folded. -/
theorem fold?_of_isPlain (h : IsPlain c) : Folding.fold? c = some [c] := by
  have hlower : c.toLower = c := by
    refine Text.ascii_induction (p := fun c => isForbidden c = false → c.toLower = c) (by decide +kernel) ?_ h.1
    exact of_decide_eq_true h.2
  rw [Folding.fold?, if_pos h.2, hlower]

theorem foldAll?_of_isPlain (h : ∀ c ∈ text, IsPlain c) : Folding.foldAll? text = some text := by
  have hmap : text.mapM Folding.fold? = some (text.map ([·])) := mapM_eq_some_map fun c hc => fold?_of_isPlain (h c hc)
  rw [Folding.foldAll?, hmap, Option.map_some, ← List.flatMap_def, List.flatMap_singleton']

/-- A text of plain characters is prepared as it stands. -/
theorem prepare?_of_isPlain (h : ∀ c ∈ text, IsPlain c) : prepare? text = some text := by
  have hascii : text.all Folding.isAscii = true := List.all_eq_true.2 fun c hc => (h c hc).2
  have hallowed : ¬text.any isForbidden = true := by
    rw [List.any_eq_true]
    rintro ⟨c, hc, hforbidden⟩
    rw [(h c hc).1] at hforbidden
    cases hforbidden
  rw [prepare?, foldAll?_of_isPlain h, Option.bind_some]
  simp only [hascii, if_true]
  exact if_neg hallowed

/-- A label in ASCII is looked up as it stands. -/
theorem ascii_of_ofText? {l : Label} (hascii : text.all Folding.isAscii = true) (h : Label.ofText? text = some l) :
    l.ascii = text := by
  rw [Label.ofText?, if_pos hascii] at h
  split at h
  · obtain ⟨label, -, rfl⟩ := Option.map_eq_some_iff.1 h
    rfl
  · cases h
    rfl

theorem all_isAscii_of_mem_split (h : ∀ c ∈ domain.toList, IsPlain c) {label : List Char}
    (hlabel : label ∈ Text.split '.' domain.toList) : label.all Folding.isAscii = true :=
  List.all_eq_true.2 fun c hc => (h c (Text.subset_of_mem_split hlabel hc)).2

/-- A plain name is looked up as it stands, if at all. -/
theorem eq_of_toAscii? {domain' : String} (h : ∀ c ∈ domain.toList, IsPlain c)
    (hread : toAscii? domain.toList = some domain') : domain' = domain := by
  obtain ⟨labels, hlabels, rfl⟩ := Option.map_eq_some_iff.1 hread
  rw [labels?, prepare?_of_isPlain h, Option.bind_some] at hlabels
  obtain ⟨all, hall, hlabels⟩ := Option.bind_eq_some_iff.1 hlabels
  rw [Option.ite_none_right_eq_some] at hlabels
  obtain ⟨-, hsome⟩ := hlabels
  cases hsome
  have hascii : labels.map Label.ascii = Text.split '.' domain.toList :=
    map_eq_of_mapM (fun label hlabel l => ascii_of_ofText? (all_isAscii_of_mem_split h hlabel)) hall
  have htexts : labels.map (fun l => String.ofList l.ascii) = Text.pieces '.' domain := by
    rw [Text.pieces, ← hascii, List.map_map]
    rfl
  rw [htexts, Text.join_pieces]

/-- Without Punycode a plain name is looked up as it stands. -/
theorem toAscii?_eq_some (h : ∀ c ∈ domain.toList, IsPlain c)
    (hcode : ∀ label ∈ Text.split '.' domain.toList, punycodeMark.isPrefixOf label = false) :
    toAscii? domain.toList = some domain := by
  have hall : (Text.split '.' domain.toList).mapM Label.ofText? =
      some ((Text.split '.' domain.toList).map fun label => ⟨label, label⟩) :=
    mapM_eq_some_map fun label hlabel => by
      rw [Label.ofText?, hcode label hlabel, all_isAscii_of_mem_split h hlabel]
      rfl
  have hsteady : areSteady ((Text.split '.' domain.toList).map fun label => ⟨label, label⟩) = true := by
    rw [areSteady, Bool.or_eq_true, Bool.not_eq_true']
    refine .inl (List.any_eq_false.2 fun l hl hturns => ?_)
    obtain ⟨label, hlabel, rfl⟩ := List.mem_map.1 hl
    obtain ⟨c, hc, hturns⟩ := List.any_eq_true.1 hturns
    rw [List.all_eq_true.1 (all_isAscii_of_mem_split h hlabel) c hc] at hturns
    cases hturns
  rw [toAscii?, labels?, prepare?_of_isPlain h, Option.bind_some, hall, Option.bind_some, if_pos hsteady,
    Option.map_some, List.map_map]
  exact congrArg some (Text.join_pieces '.' domain)

end Domain

/-! ## Hosts -/

/-- A host in normal form. -/
def Host.Normal : Host → Prop
  | .name domain => (∀ c ∈ domain.toList, Domain.IsPlain c) ∧ domain ≠ "" ∧ Ipv4.endsInNumber domain.toList = false
  | .ipv4 _ => True
  | .ipv6 address => address.pieces.length = 8

theorem Host.Normal.text_ne_empty {h : Host} (hnormal : h.Normal) : h.text ≠ "" := by
  cases h with
  | name domain => exact hnormal.2.1
  | ipv4 address => exact address.text_ne_empty
  | ipv6 address => simp [Host.text]

/-- No label of a host is in Punycode. -/
def Host.IsUncoded (h : Host) : Prop :=
  ∀ label ∈ Text.split '.' h.text.toList, Domain.punycodeMark.isPrefixOf label = false

instance (h : Host) : Decidable h.IsUncoded :=
  inferInstanceAs (Decidable (∀ label ∈ Text.split '.' h.text.toList, Domain.punycodeMark.isPrefixOf label = false))

namespace Url
variable {cs : List Char} {host host' : Host} {s : String}

theorem normal_of_readHost (h : readHost cs = .ok host) : host.Normal := by
  unfold readHost at h
  split at h
  · unfold bracketed at h
    split at h
    · split at h
      · rename_i address haddress
        cases h
        exact Ipv6.length_of_parse? haddress
      · cases h
    · cases h
  · split at h
    · cases h
    · rename_i domain hdomain
      split at h
      · cases h
      · rename_i hne
        split at h
        · split at h <;> cases h
          trivial
        · rename_i hnumber
          cases h
          obtain ⟨s, -, hascii⟩ := Option.bind_eq_some_iff.1 hdomain
          exact ⟨fun c => Domain.isPlain_of_mem_toAscii hascii, by simpa using hne, Bool.not_eq_true _ ▸ hnumber⟩

theorem decode_of_notMem (h : '%' ∉ cs) : Percent.decode cs = cs.flatMap String.utf8EncodeChar := by
  induction cs with
  | nil => rfl
  | cons c cs ih =>
    rw [List.mem_cons, not_or] at h
    unfold Percent.decode
    rw [if_neg (Ne.symm h.1), ih h.2, List.flatMap_cons]

/-- A text without percent signs is decoded as it stands. -/
theorem fromUTF8?_decode (h : '%' ∉ s.toList) : String.fromUTF8? ⟨(Percent.decode s.toList).toArray⟩ = some s := by
  have hbytes : (⟨(Percent.decode s.toList).toArray⟩ : ByteArray) = s.toUTF8 := by
    rw [decode_of_notMem h, ← Text.toList_data_toUTF8]
  rw [hbytes, Text.fromUTF8?_toUTF8]

theorem readHost_of_isPlain (h : ∀ c ∈ s.toList, Domain.IsPlain c) (hne : s ≠ "") :
    readHost s.toList = match Domain.toAscii? s.toList with
      | none => .error .invalidDomain
      | some _ =>
        if Ipv4.endsInNumber s.toList then
          match Ipv4.parse? s.toList with
          | some address => .ok (.ipv4 address)
          | none => .error .invalidIpv4
        else .ok (.name s) := by
  have hpercent : '%' ∉ s.toList := fun hmem => absurd (h _ hmem) (by decide)
  unfold readHost
  split
  · rename_i hbracket
    exact absurd (h '[' (hbracket ▸ List.mem_cons_self)) (by decide)
  · rw [fromUTF8?_decode hpercent, Option.bind_some]
    cases hread : Domain.toAscii? s.toList with
    | none => rfl
    | some domain =>
      rw [Domain.eq_of_toAscii? h hread]
      exact if_neg (by simpa using hne)

/-- A name is read back, if it is read at all. -/
theorem readHost_name {domain : String} (h : (Host.name domain).Normal) :
    readHost domain.toList = match Domain.toAscii? domain.toList with
      | none => .error .invalidDomain
      | some _ => .ok (.name domain) := by
  obtain ⟨hplain, hne, hnumber⟩ := h
  rw [readHost_of_isPlain hplain hne, hnumber]
  rfl

theorem isPlain_of_mem_ipv4 {a : Ipv4} {c : Char} (h : c ∈ a.text.toList) : Domain.IsPlain c ∧ c ≠ 'x' := by
  rcases Ipv4.mem_text h with rfl | hdigit
  · decide
  · have hrange := Decimal.isDigit_iff.1 hdigit
    exact Text.ascii_induction (p := fun c => Decimal.isDigit c = true → Domain.IsPlain c ∧ c ≠ 'x') (by decide +kernel)
      (by omega) hdigit

theorem readHost_ipv4 (a : Ipv4) : readHost a.text.toList = .ok (.ipv4 a) := by
  have hplain : ∀ c ∈ a.text.toList, Domain.IsPlain c := fun c hc => (isPlain_of_mem_ipv4 hc).1
  have hcode : ∀ label ∈ Text.split '.' a.text.toList, Domain.punycodeMark.isPrefixOf label = false := by
    intro label hlabel
    rw [Bool.eq_false_iff]
    intro hmark
    have hx : 'x' ∈ label := (List.isPrefixOf_iff_prefix.1 hmark).subset List.mem_cons_self
    exact (isPlain_of_mem_ipv4 (Text.subset_of_mem_split hlabel hx)).2 rfl
  rw [readHost_of_isPlain hplain a.text_ne_empty, Domain.toAscii?_eq_some hplain hcode, Ipv4.endsInNumber_text,
    Ipv4.parse?_text]
  rfl

theorem readHost_ipv6 {a : Ipv6} (h : a.pieces.length = 8) :
    readHost (Host.ipv6 a).text.toList = .ok (.ipv6 a) := by
  have htext : (Host.ipv6 a).text.toList = '[' :: (a.text.toList ++ [']']) := by simp [Host.text]
  rw [htext, readHost, bracketed, List.getLast?_concat, if_pos rfl, List.dropLast_concat, Ipv6.parse?_text h]

/-- No host in normal form is read as another one. -/
theorem eq_of_readHost_text (h : host.Normal) (hread : readHost host.text.toList = .ok host') : host' = host := by
  cases host with
  | name domain =>
    rw [Host.text, readHost_name h] at hread
    split at hread <;> cases hread
    rfl
  | ipv4 address =>
    rw [Host.text, readHost_ipv4] at hread
    cases hread
    rfl
  | ipv6 address =>
    rw [readHost_ipv6 h] at hread
    cases hread
    rfl

/-- Addresses and names without Punycode are read back. -/
theorem readHost_text (h : host.Normal) (hcode : host.IsUncoded) : readHost host.text.toList = .ok host := by
  cases host with
  | name domain => rw [Host.text, readHost_name h, Domain.toAscii?_eq_some h.1 hcode]
  | ipv4 address => exact readHost_ipv4 address
  | ipv6 address => exact readHost_ipv6 h

end Url

end Conformance
