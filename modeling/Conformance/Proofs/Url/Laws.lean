import Mathlib.Data.List.DropRight
import Conformance.Proofs.Url.Authority
import Conformance.Run.Program
/-!
# What is relied on of URL libraries

A URL of the web is written as its scheme, its authority and its path, and nothing inside of the authority ends it.
So what stands in front of the path is read as this scheme and this authority again, whatever path stands behind it,
unless the host is not read at all. `UrlLibrary.Lawful` asks this of a library, and that it reads the URL of the stock
deployment; the reader of this project keeps these laws.
-/

namespace Conformance

/-- What stands in front of the path of a URL. -/
def WebUrl.origin (u : WebUrl) : String := u.scheme ++ "://" ++ u.authority.text

/-- The laws of a library that reads URLs. -/
class UrlLibrary.Lawful [UrlLibrary] : Prop where
  /-- no character of an authority ends it -/
  closed {s : String} {u : WebUrl} (h : parse s = .ok (.web u)) :
    ∀ c ∈ u.authority.text.toList, Url.endsAuthority true c = false
  /-- behind the same scheme and authority a path changes neither of them -/
  kept {s rest : String} {u : WebUrl} (h : parse s = .ok (.web u)) (hrest : rest.toList.head? = some '/') :
    ∃ segments hasQuery hasFragment, parse (u.origin ++ rest) =
      (parseHost u.authority.host.text).map fun _ => .web ⟨u.scheme, u.authority, segments, hasQuery, hasFragment⟩
  /-- a host without Punycode is read as itself -/
  parseHost_text {s : String} {u : WebUrl} (h : parse s = .ok (.web u)) (hcode : u.authority.host.IsUncoded) :
    parseHost u.authority.host.text = .ok u.authority.host
  /-- the stock deployment is at a URL -/
  standard : ∃ u : WebUrl, parse Target.standard.baseUrl = .ok (.web u) ∧ u.scheme = "http" ∧
    u.authority.host.text ≠ "" ∧ u.hasQuery = false ∧ u.hasFragment = false

/-- What is cut off an end stays behind a list that ends in something else. -/
theorem rdropWhile_append_of_getLast {α : Type} {p : α → Bool} {xs : List α} {x : α} (hlast : xs.getLast? = some x)
    (hx : p x = false) (ys : List α) : (xs ++ ys).rdropWhile p = xs ++ ys.rdropWhile p := by
  induction ys using List.reverseRecOn with
  | nil =>
    have hkept : ∀ h : xs ≠ [], ¬p (xs.getLast h) = true := by
      intro h
      rw [List.getLast?_eq_some_getLast h, Option.some.injEq] at hlast
      simp [hlast, hx]
    rw [List.append_nil, List.rdropWhile_nil, List.append_nil, List.rdropWhile_eq_self_iff.2 hkept]
  | append_singleton ys y ih =>
    rw [← List.append_assoc, List.rdropWhile_concat, List.rdropWhile_concat]
    split
    · exact ih
    · exact List.append_assoc xs ys [y]

namespace Url
variable {cs rest : List Char} {scheme s : String} {default : UInt16} {url : WebUrl} {a : Authority}

/-! ## Reading a URL -/

theorem normal_of_readWeb (h : readWeb scheme default cs = .ok url) :
    url.scheme = scheme ∧ url.authority.Normal default := by
  obtain ⟨⟨a, rest⟩, ha, h⟩ := do_eq_ok_iff.1 h
  cases h
  exact ⟨rfl, normal_of_readAuthority ha⟩

/-- What a text is read as, by its scheme. -/
theorem parse_cases {u : Url} (h : parse s = .ok u) :
    (∃ scheme default cs url,
        u = .web url ∧ webSchemes.lookup scheme = some default ∧ readWeb scheme default cs = .ok url) ∨
      ∃ scheme, u = .other scheme ∧ webSchemes.lookup scheme = none := by
  unfold parse at h
  split at h
  · cases h
  · rename_i scheme cs _
    split at h
    · rename_i default hdefault
      cases hweb : readWeb scheme default cs with
      | error => rw [hweb] at h; cases h
      | ok url =>
        rw [hweb] at h
        cases h
        exact .inl ⟨scheme, default, cs, url, rfl, hdefault, hweb⟩
    · rename_i hnone
      refine .inr ⟨scheme, ?_, hnone⟩
      simp only [Except.map] at h
      split at h <;> cases h
      rfl

/-- What is read as a URL of a web scheme is in normal form. -/
theorem normal_of_parse (h : parse s = .ok (.web url)) :
    ∃ default, webSchemes.lookup url.scheme = some default ∧ url.authority.Normal default := by
  rcases parse_cases h with ⟨scheme, default, cs, url', heq, hdefault, hweb⟩ | ⟨scheme, heq, -⟩
  · cases heq
    obtain ⟨rfl, hnormal⟩ := normal_of_readWeb hweb
    exact ⟨default, hdefault, hnormal⟩
  · cases heq

/-! ## Reading behind an authority -/

theorem mem_webSchemes (h : webSchemes.lookup scheme = some default) : (scheme, default) ∈ webSchemes := by
  obtain ⟨before, behind, heq, -⟩ := List.lookup_eq_some_iff.1 h
  rw [heq]
  exact List.mem_append_right before List.mem_cons_self

/-- The schemes of the web are words in lower case. -/
theorem scheme?_of_lookup (h : webSchemes.lookup scheme = some default) (rest : List Char) :
    scheme? (scheme.toList ++ ':' :: rest) = some (scheme, rest) := by
  have hall : ∀ p ∈ webSchemes, p.1.toList.all isSchemeChar = true ∧ p.1.toList.head?.any Char.isAlpha = true ∧
      p.1.toList.map Char.toLower = p.1.toList := by decide
  obtain ⟨hword, halpha, hlower⟩ := hall _ (mem_webSchemes h)
  rw [List.all_eq_true] at hword
  have hcolon : isSchemeChar ':' = false := by decide
  rw [scheme?, List.span_eq_takeWhile_dropWhile, List.takeWhile_append_of_pos hword, List.dropWhile_append_of_pos hword,
    List.takeWhile_cons_of_neg (by rw [hcolon]; exact nofun), List.append_nil,
    List.dropWhile_cons_of_neg (by rw [hcolon]; exact nofun)]
  simp only at halpha hlower
  cases hchars : scheme.toList with
  | nil =>
    rw [hchars] at halpha
    cases halpha
  | cons c cs =>
    rw [hchars, List.head?_cons, Option.any_some] at halpha
    rw [hchars] at hlower
    simp only [halpha, if_true]
    rw [hlower, ← hchars, String.ofList_toList]

theorem isSlash_of_inAuthority {c : Char} (h : InAuthority c) : isSlash c = false := by
  have h := h.2
  simp [endsAuthority] at h
  simp [isSlash, h]

/-- Characters that are neither blanks nor controls count, up to a slash and with it. -/
theorem significant_append {front : List Char} (h : ∀ c ∈ front, 0x20 < c.toNat) (rest : List Char) :
    ∃ rest', significant (front ++ '/' :: rest) = front ++ '/' :: rest' := by
  have hfront : ∀ c ∈ front ++ ['/'], 0x20 < c.toNat := by
    intro c hc
    rcases List.mem_append.1 hc with hc | hc
    · exact h c hc
    · rw [List.mem_singleton.1 hc]
      decide
  have hkept : (front ++ ['/']).filter (fun c => c != '\t' && c != '\n' && c != '\r') = front ++ ['/'] := by
    refine List.filter_eq_self.2 fun c hc => ?_
    have hne (d : Char) (hd : d.toNat ≤ 0x20) : c ≠ d := by
      rintro rfl
      exact absurd (hfront c hc) (Nat.not_lt.2 hd)
    simp [hne '\t' (by decide), hne '\n' (by decide), hne '\r' (by decide)]
  have hfirst : (front ++ '/' :: rest).dropWhile (fun c => decide (c.toNat ≤ 0x20)) = front ++ '/' :: rest := by
    cases front with
    | nil => rfl
    | cons c front =>
      have hc := h c List.mem_cons_self
      exact List.dropWhile_cons_of_neg (by simpa using hc)
  -- trimming from behind ends at the slash at the latest
  have hlast : (front ++ ['/']).getLast? = some '/' := by simp
  have hsplit : front ++ '/' :: rest = front ++ ['/'] ++ rest := by simp
  refine ⟨(rest.rdropWhile fun c => decide (c.toNat ≤ 0x20)).filter fun c => c != '\t' && c != '\n' && c != '\r', ?_⟩
  calc significant (front ++ '/' :: rest)
      = ((front ++ ['/'] ++ rest).rdropWhile fun c => decide (c.toNat ≤ 0x20)).filter
          fun c => c != '\t' && c != '\n' && c != '\r' := by rw [← hsplit, significant, hfirst]; rfl
    _ = _ := by rw [rdropWhile_append_of_getLast hlast (by decide), List.filter_append, hkept]; simp

theorem text_ne_nil (h : a.Normal default) : a.text.toList ≠ [] := by
  have hhost := h.host.text_ne_empty
  rw [a.toList_text]
  simp [hhost]

/-- A URL of the web is read as the scheme and the authority that it is written with, if its host is read at all. -/
theorem parse_append (hscheme : webSchemes.lookup scheme = some default) (ha : a.Normal default) {rest : String}
    (hrest : rest.toList.head? = some '/') :
    ∃ segments hasQuery hasFragment, parse (scheme ++ "://" ++ a.text ++ rest) =
      (readHost a.host.text.toList).map fun _ => .web ⟨scheme, a, segments, hasQuery, hasFragment⟩ := by
  obtain ⟨cs, hcs⟩ : ∃ cs, rest.toList = '/' :: cs := by
    cases hrest' : rest.toList <;> simp_all
  have hin : ∀ c ∈ a.text.toList, InAuthority c := fun c => inAuthority_of_mem_text ha
  have hletters : ∀ p ∈ webSchemes, p.1.toList.all (fun c => decide (0x20 < c.toNat)) = true := by decide
  have hmarks : "://".toList.all (fun c => decide (0x20 < c.toNat)) = true := by decide
  have hfront : ∀ c ∈ scheme.toList ++ "://".toList ++ a.text.toList, 0x20 < c.toNat := by
    intro c hc
    rw [List.append_assoc, List.mem_append, List.mem_append] at hc
    rcases hc with hc | hc | hc
    · exact of_decide_eq_true (List.all_eq_true.1 (hletters _ (mem_webSchemes hscheme)) c hc)
    · exact of_decide_eq_true (List.all_eq_true.1 hmarks c hc)
    · exact (hin c hc).1
  obtain ⟨cs', hcounts⟩ := significant_append hfront cs
  -- all slashes in front of an authority are passed over, and it starts with none
  have hslashes : ("//".toList ++ a.text.toList ++ '/' :: cs').dropWhile isSlash = a.text.toList ++ '/' :: cs' := by
    obtain ⟨c, text, hchars⟩ := List.exists_cons_of_ne_nil (text_ne_nil ha)
    have hc := isSlash_of_inAuthority (hin c (hchars ▸ List.mem_cons_self))
    have htwo : ∀ c ∈ "//".toList, isSlash c = true := List.all_eq_true.1 (by decide)
    rw [List.append_assoc, List.dropWhile_append_of_pos htwo, hchars, List.cons_append,
      List.dropWhile_cons_of_neg (by rw [hc]; exact nofun)]
  have hread : parse (scheme ++ "://" ++ a.text ++ rest) =
      (readWeb scheme default ("//".toList ++ a.text.toList ++ '/' :: cs')).map .web := by
    have hmark : scheme.toList ++ "://".toList ++ a.text.toList ++ '/' :: cs' =
        scheme.toList ++ ':' :: ("//".toList ++ a.text.toList ++ '/' :: cs') := by simp
    rw [parse]
    simp only [String.toList_append, hcs, hcounts]
    rw [hmark, scheme?_of_lookup hscheme]
    simp only [hscheme]
  rw [hread, readWeb, hslashes, readAuthority_text ha]
  cases readHost a.host.text.toList with
  | error e => exact ⟨[], false, false, rfl⟩
  | ok host => exact ⟨_, _, _, rfl⟩

end Url

/-! ## The laws of the reader -/

theorem UrlLibrary.standard_url : ∃ u : WebUrl, parse Target.standard.baseUrl = .ok (.web u) ∧ u.scheme = "http" ∧
    u.authority.host.text ≠ "" ∧ u.hasQuery = false ∧ u.hasFragment = false :=
  ⟨⟨"http", ⟨"", .ipv4 ⟨2130706433⟩, some 8082⟩, [""], false, false⟩, by decide +kernel⟩

instance : UrlLibrary.Lawful where
  closed h c hc := by
    obtain ⟨default, -, hnormal⟩ := Url.normal_of_parse h
    exact (Url.inAuthority_of_mem_text hnormal hc).2
  kept h hrest := by
    obtain ⟨default, hscheme, hnormal⟩ := Url.normal_of_parse h
    exact Url.parse_append hscheme hnormal hrest
  parseHost_text h hcode := by
    obtain ⟨default, -, hnormal⟩ := Url.normal_of_parse h
    exact Url.readHost_text hnormal.host hcode
  standard := UrlLibrary.standard_url

end Conformance
