import Conformance.Proofs.Url.Laws
/-!
# Requests keep to their base URL

A request is written behind the base URL as it stands. What is cut off the base URL are slashes of its path, so its
scheme and its authority stay whole, and the slash that ends the authority is one of the base URL or the first
character of the request. No request leads to another place than its base URL.
-/

namespace Conformance

/-! ## Slashes at an end -/

/-- A run of slashes. -/
def slashes (n : Nat) : String := String.ofList (List.replicate n '/')

section Slashes
variable {s t : String}

theorem toList_trimSlashes (s : String) : (trimSlashes s).toList = s.toList.rdropWhile (· == '/') :=
  String.toList_ofList

theorem trimSlashes_append_slashes (s : String) : ∃ n, trimSlashes s ++ slashes n = s := by
  have hslash : ∀ c ∈ s.toList.rtakeWhile (· == '/'), c = '/' := fun c hc => by
    simpa using List.mem_rtakeWhile_imp (p := (· == '/')) hc
  refine ⟨(s.toList.rtakeWhile (· == '/')).length, ?_⟩
  rw [← String.toList_inj, String.toList_append, toList_trimSlashes, slashes, String.toList_ofList,
    ← List.eq_replicate_of_mem hslash, List.rdropWhile_append_rtakeWhile]

theorem getLast?_trimSlashes (s : String) : (trimSlashes s).toList.getLast? ≠ some '/' := by
  intro h
  rw [toList_trimSlashes] at h
  have hne : s.toList.rdropWhile (· == '/') ≠ [] := by
    rintro hnil
    rw [hnil] at h
    cases h
  rw [List.getLast?_eq_some_getLast hne, Option.some.injEq] at h
  exact List.rdropWhile_last_not _ _ hne (by rw [h]; rfl)

/-- Slashes behind a text make no difference. -/
theorem trimSlashes_append (s : String) (n : Nat) : trimSlashes (s ++ slashes n) = trimSlashes s := by
  induction n with
  | zero => rw [slashes, List.replicate_zero, String.ofList_nil, String.append_empty]
  | succ n ih =>
    rw [← ih, ← String.toList_inj, toList_trimSlashes, toList_trimSlashes, String.toList_append, String.toList_append,
      slashes, slashes, String.toList_ofList, String.toList_ofList, List.replicate_succ', ← List.append_assoc,
      List.rdropWhile_concat_pos _ _ _ rfl]

/-- Texts are alike without the slashes at their ends if they differ in these alone. -/
theorem trimSlashes_eq_iff :
    trimSlashes s = trimSlashes t ↔ ∃ stem m n, s = stem ++ slashes m ∧ t = stem ++ slashes n := by
  constructor
  · intro h
    obtain ⟨m, hs⟩ := trimSlashes_append_slashes s
    obtain ⟨n, ht⟩ := trimSlashes_append_slashes t
    exact ⟨trimSlashes s, m, n, hs.symm, by rw [h, ht]⟩
  · rintro ⟨stem, m, n, rfl, rfl⟩
    rw [trimSlashes_append, trimSlashes_append]

end Slashes

/-! ## Base URLs -/

/-- The path of a URL without the slashes at its end. -/
def WebUrl.prefixPath (u : WebUrl) : String := trimSlashes u.path

section Base
variable {base : WebUrl} {path : String}

open UrlLibrary

theorem WebUrl.text_eq (u : WebUrl) : u.text = u.origin ++ u.path := rfl

theorem WebUrl.head?_path (u : WebUrl) : u.path.toList.head? = some '/' := by
  rw [path, String.toList_append]
  rfl

/-- An authority that can stand in front of a path: there is something, and nothing in it ends it. -/
structure Authority.Stands (a : Authority) : Prop where
  filled : a.text ≠ ""
  closed : ∀ c ∈ a.text.toList, Url.endsAuthority true c = false

/-- Slashes are cut off the path alone. -/
theorem WebUrl.trimSlashes_text (u : WebUrl) (h : u.authority.Stands) :
    trimSlashes u.text = u.origin ++ u.prefixPath := by
  -- an authority does not end in a slash, so none of it is cut off
  obtain ⟨c, hc⟩ := Option.isSome_iff_exists.1 (List.getLast?_isSome.2 (mt String.toList_eq_nil_iff.1 h.filled))
  have hslash : (c == '/') = false := by
    have hin := h.closed c (List.mem_of_getLast? hc)
    simp only [Url.endsAuthority, Bool.or_eq_false_iff] at hin
    exact hin.1.1.1
  have horigin : u.origin.toList.getLast? = some c := by
    rw [origin, String.toList_append, List.getLast?_append, hc]
    rfl
  rw [← String.toList_inj, toList_trimSlashes, String.toList_append, prefixPath, toList_trimSlashes, text_eq,
    String.toList_append, rdropWhile_append_of_getLast horigin hslash]

theorem WebUrl.prefixPath_cases (u : WebUrl) : u.prefixPath = "" ∨ u.prefixPath.toList.head? = some '/' := by
  obtain ⟨n, hpath⟩ := trimSlashes_append_slashes u.path
  have hhead := u.head?_path
  rw [← hpath, String.toList_append, List.head?_append] at hhead
  cases hchars : u.prefixPath.toList with
  | nil => exact .inl (String.toList_eq_nil_iff.1 hchars)
  | cons c cs =>
    rw [prefixPath] at hchars
    rw [hchars, List.head?_cons, Option.some_or] at hhead
    exact .inr hhead

theorem WebUrl.head?_prefixPath_append (u : WebUrl) (h : path.toList.head? = some '/') :
    (u.prefixPath ++ path).toList.head? = some '/' := by
  rcases u.prefixPath_cases with hnone | hsome
  · rw [hnone, String.empty_append, h]
  · rw [String.toList_append, List.head?_append, hsome]
    rfl

theorem WebUrl.request_eq (u : WebUrl) (h : u.authority.Stands) (path : String) :
    u.request path = u.origin ++ (u.prefixPath ++ path) := by
  rw [request, u.trimSlashes_text h, String.append_assoc]

/-- Base URLs lead to the same requests if their texts are alike without the slashes at their ends. -/
theorem WebUrl.request_eq_iff {u v : WebUrl} :
    (∀ path, u.request path = v.request path) ↔ trimSlashes u.text = trimSlashes v.text := by
  constructor
  · intro h
    have hempty := h ""
    rwa [request, request, String.append_empty, String.append_empty] at hempty
  · intro h path
    rw [request, request, h]

/-- What is left of the text of a URL without the slashes at its end: its scheme and its authority as they are, and
`own`, which is empty or starts with the first slash of its path. -/
structure WebUrl.Leaves (u : WebUrl) (own : String) : Prop where
  path : own = "" ∨ own.toList.head? = some '/'
  text : ∃ n, u.text = u.origin ++ own ++ slashes n
  trimmed : (u.origin ++ own).toList.getLast? ≠ some '/'

theorem WebUrl.leaves_prefixPath (u : WebUrl) (h : u.authority.Stands) : u.Leaves u.prefixPath := by
  refine ⟨u.prefixPath_cases, ?_, ?_⟩
  · obtain ⟨n, htext⟩ := trimSlashes_append_slashes u.text
    exact ⟨n, by rw [← u.trimSlashes_text h, htext]⟩
  · rw [← u.trimSlashes_text h]
    exact getLast?_trimSlashes u.text

section Library
variable [UrlLibrary] {t : Target}

/-- A base URL is what the library reads: a URL of the web with a host. -/
theorem Target.parse_of_url (h : t.url = .ok base) :
    parse (Text.trim t.baseUrl) = .ok (.web base) ∧ base.scheme ∈ httpSchemes ∧ base.authority.host.text ≠ "" := by
  unfold Target.url at h
  split at h
  · cases h
  · rename_i url hparse
    split at h
    · cases h
    · rename_i hscheme
      split at h
      · cases h
      · rename_i web
        split at h
        · cases h
        · rename_i hhost
          split at h <;> cases h
          exact ⟨hparse, not_not.1 hscheme, mt String.isEmpty_iff.2 hhost⟩

theorem WebUrl.stands_of_parse [Lawful] {s : String} (h : parse s = .ok (.web base))
    (hhost : base.authority.host.text ≠ "") : base.authority.Stands := by
  refine ⟨fun hempty => hhost ?_, Lawful.closed h⟩
  have hchars : base.authority.text.toList = [] := by rw [hempty]; rfl
  rw [Authority.toList_text, List.append_eq_nil_iff, List.append_eq_nil_iff] at hchars
  exact String.toList_eq_nil_iff.1 hchars.2.1

/-- Every request is its path as it stands behind what the slashes at the end of the base URL leave of it. Scheme and
authority of the base URL are whole in there, and no path makes a request be read with others. -/
theorem Target.request_keeps_authority [Lawful] (h : t.url = .ok base) :
    base.scheme ∈ httpSchemes ∧ base.authority.host.text ≠ "" ∧
      (∀ c ∈ base.authority.text.toList, Url.endsAuthority true c = false) ∧
      (∃ own, base.Leaves own ∧ ∀ path, base.request path = base.origin ++ own ++ path ∧
        (path.toList.head? = some '/' → (own ++ path).toList.head? = some '/' ∧
          ∃ segments hasQuery hasFragment, parse (base.request path) =
            (parseHost base.authority.host.text).map fun _ =>
              .web ⟨base.scheme, base.authority, segments, hasQuery, hasFragment⟩)) ∧
      (base.authority.host.IsUncoded → parseHost base.authority.host.text = .ok base.authority.host) ∧
      ∀ other : WebUrl, (∀ path, base.request path = other.request path) ↔
        ∃ stem m n, base.text = stem ++ slashes m ∧ other.text = stem ++ slashes n := by
  obtain ⟨hparse, hhttp, hhost⟩ := parse_of_url h
  have hstands := WebUrl.stands_of_parse hparse hhost
  refine ⟨hhttp, hhost, hstands.closed, ⟨base.prefixPath, base.leaves_prefixPath hstands,
    fun path => ⟨?_, fun hpath => ?_⟩⟩, Lawful.parseHost_text hparse, fun other => ?_⟩
  · rw [base.request_eq hstands path, String.append_assoc]
  · have hslash := base.head?_prefixPath_append hpath
    rw [base.request_eq hstands path]
    exact ⟨hslash, Lawful.kept hparse hslash⟩
  · rw [WebUrl.request_eq_iff, trimSlashes_eq_iff]

end Library

/-- A base URL with all its parts. -/
def portal : WebUrl :=
  ⟨"https", ⟨"user:pw", .name "example.org", some 8443⟩, ["portal", "", ""], false, false⟩

/-- A path that reads like another authority leads to the portal. -/
theorem portal_request_keeps_authority :
    Target.url ⟨" https://user:pw@Example.org:8443/portal//", 1000, 1⟩ = .ok portal ∧
      ∃ segments hasQuery hasFragment, parse (portal.request "/@example.com:80//") =
        .ok (.web ⟨"https", portal.authority, segments, hasQuery, hasFragment⟩) := by
  have hurl : Target.url ⟨" https://user:pw@Example.org:8443/portal//", 1000, 1⟩ = .ok portal :=
    toOption_eq_some_iff.1 (by decide +kernel)
  obtain ⟨-, -, -, ⟨own, -, hrequest⟩, hread, -⟩ := Target.request_keeps_authority hurl
  obtain ⟨-, segments, hasQuery, hasFragment, hparse⟩ := (hrequest "/@example.com:80//").2 (by decide)
  rw [hread (by decide)] at hparse
  exact ⟨hurl, segments, hasQuery, hasFragment, hparse⟩

end Base

end Conformance
