import Conformance.Proofs.Url.NormalHost
/-!
# Reading an authority again

In front of a slash the text of an authority in normal form is read as that authority, unless its host is not read
at all. Nothing behind the slash has a part in it.
-/

namespace Conformance

open Url

/-- The port of an authority with the colon in front of it, if there is one. -/
def portChars : Option UInt16 → List Char
  | some p => ':' :: Decimal.digits p.toNat
  | none => []

/-- The user information of an authority with the mark behind it, if there is any. -/
def userChars (user : String) : List Char := if user = "" then [] else user.toList ++ ['@']

theorem Authority.toList_text (a : Authority) :
    a.text.toList = userChars a.user ++ (a.host.text.toList ++ portChars a.port) := by
  obtain ⟨user, host, port⟩ := a
  have huser : (if user.isEmpty then "" else user ++ "@").toList = userChars user := by
    by_cases h : user = "" <;> simp [userChars, h]
  rw [text, String.toList_append, String.toList_append, huser, List.append_assoc]
  cases port with
  | none => rfl
  | some p => simp [portChars, Decimal.text]

/-- An authority in normal form, for a scheme with a default port. -/
structure Authority.Normal (default : UInt16) (a : Authority) : Prop where
  encoded : userText a.user.toList = a.user
  user : ∀ c ∈ a.user.toList, InPart c
  host : a.host.Normal
  port : a.port ≠ some default

namespace Url
variable {cs rest : List Char} {host : Host} {a : Authority} {default : UInt16} {c : Char}

theorem exists_of_readUser {user : String} (h : readUser true cs = .ok (user, rest)) :
    ∃ before, user = userText before := by
  unfold readUser at h
  split at h
  simp only at h
  split at h
  · split at h <;> cases h
    exact ⟨_, rfl⟩
  · cases h
    exact ⟨[], rfl⟩

theorem normal_of_readAuthority (h : readAuthority default cs = .ok (a, rest)) : a.Normal default := by
  obtain ⟨⟨user, rest'⟩, huser, h⟩ := do_eq_ok_iff.1 h
  simp only at h
  split at h
  · cases h
  · obtain ⟨host, hhost, h⟩ := do_eq_ok_iff.1 h
    obtain ⟨⟨port, rest''⟩, -, h⟩ := do_eq_ok_iff.1 h
    cases h
    refine ⟨?_, ?_, normal_of_readHost hhost, ?_⟩
    · obtain ⟨before, rfl⟩ := exists_of_readUser huser
      exact userText_userText before
    · obtain ⟨before, rfl⟩ := exists_of_readUser huser
      exact fun c => inPart_of_mem_userText
    · simp only
      split
      · exact nofun
      · assumption

/-! ## Characters -/

theorem inPart_of_isDigit (h : Decimal.isDigit c = true) : InPart c ∧ c ≠ ':' ∧ c ≠ '[' := by
  have hrange := Decimal.isDigit_iff.1 h
  refine Text.ascii_induction (p := fun c => Decimal.isDigit c = true → InPart c ∧ c ≠ ':' ∧ c ≠ '[')
    (by decide +kernel) (by omega) h

theorem inPart_of_mem_portChars {port : Option UInt16} (h : c ∈ portChars port) : InPart c := by
  cases port with
  | none => cases h
  | some p =>
    rcases List.mem_cons.1 h with rfl | h
    · decide
    · exact (inPart_of_isDigit (Decimal.isDigit_of_mem_digits h)).1

/-- A host is a word without colons, or stands in brackets. -/
theorem host_cases (h : host.Normal) :
    (∀ c ∈ host.text.toList, InPart c ∧ c ≠ ':' ∧ c ≠ '[') ∨
      ∃ address, host.text.toList = '[' :: (address ++ [']']) ∧ ∀ c ∈ address, InPart c ∧ c ≠ ']' := by
  cases host with
  | name domain => exact .inl fun c hc => Domain.inPart_of_not_isForbidden (h.1 c hc).1
  | ipv4 address =>
    refine .inl fun c hc => ?_
    rcases Ipv4.mem_text hc with rfl | hdigit
    · decide
    · exact inPart_of_isDigit hdigit
  | ipv6 address =>
    refine .inr ⟨address.text.toList, ?_, fun c hc => ?_⟩
    · simp [Host.text]
    · have hdigit : ∀ d < 16, InPart (Nat.digitChar d) ∧ Nat.digitChar d ≠ ']' := by decide
      rcases Ipv6.mem_text hc with rfl | ⟨d, hd, rfl⟩
      · decide
      · exact hdigit d hd

theorem inPart_of_mem_host (h : host.Normal) (hc : c ∈ host.text.toList) : InPart c := by
  rcases host_cases h with hword | ⟨address, htext, haddress⟩
  · exact (hword c hc).1
  · rw [htext, List.mem_cons, List.mem_append, List.mem_singleton] at hc
    rcases hc with rfl | hc | rfl
    · decide
    · exact (haddress c hc).1
    · decide

/-- The characters behind the user information. -/
theorem inPart_of_mem_place {port : Option UInt16} (h : host.Normal) (hc : c ∈ host.text.toList ++ portChars port) :
    InPart c := by
  rcases List.mem_append.1 hc with hc | hc
  · exact inPart_of_mem_host h hc
  · exact inPart_of_mem_portChars hc

theorem inAuthority_of_mem_userChars {user : String} (h : ∀ c ∈ user.toList, InPart c) (hc : c ∈ userChars user) :
    InAuthority c := by
  unfold userChars at hc
  split at hc
  · cases hc
  · rcases List.mem_append.1 hc with hc | hc
    · exact (h c hc).1
    · rw [List.mem_singleton.1 hc]
      decide

theorem inAuthority_of_mem_text (h : a.Normal default) (hc : c ∈ a.text.toList) : InAuthority c := by
  rw [a.toList_text, List.mem_append] at hc
  rcases hc with hc | hc
  · exact inAuthority_of_mem_userChars h.user hc
  · exact (inPart_of_mem_place h.host hc).1

/-! ## Reading -/

/-- A slash ends an authority. -/
theorem span_authority {authority : List Char} (h : ∀ c ∈ authority, InAuthority c) (rest : List Char) :
    (authority ++ '/' :: rest).span (fun c => !endsAuthority true c) = (authority, '/' :: rest) := by
  have hin : ∀ c ∈ authority, (!endsAuthority true c) = true := fun c hc => by rw [(h c hc).2]; rfl
  rw [List.span_eq_takeWhile_dropWhile, List.takeWhile_append_of_pos hin, List.dropWhile_append_of_pos hin]
  simp [endsAuthority]

/-- User information is read up to its mark, and where there is no mark there is none. -/
theorem readUser_text {user : String} {place : List Char} (huser : ∀ c ∈ user.toList, InPart c)
    (hencoded : userText user.toList = user) (hplace : ∀ c ∈ place, InPart c) (rest : List Char) :
    readUser true (userChars user ++ place ++ '/' :: rest) = .ok (user, place ++ '/' :: rest) := by
  have hmark : '@' ∉ place := fun h => (hplace _ h).2 rfl
  have hback : ∀ c ∈ place.reverse, (c != '@') = true :=
    fun c hc => bne_iff_ne.2 (hplace c (List.mem_reverse.1 hc)).2
  have hall : ∀ c ∈ userChars user ++ place, InAuthority c := fun c hc =>
    (List.mem_append.1 hc).elim (inAuthority_of_mem_userChars huser) fun hc => (hplace c hc).1
  rw [readUser, span_authority hall]
  by_cases h : user = ""
  · have hnone : (userChars user ++ place).contains '@' = false := by simp [userChars, h, hmark]
    simp only [hnone, Bool.false_eq_true, if_false]
    rw [userChars, if_pos h, h, List.nil_append]
  · have hsome : (userChars user ++ place).contains '@' = true := by simp [userChars, h]
    have hreverse : (userChars user ++ place).reverse = place.reverse ++ '@' :: user.toList.reverse := by
      simp [userChars, h]
    -- read from behind, the first mark is the one behind the user information
    simp only [hsome, if_true, hreverse]
    rw [List.takeWhile_append_of_pos hback, List.dropWhile_append_of_pos hback]
    simp [h, hencoded]

/-- A host is read up to the colon of a port, or up to the end of the authority. -/
theorem spanHost_word {name done : List Char} (h : ∀ c ∈ name, InPart c ∧ c ≠ ':' ∧ c ≠ '[') :
    spanHost true false done (name ++ rest) = spanHost true false (name.reverse ++ done) rest := by
  induction name generalizing done with
  | nil => rfl
  | cons c name ih =>
    obtain ⟨⟨hc, hcolon, hbracket⟩, hname⟩ := List.forall_mem_cons.1 h
    have hflag : (c == '[') = false := beq_eq_false_iff_ne.2 hbracket
    rw [List.cons_append, spanHost]
    simp [hc.1.2, hcolon, hflag, ih hname]

/-- Colons in brackets are a part of the host. -/
theorem spanHost_address {address done : List Char} (h : ∀ c ∈ address, InPart c ∧ c ≠ ']') :
    spanHost true true done (address ++ ']' :: rest) = spanHost true false (']' :: (address.reverse ++ done)) rest := by
  induction address generalizing done with
  | nil => simp [spanHost, endsAuthority]
  | cons c address ih =>
    obtain ⟨⟨hc, hbracket⟩, haddress⟩ := List.forall_mem_cons.1 h
    have hflag : (c == '[' || c != ']') = true := by simp [hbracket]
    rw [List.cons_append, spanHost]
    simp [hc.1.2, hflag, ih haddress]

theorem spanHost_portChars {done : List Char} (port : Option UInt16) (rest : List Char) :
    spanHost true false done (portChars port ++ '/' :: rest) = (done.reverse, portChars port ++ '/' :: rest) := by
  cases port <;> simp [portChars, spanHost, endsAuthority]

theorem spanHost_text (h : host.Normal) (port : Option UInt16) (rest : List Char) :
    spanHost true false [] (host.text.toList ++ portChars port ++ '/' :: rest) =
      (host.text.toList, portChars port ++ '/' :: rest) := by
  rw [List.append_assoc]
  rcases host_cases h with hword | ⟨address, htext, haddress⟩
  · rw [spanHost_word hword, spanHost_portChars]
    simp
  · have hopen (rest : List Char) : spanHost true false [] ('[' :: rest) = spanHost true true ['['] rest := by
      simp [spanHost, endsAuthority]
    rw [htext, List.cons_append, hopen, List.append_assoc, List.singleton_append, spanHost_address haddress,
      spanHost_portChars]
    simp

theorem readPort_portChars (port : Option UInt16) (rest : List Char) :
    readPort (portChars port ++ '/' :: rest) = .ok (port, '/' :: rest) := by
  cases port with
  | none => rfl
  | some p =>
    have hdigits : ∀ c ∈ Decimal.digits p.toNat, Decimal.isDigit c = true := fun c => Decimal.isDigit_of_mem_digits
    rw [portChars, List.cons_append, readPort, List.span_eq_takeWhile_dropWhile,
      List.takeWhile_append_of_pos hdigits, List.dropWhile_append_of_pos hdigits]
    simp [endsAuthority, Decimal.isDigit, Decimal.digits_ne_nil, Decimal.value_digits,
      Decimal.word16?_toNat]

/-- The text of an authority in front of a slash is read as that authority, if its host is read at all. -/
theorem readAuthority_text (h : a.Normal default) (rest : List Char) :
    readAuthority default (a.text.toList ++ '/' :: rest) =
      (readHost a.host.text.toList).map fun _ => (a, '/' :: rest) := by
  have hplace : ∀ c ∈ a.host.text.toList ++ portChars a.port, InPart c := fun c hc => inPart_of_mem_place h.host hc
  have huser := readUser_text h.user h.encoded hplace rest
  have hname : a.host.text.toList.isEmpty = false := by simp [h.host.text_ne_empty]
  have hport : (if a.port = some default then none else a.port) = a.port := if_neg h.port
  rw [a.toList_text, readAuthority, huser]
  simp only [bind, Except.bind, spanHost_text h.host, hname, readPort_portChars, Bool.false_eq_true, if_false]
  cases hread : readHost a.host.text.toList with
  | error e => rfl
  | ok host =>
    rw [eq_of_readHost_text h.host hread]
    simp [Except.map, pure, Except.pure, hport]

end Url

end Conformance
