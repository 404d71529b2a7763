import Conformance.Run.Command
import Conformance.Proofs.Config.Valid
import Conformance.Proofs.Matrix.Plan
import Conformance.Proofs.Text.Padding
/-!
# Limits and blanks

The limits on content types and on the paths of files are checked without the blanks around a value, but a
run uses the value as it stands. So the limits hold for what is used exactly if the blanks leave room: in a
path, blanks in front count for its first piece and blanks behind for its last one.
-/

namespace Conformance

/-! ## What a run uses -/

/-- A content type that some planned check asserts. -/
def Config.Asserts (c : Config) (value : String) : Prop :=
  ∃ check ∈ c.plan, check.expected.contentType = .exact value

/-- A path a run opens: the schema of an entry, or the audit log if it is a file. -/
def Config.Opens (c : Config) (path : String) : Prop :=
  (∃ e ∈ c.resources, e.schema = some path) ∨ c.audit = ⟨.file, some path⟩

/-- The limits, for the values as they are used. -/
structure Config.UsedValuesFit (c : Config) : Prop where
  contentTypes : ∀ value, c.Asserts value → 1 ≤ value.utf8ByteSize ∧ value.utf8ByteSize ≤ 256
  paths : ∀ path, c.Opens path → Path.Fits path

/-! ## Room for blanks -/

/-- The blanks around a path leave the limits unbroken. -/
structure Path.Roomy (path : String) : Prop where
  total : (Text.lead path).utf8ByteSize + (Text.trim path).utf8ByteSize + (Text.trail path).utf8ByteSize ≤ 4096
  only : ∀ piece, Text.pieces '/' (Text.trim path) = [piece] →
    (Text.lead path).utf8ByteSize + piece.utf8ByteSize + (Text.trail path).utf8ByteSize ≤ 255
  ends : ∀ first mid last, Text.pieces '/' (Text.trim path) = first :: mid ++ [last] →
    (Text.lead path).utf8ByteSize + first.utf8ByteSize ≤ 255 ∧
      last.utf8ByteSize + (Text.trail path).utf8ByteSize ≤ 255

/-- The blanks around the values a run uses leave the limits unbroken. -/
structure Config.Roomy (c : Config) : Prop where
  contentTypes : ∀ value, c.Asserts value → (Text.lead value).utf8ByteSize +
    (Text.trim value).utf8ByteSize + (Text.trail value).utf8ByteSize ≤ 256
  paths : ∀ path, c.Opens path → Path.Roomy path

section Roomy
variable {path p q : String} {mid : List String}

theorem Path.fits_iff_roomy_of_one (hp : Text.pieces '/' (Text.trim path) = [p]) : Fits path ↔ Roomy path := by
  have hpieces := Text.pieces_of_trim_one (by decide) hp
  rw [fits_iff, hpieces, Text.utf8ByteSize_eq_padded path]
  constructor
  · rintro ⟨htotal, honly⟩
    refine ⟨htotal, fun piece hpiece => ?_, fun first mid last hends => ?_⟩
    · obtain rfl : p = piece := by simpa [hp] using hpiece
      simpa using honly
    · simp [hp] at hends
  · intro hroomy
    exact ⟨hroomy.total, by simpa using hroomy.only p hp⟩

/-- The pieces between the first and the last one carry no blanks, so they fit as they did. -/
theorem Path.fits_iff_roomy_of_more (h : Fits (Text.trim path))
    (hp : Text.pieces '/' (Text.trim path) = p :: mid ++ [q]) : Fits path ↔ Roomy path := by
  have hpieces := Text.pieces_of_trim_more (by decide) hp
  have hmid : ∀ piece ∈ mid, piece.utf8ByteSize ≤ 255 := fun piece hpiece =>
    h.pieces piece (by simp [hp, hpiece])
  rw [fits_iff, hpieces, Text.utf8ByteSize_eq_padded path]
  constructor
  · rintro ⟨htotal, hall⟩
    refine ⟨htotal, fun piece hpiece => ?_, fun first mid' last hends => ?_⟩
    · simp [hp] at hpiece
    · obtain ⟨rfl, hrest⟩ := List.cons.inj (hp.symm.trans hends)
      obtain ⟨rfl, hlast⟩ := List.append_inj' hrest rfl
      obtain rfl : q = last := by simpa using hlast
      exact ⟨by simpa using hall (Text.lead path ++ p) (by simp),
        by simpa using hall (q ++ Text.trail path) (by simp)⟩
  · intro hroomy
    obtain ⟨hfirst, hlast⟩ := hroomy.ends p mid q hp
    refine ⟨hroomy.total, fun piece hpiece => ?_⟩
    rw [List.mem_append, List.mem_cons, List.mem_singleton] at hpiece
    rcases hpiece with (rfl | hpiece) | rfl
    · simpa using hfirst
    · exact hmid piece hpiece
    · simpa using hlast

theorem Path.fits_iff_roomy (h : Fits (Text.trim path)) : Fits path ↔ Roomy path := by
  rcases Text.pieces_cases '/' (Text.trim path) with ⟨p, hp⟩ | ⟨p, mid, q, hp⟩
  · exact fits_iff_roomy_of_one hp
  · exact fits_iff_roomy_of_more h hp

end Roomy

/-! ## Where the values come from -/

/-- What is asserted of an entry: its content type if its path is valid, else that of the error page. -/
theorem Config.asserts_iff {c : Config} {value : String} : c.Asserts value ↔ ∃ e ∈ c.resources,
    value = if c.policy.classify e.path = .valid then e.contentType else Resource.errorPage := by
  constructor
  · rintro ⟨check, hcheck, hvalue⟩
    obtain ⟨hresource, hexpected⟩ := Policy.mem_plan_iff.1 hcheck
    obtain ⟨e, he, hentry⟩ := List.mem_map.1 hresource
    refine ⟨e, he, ?_⟩
    rw [hexpected, ← hentry] at hvalue
    simp only [Policy.evaluate, ResourceEntry.resource] at hvalue
    split at hvalue
    · cases hvalue
      simp [*]
    · split at hvalue
      · cases hvalue
        simp [*]
      · cases hvalue
        simp [*]
      all_goals cases hvalue
  · rintro ⟨e, he, rfl⟩
    have hmem : e.resource ∈ c.catalog := List.mem_map_of_mem he
    refine ⟨_, Policy.mem_plan hmem .get, ?_⟩
    cases hclass : c.policy.classify e.path <;> simp [Policy.evaluate, ResourceEntry.resource, hclass]

theorem Config.Valid.trimmed_contentType [UrlLibrary] {c : Config} {value : String} (hc : c.Valid)
    (h : c.Asserts value) :
    1 ≤ (Text.trim value).utf8ByteSize ∧ (Text.trim value).utf8ByteSize ≤ 256 := by
  obtain ⟨e, he, rfl⟩ := asserts_iff.1 h
  split
  · exact (hc.resources.valid e he).contentType
  · decide

theorem Config.Valid.trimmed_path [UrlLibrary] {c : Config} {path : String} (hc : c.Valid) (h : c.Opens path) :
    Path.Fits (Text.trim path) := by
  rcases h with ⟨e, he, hschema⟩ | haudit
  · exact ((hc.resources.valid e he).schema path hschema).1.fits
  · exact (hc.audit.path path (by rw [haudit])).fits

theorem SchemaRegistry.addAll_congr [JsonLibrary] [SchemaLibrary] {disk disk' : Disk} {c : Config}
    {entries : List ResourceEntry}
    (h : ∀ e ∈ entries, ∀ path, e.schema = some path → disk.read (c.resolve path) = disk'.read (c.resolve path))
    (r : SchemaRegistry) : addAll disk c r entries = addAll disk' c r entries := by
  induction entries generalizing r with
  | nil => rfl
  | cons e rest ih =>
    obtain ⟨he, hrest⟩ := List.forall_mem_cons.1 h
    unfold addAll
    cases hschema : e.schema with
    | none => exact ih hrest r
    | some path =>
      have hload : load disk (c.resolve path) = load disk' (c.resolve path) := by
        rw [load, load, he path hschema]
      simp only [hload, ih hrest]

/-- A run opens nothing else: two disks that agree on these paths give it the same schemas and the same log. -/
theorem Config.opens_only [JsonLibrary] [SchemaLibrary] {disk disk' : Disk} {c : Config}
    (hread : ∀ path, c.Opens path → disk.read (c.resolve path) = disk'.read (c.resolve path))
    (happend : ∀ path, c.Opens path → disk.appendable (c.resolve path) = disk'.appendable (c.resolve path)) :
    SchemaRegistry.ofConfig disk c = SchemaRegistry.ofConfig disk' c ∧
      AuditSink.ofConfig disk c = AuditSink.ofConfig disk' c := by
  refine ⟨SchemaRegistry.addAll_congr (fun e he path hpath => hread path (.inl ⟨e, he, hpath⟩)) _, ?_⟩
  have haudit : ∀ path, c.audit.mode = .file → c.audit.path = some path → c.audit = ⟨.file, some path⟩ := by
    rintro path hmode hpath
    rw [← hmode, ← hpath]
  unfold AuditSink.ofConfig
  split
  · rfl
  · rfl
  · rfl
  · rename_i path hmode hpath
    rw [happend path (.inr (haudit path hmode hpath))]

/-! ## The limits on what is used -/

/-- The limits hold for the values a run uses exactly if the blanks around these values leave room for it. So
they hold if no used value has blanks around it. And a run opens no other paths than the ones that are meant: on two
disks that agree on these it has the same schemas and the same log. -/
theorem Config.usedValuesFit_iff [UrlLibrary] [JsonLibrary] [SchemaLibrary] (c : Config) (h : c.fault? = none) :
    (c.UsedValuesFit ↔ c.Roomy) ∧
    ((∀ value, c.Asserts value ∨ c.Opens value → Text.trim value = value) → c.UsedValuesFit) ∧
    ∀ disk disk' : Disk,
      (∀ path, c.Opens path → disk.read (c.resolve path) = disk'.read (c.resolve path)) →
      (∀ path, c.Opens path → disk.appendable (c.resolve path) = disk'.appendable (c.resolve path)) →
      SchemaRegistry.ofConfig disk c = SchemaRegistry.ofConfig disk' c ∧
        AuditSink.ofConfig disk c = AuditSink.ofConfig disk' c := by
  have hc : c.Valid := fault?_eq_none_iff.1 h
  refine ⟨⟨fun hfit => ⟨?_, ?_⟩, fun hroomy => ⟨?_, ?_⟩⟩, fun htrimmed => ⟨?_, ?_⟩,
    fun disk disk' => opens_only⟩
  · intro value hvalue
    rw [← Text.utf8ByteSize_eq_padded]
    exact (hfit.contentTypes value hvalue).2
  · exact fun path hpath => (Path.fits_iff_roomy (hc.trimmed_path hpath)).1 (hfit.paths path hpath)
  · intro value hvalue
    have hsize := Text.utf8ByteSize_eq_padded value
    have hleast := (hc.trimmed_contentType hvalue).1
    exact ⟨by omega, hsize ▸ hroomy.contentTypes value hvalue⟩
  · exact fun path hpath => (Path.fits_iff_roomy (hc.trimmed_path hpath)).2 (hroomy.paths path hpath)
  · intro value hvalue
    have hsizes := hc.trimmed_contentType hvalue
    rwa [htrimmed value (.inl hvalue)] at hsizes
  · intro path hpath
    have hfits := hc.trimmed_path hpath
    rwa [htrimmed path (.inr hpath)] at hfits

/-- A configuration with a schema and a log file. -/
def Config.withFiles : Config :=
  { Config.standard with
    resources := [⟨"/", "application/json", 200, some "item.json"⟩]
    audit := ⟨.file, some "log.jsonl"⟩ }

theorem Config.withFiles_usedValuesFit :
    withFiles.fault? = none ∧ withFiles.Roomy ∧ withFiles.UsedValuesFit := by
  have hfault : withFiles.fault? = none := by decide +kernel
  obtain ⟨hiff, htrimmed, -⟩ := withFiles.usedValuesFit_iff hfault
  have hfit : withFiles.UsedValuesFit := by
    refine htrimmed fun value hvalue => ?_
    rcases hvalue with hasserts | ⟨e, he, hschema⟩ | haudit
    · obtain ⟨e, he, rfl⟩ := asserts_iff.1 hasserts
      obtain rfl := List.mem_singleton.1 he
      split <;> decide
    · obtain rfl := List.mem_singleton.1 he
      cases hschema
      decide
    · cases haudit
      decide
  exact ⟨hfault, hiff.1 hfit, hfit⟩

/-! ## Blanks without room -/

/-- An entry with blanks in front of its content type and of its schema. -/
def ResourceEntry.pad (blanks : String) (e : ResourceEntry) : ResourceEntry :=
  { e with contentType := blanks ++ e.contentType, schema := e.schema.map (blanks ++ ·) }

/-- A configuration with blanks in front of every content type, of every schema and of the log file. -/
def Config.pad (blanks : String) (c : Config) : Config :=
  { c with
    resources := c.resources.map (.pad blanks)
    audit := { c.audit with path := c.audit.path.map (blanks ++ ·) } }

section Pad
variable {blanks : String} (hblanks : ∀ ch ∈ blanks.toList, Text.isBlank ch = true)
include hblanks

theorem isJsonMedia_append_left (s : String) : isJsonMedia (blanks ++ s) = isJsonMedia s := by
  have hessence : essence (blanks ++ s) = essence s := by
    have hsemicolon : ∀ ch ∈ blanks.toList, (ch != ';') = true := by
      intro ch hch
      rw [bne_iff_ne]
      rintro rfl
      exact absurd (hblanks _ hch) (by decide)
    rw [essence, essence, String.toList_append, List.takeWhile_append_of_pos hsemicolon,
      Text.trimChars_append_left hblanks]
  rw [isJsonMedia, isJsonMedia, hessence]

theorem validPath_append_left (path : String) : ValidPath (blanks ++ path) ↔ ValidPath path := by
  rw [validPath_iff, validPath_iff, Text.trim_append_left hblanks]

theorem ResourceEntry.valid_pad_iff (e : ResourceEntry) : (e.pad blanks).Valid ↔ e.Valid := by
  have hjson : (e.pad blanks).resource.declaresJson = e.resource.declaresJson :=
    isJsonMedia_append_left hblanks e.contentType
  have hschema : (∀ path, (e.pad blanks).schema = some path →
      ValidPath path ∧ (e.pad blanks).resource.declaresJson = true) ↔
      ∀ path, e.schema = some path → ValidPath path ∧ e.resource.declaresJson = true := by
    rw [hjson, pad]
    cases e.schema <;> simp [validPath_append_left hblanks]
  rw [valid_iff, hschema, pad, Text.trim_append_left hblanks, valid_iff]

theorem validCatalog_pad_iff (entries : List ResourceEntry) :
    ValidCatalog (entries.map (.pad blanks)) ↔ ValidCatalog entries := by
  have hpaths : (entries.map (ResourceEntry.pad blanks)).map (·.path) = entries.map (·.path) := by
    rw [List.map_map]
    rfl
  simp only [validCatalog_iff, hpaths, List.length_map, List.forall_mem_map, ResourceEntry.valid_pad_iff hblanks]

theorem AuditTarget.valid_pad_iff (a : AuditTarget) :
    AuditTarget.Valid { a with path := a.path.map (blanks ++ ·) } ↔ a.Valid := by
  rw [valid_iff, valid_iff]
  cases a.path <;> simp [validPath_append_left hblanks]

/-- However many blanks there are, they make no difference to what is accepted. -/
theorem Config.fault?_pad_eq_none_iff [UrlLibrary] (c : Config) : (c.pad blanks).fault? = none ↔ c.fault? = none := by
  rw [fault?_eq_none_iff, fault?_eq_none_iff, valid_iff, valid_iff, pad, validCatalog_pad_iff hblanks,
    AuditTarget.valid_pad_iff hblanks]

end Pad

/-- Blanks that leave no room: an accepted configuration that asserts a content type and opens files beyond the
limits. -/
theorem Config.padded_values_exceed_limits :
    let blanks := String.ofList (List.replicate 300 ' ')
    let c := withFiles.pad blanks
    c.fault? = none ∧
      (c.Asserts (blanks ++ "application/json") ∧ 256 < (blanks ++ "application/json").utf8ByteSize) ∧
      (c.Opens (blanks ++ "item.json") ∧ ¬ Path.Fits (blanks ++ "item.json")) ∧
      (c.Opens (blanks ++ "log.jsonl") ∧ ¬ Path.Fits (blanks ++ "log.jsonl")) := by
  intro blanks c
  have hsize : blanks.utf8ByteSize = 300 := by decide +kernel
  have hblanks : ∀ ch ∈ blanks.toList, ch = ' ' := by
    rw [String.toList_ofList]
    exact fun ch => List.eq_of_mem_replicate
  have hslash : '/' ∉ blanks.toList := fun h => absurd (hblanks _ h) (by decide)
  have hlong : ∀ name, Text.pieces '/' name = [name] → ¬ Path.Fits (blanks ++ name) := by
    intro name hname hfits
    have hpiece := hfits.pieces (blanks ++ name) (by rw [Text.pieces_append_left hslash hname]; simp)
    rw [String.utf8ByteSize_append] at hpiece
    omega
  refine ⟨(fault?_pad_eq_none_iff (fun ch h => ?_) _).2 (by decide +kernel), ⟨?_, ?_⟩,
    ⟨.inl ⟨_, .head _, rfl⟩, hlong _ (by decide)⟩, ⟨.inr rfl, hlong _ (by decide)⟩⟩
  · rw [hblanks ch h]
    decide
  · exact asserts_iff.2 ⟨_, .head _, by rw [if_pos (by decide)]; rfl⟩
  · rw [String.utf8ByteSize_append]
    omega

end Conformance
