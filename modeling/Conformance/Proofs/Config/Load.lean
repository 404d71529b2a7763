import Mathlib
import Conformance.Config.Source
import Conformance.Proofs.Config.Environment
/-!
# Loading from a file

A configuration loaded from a file is that of its text, with the directory of the file as its base. The file is the
one that is named explicitly, else the one the environment names, else the default file; `Config.Picks` says which.
`Config.load_from_one_source` says that nothing but this file and what it holds has a say in what is loaded, and that a
file that cannot be used is an error.
-/

namespace Conformance

theorem Path.excess?_eq_none_iff {path : String} : Path.excess? path = none ↔ Path.Fits path := by
  rw [Path.fits_iff, ← longestPiece_le_iff, Path.excess?, Path.maxTotal, Path.maxComponent]
  by_cases htotal : 4096 < path.utf8ByteSize
  · simp [htotal, Nat.not_le.2 htotal]
  · rw [if_neg htotal, and_iff_right (Nat.not_lt.1 htotal)]
    by_cases hpiece : 255 < Path.longestPiece path
    · simp [hpiece, Nat.not_le.2 hpiece]
    · simp [hpiece, Nat.not_lt.1 hpiece]

namespace Config

variable {disk : Disk} {path text : String} {env : Environment} {named : Option String} {c c' : Config}

/-! ## Validation -/

section Library
variable [UrlLibrary]

/-- The directory a configuration was read from is no matter for its validity. -/
theorem validated_baseDir (c : Config) (dir : Option String) :
    validated { c with baseDir := dir } = (validated c).map fun c => { c with baseDir := dir } := by
  have hsame : { c with baseDir := dir }.fault? = c.fault? := rfl
  cases hfault : c.fault? with
  | none => rw [validated_of_none hfault, validated_of_none (hsame.trans hfault)]; rfl
  | some f => rw [validated_of_some hfault, validated_of_some (hsame.trans hfault)]; rfl

end Library

/-! ## Files -/

theorem content_toUTF8 (text : String) :
    content text.toUTF8 = if maxSize < text.utf8ByteSize then .error .tooLarge else .ok text := by
  rw [content, Text.fromUTF8?_toUTF8]
  rfl

theorem content_of_large {bytes : ByteArray} (h : 1048576 < bytes.size) : content bytes = .error .tooLarge :=
  if_pos h

theorem content_of_not_text {bytes : ByteArray} (hsize : bytes.size ≤ 1048576)
    (h : ∀ text, bytes ≠ String.toUTF8 text) : content bytes = .error .notUtf8 := by
  have hnone : String.fromUTF8? bytes = none := by
    rw [Option.eq_none_iff_forall_not_mem]
    exact fun text htext => h text (Text.fromUTF8?_eq_some_iff.1 htext)
  rw [content, hnone]
  exact if_neg (Nat.not_lt.2 hsize)

section Libraries
variable [SettingsLibrary] [UrlLibrary]

theorem ofFile_of_excess {x : Path.Excess} (h : Path.excess? path = some x) :
    ofFile disk path = .error (.path x) := by
  rw [ofFile, h]

theorem ofFile_of_error {e : FileError} (hpath : Path.excess? path = none) (h : disk.read path = .error e) :
    ofFile disk path = .error (.unreadable e) := by
  rw [ofFile, hpath]
  simp only [h]

theorem ofFile_of_bytes {bytes : ByteArray} (hpath : Path.excess? path = none) (hread : disk.read path = .ok bytes) :
    ofFile disk path = (content bytes).bind fun text =>
      (decode text).bind fun c => validated { c with baseDir := Path.parent? path } := by
  rw [ofFile, hpath, hread]
  rfl

theorem ofFile_of_text (hpath : Path.excess? path = none)
    (hread : disk.read path = .ok text.toUTF8) (hsize : text.utf8ByteSize ≤ maxSize) :
    ofFile disk path = (decode text).bind fun c => validated { c with baseDir := Path.parent? path } := by
  rw [ofFile_of_bytes hpath hread, content_toUTF8, if_neg (Nat.not_lt.2 hsize)]
  rfl

/-- A file that is a text has the configuration of the text, or the error of the text. -/
theorem ofFile_eq_ofText (hpath : Path.excess? path = none) (hread : disk.read path = .ok text.toUTF8) :
    ofFile disk path = (ofText text).map fun c => { c with baseDir := Path.parent? path } := by
  by_cases hsize : maxSize < text.utf8ByteSize
  · rw [ofFile_of_bytes hpath hread, content_toUTF8, ofText, if_pos hsize, if_pos hsize]
    rfl
  · rw [ofFile_of_text hpath hread (Nat.not_lt.1 hsize), ofText, if_neg hsize]
    cases decode text with
    | error e => rfl
    | ok c => simp only [Except.bind, validated_baseDir]

/-- What is read from a file depends on nothing else the disk holds. -/
theorem ofFile_congr {disk' : Disk} (h : disk'.read path = disk.read path) :
    ofFile disk' path = ofFile disk path := by
  rw [ofFile, ofFile, h]

end Libraries

/-! ## The choice of the file -/

/-- The file a configuration is read from, given the path that is named explicitly and the one the environment
names. -/
inductive Picks (disk : Disk) : Option String → Option String → String → Prop
  | explicit {path : String} {named : Option String} : Picks disk (some path) named path
  | named {path : String} (filled : Text.trim path ≠ "") (short : path.utf8ByteSize ≤ 4096) :
    Picks disk none (some path) path
  | default (there : disk.isFile "compliance-harness.toml" = true) :
    Picks disk none none "compliance-harness.toml"

theorem source_of_picks {explicit : Option String} (h : Picks disk explicit named path) :
    source disk explicit named = .ok (some path) := by
  cases h with
  | explicit => rfl
  | named filled short =>
    rw [source, if_neg (mt Text.isBlankText_iff.1 filled), Path.maxTotal, if_neg (Nat.not_lt.2 short)]
  | default there => rw [source, defaultName, if_pos there]

section Libraries
variable [SettingsLibrary] [UrlLibrary]

theorem load_eq (explicit : Option String) (henv : env.text .configPath = .ok named) :
    load disk explicit env = (source disk explicit named).bind fun path? =>
      match path? with
      | some path => ofFile disk path
      | none => validated standard := by
  rw [load, henv]
  rfl

theorem load_of_picks {explicit : Option String} (henv : env.text .configPath = .ok named)
    (h : Picks disk explicit named path) : load disk explicit env = ofFile disk path := by
  rw [load_eq explicit henv, source_of_picks h]
  rfl

/-- A path that is given wins over the one of the environment. -/
theorem load_of_explicit (henv : env.text .configPath = .ok named) :
    load disk (some path) env = ofFile disk path :=
  load_of_picks henv .explicit

/-- A file that is named and holds a valid configuration is what is loaded. -/
theorem load_of_text {c : Config}
    (henv : env.text .configPath = .ok named) (hpath : Path.excess? path = none)
    (hread : disk.read path = .ok text.toUTF8) (hsize : text.utf8ByteSize ≤ maxSize)
    (hdecode : decode text = .ok c) (hvalid : { c with baseDir := Path.parent? path }.fault? = none) :
    load disk (some path) env = .ok { c with baseDir := Path.parent? path } := by
  simp only [load_of_explicit henv, ofFile_of_text hpath hread hsize, hdecode, Except.bind,
    validated_of_none hvalid]

theorem valid_of_ofFile (h : ofFile disk path = .ok c) : c.Valid := by
  cases hpath : Path.excess? path with
  | some x => rw [ofFile_of_excess hpath] at h; cases h
  | none =>
    cases hread : disk.read path with
    | error e => rw [ofFile_of_error hpath hread] at h; cases h
    | ok bytes =>
      simp only [ofFile_of_bytes hpath hread, bind_eq_ok_iff, validated_eq_ok_iff] at h
      obtain ⟨_, _, _, _, rfl, hvalid⟩ := h
      exact hvalid

/-- What is loaded is valid, wherever it comes from. -/
theorem valid_of_load {explicit : Option String} (h : load disk explicit env = .ok c) : c.Valid := by
  cases henv : env.text .configPath with
  | error e => rw [load, henv] at h; cases h
  | ok named =>
    rw [load_eq explicit henv, bind_eq_ok_iff] at h
    obtain ⟨path?, -, h⟩ := h
    cases path? with
    | some path => exact valid_of_ofFile h
    | none =>
      obtain ⟨rfl, hvalid⟩ := validated_eq_ok_iff.1 h
      exact hvalid

/-- A configuration is taken from one source, whatever the disk holds. If a path is picked, what is loaded hangs on
this path and what is read from it alone, and nothing that is wrong there leads to another source: a path beyond the
limits, a file that cannot be read, more than a mebibyte, and bytes that are no UTF-8 are each an error of their own.
The bytes of a text give what the text gives, a configuration or an error, but for the directory of the file as the
base. No path is picked if the environment alone names one that is blank or longer than 4096 bytes, which is an error,
or if nothing names one and the default file is not there, and then the built-in configuration is loaded. -/
theorem load_from_one_source [UrlLibrary.Lawful] (disk : Disk) (explicit named : Option String) (env : Environment)
    (henv : env .configPath = named.map String.toUTF8) :
    (∀ path, Picks disk explicit named path →
      (¬ Path.Fits path → ∃ x, load disk explicit env = .error (.path x)) ∧
      (Path.Fits path →
        (∀ e, disk.read path = .error e → load disk explicit env = .error (.unreadable e)) ∧
        (∀ bytes, disk.read path = .ok bytes → 1048576 < bytes.size →
          load disk explicit env = .error .tooLarge) ∧
        (∀ bytes, disk.read path = .ok bytes → bytes.size ≤ 1048576 → (∀ text, bytes ≠ String.toUTF8 text) →
          load disk explicit env = .error .notUtf8) ∧
        (∀ text, disk.read path = .ok text.toUTF8 →
          load disk explicit env = (ofText text).map fun c => { c with baseDir := Path.parent? path })) ∧
      ∀ (disk' : Disk) (explicit' named' : Option String) (env' : Environment),
        env' .configPath = named'.map String.toUTF8 → Picks disk' explicit' named' path →
        disk'.read path = disk.read path → load disk' explicit' env' = load disk explicit env) ∧
    (∀ path, explicit = none → named = some path → Text.trim path = "" →
      load disk explicit env = .error (.environment ⟨.configPath, .blank⟩)) ∧
    (∀ path, explicit = none → named = some path → Text.trim path ≠ "" → 4096 < path.utf8ByteSize →
      load disk explicit env = .error (.path .total)) ∧
    (explicit = none → named = none → disk.isFile "compliance-harness.toml" = false →
      load disk explicit env = .ok standard) := by
  have htext : env.text .configPath = .ok named := Environment.text_eq_ok_iff.2 henv
  refine ⟨fun path hpicks => ?_, ?_, ?_, ?_⟩
  · rw [load_of_picks htext hpicks]
    refine ⟨fun hlong => ?_, fun hfits => ?_, fun disk' explicit' named' env' henv' hpicks' hsame => ?_⟩
    · obtain ⟨x, hx⟩ := Option.ne_none_iff_exists'.1 (mt Path.excess?_eq_none_iff.1 hlong)
      exact ⟨x, ofFile_of_excess hx⟩
    · have hpath := Path.excess?_eq_none_iff.2 hfits
      refine ⟨fun e => ofFile_of_error hpath, fun bytes hread hsize => ?_, fun bytes hread hsize hno => ?_,
        fun text => ofFile_eq_ofText hpath⟩
      · rw [ofFile_of_bytes hpath hread, content_of_large hsize]
        rfl
      · rw [ofFile_of_bytes hpath hread, content_of_not_text hsize hno]
        rfl
    · rw [load_of_picks (Environment.text_eq_ok_iff.2 henv') hpicks', ofFile_congr hsame]
  · rintro path rfl rfl hblank
    rw [load_eq none htext, source, if_pos (Text.isBlankText_iff.2 hblank)]
    rfl
  · rintro path rfl rfl hfilled hlong
    rw [load_eq none htext, source, if_neg (mt Text.isBlankText_iff.1 hfilled), Path.maxTotal, if_pos hlong]
    rfl
  · rintro rfl rfl hmissing
    have hstandard : validated standard = .ok standard := validated_eq_ok_iff.2 ⟨rfl, valid_standard⟩
    rw [load_eq none htext, source, defaultName, hmissing]
    simp only [Bool.false_eq_true, if_false, Except.bind, hstandard]

end Libraries

/-- A tree with a configuration file in a directory of its own, and a default file that is no settings document. -/
def twoFiles : FileTree :=
  ⟨[(["etc", "run.toml"], "[target]\ntimeout_ms=500\n".toUTF8), (["compliance-harness.toml"], "=".toUTF8)]⟩

theorem load_from_named_file :
    let env : Environment := fun v => if v = .configPath then some "etc/run.toml".toUTF8 else none
    env .configPath = some "etc/run.toml".toUTF8 ∧
    load twoFiles.disk none env =
      .ok { standard with target := ⟨"http://127.0.0.1:8082", 500, 4⟩, baseDir := some "etc" } ∧
    load twoFiles.disk none (fun _ => none) = .error (.malformed "line 1: malformed statement") := by
  intro env
  have hnamed := (load_from_one_source twoFiles.disk none (some "etc/run.toml") env rfl).1 "etc/run.toml"
    (.named (by decide +kernel) (by decide +kernel))
  have hdefault := (load_from_one_source twoFiles.disk none none (fun _ => none) rfl).1 "compliance-harness.toml"
    (.default rfl)
  have hfits : Path.Fits "etc/run.toml" := Path.excess?_eq_none_iff.1 (by decide +kernel)
  have hfitsDefault : Path.Fits "compliance-harness.toml" := Path.excess?_eq_none_iff.1 (by decide +kernel)
  refine ⟨rfl, ?_, ?_⟩
  · have hdecode : decode "[target]\ntimeout_ms=500\n" =
        .ok { standard with target := ⟨"http://127.0.0.1:8082", 500, 4⟩ } := by cbv
    have hvalid : { standard with target := ⟨"http://127.0.0.1:8082", 500, 4⟩ }.fault? = none := by decide +kernel
    rw [(hnamed.2.1 hfits).2.2.2 _ rfl, ofText, if_neg (by decide +kernel), hdecode]
    simp only [Except.bind, validated_of_none hvalid]
    rfl
  · have hdecode : decode "=" = .error (.malformed "line 1: malformed statement") := by cbv
    rw [(hdefault.2.1 hfitsDefault).2.2.2 _ rfl, ofText, if_neg (by decide +kernel), hdecode]
    rfl

end Config

end Conformance
