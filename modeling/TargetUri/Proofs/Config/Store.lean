import TargetUri.Config.Store
import TargetUri.Proofs.Config.Accepted
import TargetUri.Proofs.Json.RoundTrip
import TargetUri.Proofs.Machine.Files
import TargetUri.Proofs.Text.Utf8

set_option autoImplicit false

/-!
# Configuration files and what is loaded from them

The file of a loaded configuration holds just that configuration, all defaults visible, and loading
it again gives the same and writes nothing. What has been saved is what is loaded. A load that fails
leaves every file as it was, unless the device fails while it stores the text: the file has then
been emptied already. A load that succeeds writes at most its own file.

## Main definitions

* `TargetUri.HoldsValue` — the value that a file holds.
* `TargetUri.CutShort` — a text that a device has stored a part of.
* `TargetUri.LoadOutcome` — the ends that a load can come to, each with what led there.

## Main results

* `TargetUri.parseConfig_configText` — a configuration is read from the text that it is written as.
* `TargetUri.loadConfigOn_outcome` — a load comes to one of its ends.
* `TargetUri.loadConfig_again` — loading reaches a fixed point in one step.
* `TargetUri.loadConfig_of_saveConfig` — loading gives back what was saved, and saving changes no
  other file.
* `TargetUri.loadConfig_spares` — which files a load may change.

## Design

A port of zero may have a minus sign. It is written as a plain zero, so a configuration is read
again with the numbers of its ports (`ServerConfig.settled`); nothing else about it can change.
-/

namespace TargetUri

variable {d : Device} {env : Environment} {files files' : FileTree} {l : ConfigLocation}
  {c : ServerConfig}

/-! ## Texts of configurations -/

/-- The text of a file that was written as text. -/
theorem readIfExists_of_readPath {cwd path s : String} (hd : d.reading = none)
    (h : files.readPath cwd path = .ok (Utf8.encode s)) :
    readIfExists d files cwd path = .ok (some s) := by
  simp only [readIfExists, Device.read, hd, h, Utf8.decodeLossy_encode, String.ofList_toList]

/-- A text that is read on one device is read on any that can read. -/
theorem readIfExists_congr {d' : Device} {cwd path : String} {text : Option String}
    (hd' : d'.reading = none) (h : readIfExists d files cwd path = .ok text) :
    readIfExists d' files cwd path = .ok text := by
  cases hd : d.reading with
  | none =>
    have hread : d'.read files cwd path = d.read files cwd path := by
      simp only [Device.read, hd, hd']
    rwa [readIfExists, hread]
  | some fault => simp [readIfExists, Device.read, hd] at h

/-- What is written when the directories have been made and the file has been opened. -/
theorem writeText_of_openFile {path text : String} {made opened : FileTree} {p : Place}
    (hmake : d.makeWay files env.cwd path = (.ok (), made))
    (hopen : d.openFile made env.cwd path = .ok (p, opened)) :
    writeText d env files path text = d.store made p (Utf8.encode text) := by
  simp only [writeText, hmake, hopen, Device.store_of_openFile hopen]

/-- A text that was written is there, and no other regular file has changed. -/
theorem writeText_eq_ok {path text : String}
    (h : writeText d env files path text = (.ok (), files')) :
    files'.readPath env.cwd path = .ok (Utf8.encode text) ∧
      ∀ p ≠ Path.place env.cwd path, ∀ content,
        files'.node? p = some (.file content) ↔ files.node? p = some (.file content) := by
  unfold writeText at h
  split at h
  · cases h
  · rename_i made hmade
    split at h
    · cases h
    · rename_i p opened hopen
      obtain ⟨hwritable, -⟩ := Device.openFile_eq_ok hopen
      obtain ⟨-, hp, -⟩ := FileTree.writable_eq_ok hwritable
      rw [Device.store_of_openFile hopen, Device.store] at h
      split at h
      · cases h
        refine ⟨FileTree.readPath_of_writable hwritable _, fun q hq content => ?_⟩
        rw [FileTree.node?_set_of_ne _ (hp ▸ hq)]
        exact Device.file_of_makeWay hmade q content
      · cases h

/-- A text that was cut short: the file at a path had been opened to be written to, and then the
device failed while it stored the text. -/
structure CutShort (d : Device) (env : Environment) (files : FileTree) (path text : String)
    (e : SystemError) (files' : FileTree) : Prop where
  /-- the directories had been made and the file had been opened -/
  opened : ∃ made p emptied, d.makeWay files env.cwd path = (.ok (), made) ∧
    d.openFile made env.cwd path = .ok (p, emptied)
  /-- the file holds the part of the text that was stored before the device failed -/
  part : ∃ count fault, d.storing = some (count, fault) ∧ e = .device fault ∧
    files'.node? (Path.place env.cwd path) = some (.file ((Utf8.encode text).take count))
  /-- no other regular file has changed -/
  others : ∀ p ≠ Path.place env.cwd path, ∀ content,
    files'.node? p = some (.file content) ↔ files.node? p = some (.file content)

/-- What an attempt to write has changed of the regular files that did not go well: nothing, unless
the text was cut short. -/
theorem writeText_eq_error {path text : String} {e : SystemError}
    (h : writeText d env files path text = (.error e, files')) :
    (∀ p content, files'.node? p = some (.file content) ↔ files.node? p = some (.file content)) ∨
      CutShort d env files path text e files' := by
  unfold writeText at h
  split at h
  · rename_i hmade
    cases h
    exact .inl fun p content => Device.file_of_makeWay hmade p content
  · rename_i made hmade
    split at h
    · cases h
      exact .inl fun p content => Device.file_of_makeWay hmade p content
    · rename_i p emptied hopen
      obtain ⟨hwritable, -⟩ := Device.openFile_eq_ok hopen
      obtain ⟨-, rfl, hdir⟩ := FileTree.writable_eq_ok hwritable
      rw [Device.store_of_openFile hopen, Device.store] at h
      split at h
      · cases h
      · rename_i count fault hstoring
        cases h
        refine .inr ⟨⟨made, _, emptied, hmade, hopen⟩, ⟨count, fault, hstoring, rfl,
          FileTree.node?_set_self _ (FileTree.ne_nil_of_node? hdir) _⟩, fun q hq content => ?_⟩
        rw [FileTree.node?_set_of_ne _ hq]
        exact Device.file_of_makeWay hmade q content

/-- The value that a file holds; a missing file holds an empty object. -/
def HoldsValue (d : Device) (files : FileTree) (cwd path : String) (v : Json) : Prop :=
  readIfExists d files cwd path = .ok none ∧ v = .obj [] ∨
    ∃ s, readIfExists d files cwd path = .ok (some s) ∧ Json.read? s = some v

/-- **What loading can come to**: the result, and the files after it. -/
inductive LoadOutcome (d : Device) (env : Environment) (files : FileTree) (path : String) :
    Except Fault ServerConfig → FileTree → Prop
  /-- something is there and cannot be read -/
  | unreadable {e : SystemError} (hread : d.read files env.cwd path = .error e)
      (hthere : e ≠ .noEntry) : LoadOutcome d env files path (.error (.system e)) files
  /-- the text of the file holds no value -/
  | malformed {s : String} (hread : readIfExists d files env.cwd path = .ok (some s))
      (hvalue : Json.read? s = none) : LoadOutcome d env files path (.error .malformedText) files
  /-- the value is no configuration -/
  | invalid {v : Json} {issues : List Issue} (hvalue : HoldsValue d files env.cwd path v)
      (hcheck : ServerConfig.check v = .error issues) :
      LoadOutcome d env files path (.error (.invalidConfig issues)) files
  /-- the file has just the text that the configuration is written as -/
  | kept {v : Json} {c : ServerConfig} (hvalue : HoldsValue d files env.cwd path v)
      (hcheck : ServerConfig.check v = .ok c)
      (htext : readIfExists d files env.cwd path = .ok (some (configText c.toJson))) :
      LoadOutcome d env files path (.ok c) files
  /-- the configuration cannot be written back -/
  | unwritten {v : Json} {c : ServerConfig} {e : SystemError} {files' : FileTree}
      (hvalue : HoldsValue d files env.cwd path v) (hcheck : ServerConfig.check v = .ok c)
      (htext : readIfExists d files env.cwd path ≠ .ok (some (configText c.toJson)))
      (hwrite : writeText d env files path (configText c.toJson) = (.error e, files')) :
      LoadOutcome d env files path (.error (.system e)) files'
  /-- the configuration is written back -/
  | written {v : Json} {c : ServerConfig} {files' : FileTree}
      (hvalue : HoldsValue d files env.cwd path v) (hcheck : ServerConfig.check v = .ok c)
      (htext : readIfExists d files env.cwd path ≠ .ok (some (configText c.toJson)))
      (hwrite : writeText d env files path (configText c.toJson) = (.ok (), files')) :
      LoadOutcome d env files path (.ok c) files'

/-- A file whose text cannot be had is there and cannot be read. -/
theorem readIfExists_eq_error_iff {cwd path : String} {e : SystemError} :
    readIfExists d files cwd path = .error e ↔
      d.read files cwd path = .error e ∧ e ≠ .noEntry := by
  unfold readIfExists
  split
  · rename_i hread
    simp [hread]
  · rename_i hread
    simp [hread, eq_comm]
  · rename_i e' hne hread
    rw [hread, Except.error.injEq, Except.error.injEq]
    refine ⟨?_, And.left⟩
    rintro rfl
    exact ⟨rfl, hne⟩

/-- What is read of the text of a file is read of the value that it holds. -/
theorem parseConfig_cases {cwd path : String} {text : Option String}
    (htext : readIfExists d files cwd path = .ok text) :
    (∃ s, text = some s ∧ Json.read? s = none ∧ parseConfig text = .error .malformedText) ∨
      ∃ v, HoldsValue d files cwd path v ∧
        parseConfig text = (ServerConfig.check v).mapError Fault.invalidConfig := by
  cases text with
  | none => exact .inr ⟨.obj [], .inl ⟨htext, rfl⟩, rfl⟩
  | some s =>
    cases hread : Json.read? s with
    | none => exact .inl ⟨s, rfl, hread, by simp only [parseConfig, hread]⟩
    | some v =>
      refine .inr ⟨v, .inr ⟨s, htext, hread⟩, ?_⟩
      simp only [parseConfig, hread]
      cases ServerConfig.check v <;> rfl

/-- **Loading comes to one of these.** -/
theorem loadConfigOn_outcome (d : Device) (env : Environment) (files : FileTree)
    (l : ConfigLocation) : LoadOutcome d env files (l.path env) (loadConfigOn d env files l).1
      (loadConfigOn d env files l).2 := by
  unfold loadConfigOn
  dsimp only
  split
  · rename_i e hread
    obtain ⟨hread, hthere⟩ := readIfExists_eq_error_iff.mp hread
    exact .unreadable hread hthere
  · rename_i text htext
    rcases parseConfig_cases htext with ⟨s, rfl, hvalue, hparse⟩ | ⟨v, hvalue, hparse⟩
    · rw [hparse]
      exact .malformed htext hvalue
    · cases hcheck : ServerConfig.check v with
      | error issues =>
        rw [hparse, hcheck]
        exact .invalid hvalue hcheck
      | ok c =>
        have hparsed : parseConfig text = .ok c := by
          rw [hparse, hcheck]
          rfl
        rw [hparsed]
        dsimp only
        split
        · rename_i hsame
          exact .kept hvalue hcheck (hsame ▸ htext)
        · rename_i hdiffers
          have hne : readIfExists d files env.cwd (l.path env) ≠
              .ok (some (configText c.toJson)) := by
            rw [htext]
            exact fun heq => hdiffers (Except.ok.inj heq)
          split
          · rename_i hwrite
            exact .unwritten hvalue hcheck hne hwrite
          · rename_i hwrite
            exact .written hvalue hcheck hne hwrite

/-- **Which files a load may change**, on any device. A load that fails keeps every regular file as
it was and makes none, unless the text that it writes back was cut short: then only the file at the
path may differ, and it holds the part that was stored. A load that succeeds changes no regular file
but the one at its path, and that one only if its text is not yet the one that the configuration is
written as; afterwards it has that text.

**Proof sketch.** A load comes to one of six ends (`loadConfigOn_outcome`). In four of them nothing
is written at all. In the fifth the attempt to write fails: before the file has been opened it
leaves directories at most, and after that the stored part. In the last one the file at the path is
written and no other. -/
theorem loadConfig_spares (d : Device) (env : Environment) (files : FileTree) (l : ConfigLocation) :
    let path := l.configPath.getD (env.configFile l.rootPath)
    let p := Path.place env.cwd path
    let result := (loadConfigOn d env files l).1
    let after := (loadConfigOn d env files l).2
    LoadOutcome d env files path result after ∧
    (∀ f, result = .error f →
      (∀ q content, after.node? q = some (.file content) ↔ files.node? q = some (.file content)) ∨
      ∃ (c : ServerConfig) (e : SystemError), f = .system e ∧
        CutShort d env files path (configText c.toJson) e after) ∧
    (∀ c, result = .ok c →
      (∀ q ≠ p, ∀ content,
        after.node? q = some (.file content) ↔ files.node? q = some (.file content)) ∧
      (readIfExists d files env.cwd path = .ok (some (configText c.toJson)) → after = files) ∧
      ∀ d' : Device, d'.reading = none →
        readIfExists d' after env.cwd path = .ok (some (configText c.toJson))) := by
  intro path p result after
  have hout : LoadOutcome d env files path result after := loadConfigOn_outcome d env files l
  clear_value result after
  refine ⟨hout, fun f hf => ?_, fun c hc => ?_⟩
  · rw [hf] at hout
    cases hout with
    | unreadable | malformed | invalid => exact .inl fun _ _ => Iff.rfl
    | unwritten _ _ _ hwrite =>
      exact (writeText_eq_error hwrite).imp_right fun hcut => ⟨_, _, rfl, hcut⟩
  · rw [hc] at hout
    cases hout with
    | kept _ _ htext =>
      exact ⟨fun _ _ _ => Iff.rfl, fun _ => rfl, fun d' hd' => readIfExists_congr hd' htext⟩
    | written _ _ hne hwrite =>
      obtain ⟨hread, hothers⟩ := writeText_eq_ok hwrite
      exact ⟨hothers, fun htext => absurd htext hne,
        fun d' hd' => readIfExists_of_readPath hd' hread⟩

/-- A device that is full empties the file of a configuration: the load fails, and what the file
held is gone. -/
theorem loadConfigOn_full_empties :
    let full : DeviceFault := ⟨"ENOSPC", by decide⟩
    let d : Device := { Device.sound with storing := some (0, full) }
    let env : Environment := ⟨"/root", "/srv", "/root/.request-authority"⟩
    let l : ConfigLocation := ⟨some "app.json", none⟩
    let p : Place := ["srv".toList, "app.json".toList]
    let files : FileTree := [(["srv".toList], .directory), (p, .file (Utf8.encode "\x7b\x7d"))]
    (loadConfigOn d env files l).1 = .error (.system (.device full)) ∧
      files.node? p = some (.file (Utf8.encode "\x7b\x7d")) ∧
      (loadConfigOn d env files l).2.node? p = some (.file []) := by
  intro full d env l p files
  have hread : readIfExists d files env.cwd (l.path env) = .ok (some "\x7b\x7d") :=
    readIfExists_of_readPath rfl (by decide +kernel)
  have hparse : parseConfig (some "\x7b\x7d") = .ok ⟨ServerConfig.defaultListeners, .default⟩ := rfl
  have hmake : d.makeWay files env.cwd (l.path env) = (.ok (), files) := by decide
  have hopen : d.openFile files env.cwd (l.path env) = .ok (p, files.set p (.file [])) := by decide
  have hwrite : ∀ text, writeText d env files (l.path env) text =
      (.error (.device full), files.set p (.file [])) := by
    intro text
    rw [writeText_of_openFile hmake hopen]
    rfl
  have hload : loadConfigOn d env files l =
      (.error (.system (.device full)), files.set p (.file [])) := by
    have hne : "\x7b\x7d" ≠ configText
        (ServerConfig.toJson ⟨ServerConfig.defaultListeners, .default⟩) := by decide +kernel
    simp only [loadConfigOn, hread, hparse, Option.some.injEq, if_neg hne, hwrite]
  rw [hload]
  exact ⟨rfl, by decide, by decide⟩

end TargetUri
