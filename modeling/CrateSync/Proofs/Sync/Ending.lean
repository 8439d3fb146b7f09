/-
# How steps end

Each step of a synchronisation in all the ways in which it can end: what has to hold of the files
for it, which files there are afterwards, and the actions that are recorded.  Elsewhere the steps are
known by their endings alone.

* `copyStep_ends`, `readmeStep_ends`, `headerStep_ends`, `licenseStep_ends` : a step ends in one of
  these ways, and adds its actions to the report.
-/
import CrateSync.Sync.Run
import CrateSync.Proofs.FileSystem.Effect

namespace CrateSync

/-- The text of the file that a path leads to, or why there is none. -/
def FileSystem.textOf (fs : FileSystem) (p : Path) : Except Sync.Trouble Text :=
  match fs.read p with
  | .error e => .error (.system e)
  | .ok octets =>
    match Utf8.decode octets with
    | .ok t => .ok t
    | .error m => .error (.notText m)

namespace FileSystem

theorem textOf_congr {fs fs' : FileSystem} {p : Path}
    (h : fs'.lookup .follow p = fs.lookup .follow p) : fs'.textOf p = fs.textOf p := by
  rw [textOf, textOf, read_congr h]

/-- A file has a text if it holds the octets of that text. -/
theorem textOf_eq_ok {fs : FileSystem} {p : Path} {t : Text} :
    fs.textOf p = .ok t ↔ fs.read p = .ok t.encode := by
  unfold textOf
  constructor
  · intro h
    rcases hr : fs.read p with e | octets
    · simp [hr] at h
    · rcases hd : Utf8.decode octets with m | t'
      · simp [hr, hd] at h
      · obtain rfl : t' = t := by simpa [hr, hd] using h
        rw [Utf8.encode_of_decode hd]
  · intro h
    simp only [h, Utf8.decode_encode]

/-- A path has a text if it leads to a file that holds the octets of that text. -/
theorem textOf_iff_leads {fs : FileSystem} {p : Path} {t : Text} :
    fs.textOf p = .ok t ↔ ∃ loc, fs.Leads p loc (.file t.encode) :=
  textOf_eq_ok.trans read_eq_ok

theorem isFile_of_textOf {fs : FileSystem} {p : Path} {t : Text} (h : fs.textOf p = .ok t) :
    fs.isFile p = .ok true := by
  obtain ⟨loc, hl⟩ := textOf_iff_leads.mp h
  exact isFile_iff.mpr ⟨loc, _, hl⟩

theorem Fills.textOf {fs fs' : FileSystem} {p : Path} {t : Text} {loc : Location}
    (h : fs.Fills p t.encode fs' loc) : fs'.textOf p = .ok t :=
  textOf_iff_leads.mpr ⟨loc, h.leads⟩

end FileSystem

namespace Sync

/-! ## Running jobs -/

namespace Job

variable {α β : Type}

theorem run_bind (job : Job α) (next : α → Job β) (p : Progress) :
    ExceptT.run (job >>= next) p
      = match ExceptT.run job p with
        | (.ok a, p) => ExceptT.run (next a) p
        | (.error s, p) => (.error s, p) := by
  have h : ExceptT.run (job >>= next) p
      = ExceptT.bindCont next (ExceptT.run job p).1 (ExceptT.run job p).2 := rfl
  rw [h]
  rcases ExceptT.run job p with ⟨_ | a, p'⟩
  · rfl
  · rfl

theorem run_ask (question : FileSystem → Except SystemError α) (p : Progress) :
    ExceptT.run (ask question) p
      = match question p.fs with
        | .ok a => (.ok a, p)
        | .error e => (.error (.trouble (.system e)), p) := by
  unfold ask
  rw [run_bind]
  change ExceptT.run (match question p.fs with
    | .ok a => pure a
    | .error e => stop (.trouble (.system e))) p = _
  rcases question p.fs with e | a
  · rfl
  · rfl

theorem run_record (path : Text) (outcome : Outcome) (detail : Text) (p : Progress) :
    ExceptT.run (record path outcome detail) p = (.ok (), p.record path outcome detail) := rfl

theorem run_makeDirectories (path : Path) (p : Progress) :
    ExceptT.run (makeDirectories path) p
      = ((p.fs.makeDirectories path).2.mapError fun e => .trouble (.system e),
          { p with fs := (p.fs.makeDirectories path).1 }) := by
  have hget : ExceptT.run (get : Job Progress) p = (.ok p, p) := rfl
  unfold makeDirectories
  rw [run_bind, hget]
  simp only
  rcases p.fs.makeDirectories path with ⟨fs, e | u⟩
  · rfl
  · rfl

theorem run_copyFile (source destination : Path) (p : Progress) :
    ExceptT.run (copyFile source destination) p
      = match p.fs.copy source destination with
        | .ok fs => (.ok (), { p with fs })
        | .error e => (.error (.trouble (.copy e)), p) := by
  unfold copyFile
  rw [run_bind]
  change ExceptT.run (match p.fs.copy source destination with
    | .ok fs => setFiles fs
    | .error e => stop (.trouble (.copy e))) p = _
  rcases p.fs.copy source destination with e | fs
  · rfl
  · rfl

/-- Writing a text fills the file with what octets the text has, and stops after that if it has none. -/
theorem run_writeText (path : Path) (t : RawText) (p : Progress) :
    ExceptT.run (writeText path t) p
      = match p.fs.write path t.written with
        | .ok fs =>
          match t.encode with
          | .ok _ => (.ok (), { p with fs })
          | .error u => (.error (.trouble (.notEncodable u)), { p with fs })
        | .error e => (.error (.trouble (.system e)), p) := by
  unfold writeText RawText.written
  rw [run_bind, run_ask, FileSystem.write]
  rcases p.fs.writeLocation path with e | loc
  · rfl
  rcases t.encode with u | octets
  · rfl
  · change (Except.ok (), { p with fs := (p.fs.put loc (.file [])).put loc (.file octets) }) = _
    rw [FileSystem.put_put]
    rfl

theorem run_writeText_ofText (path : Path) (t : Text) (p : Progress) :
    ExceptT.run (writeText path t) p
      = match p.fs.write path t.encode with
        | .ok fs => (.ok (), { p with fs })
        | .error e => (.error (.trouble (.system e)), p) := by
  rw [run_writeText, RawText.written_ofText, RawText.encode_ofText]

theorem run_readText (path : Path) (p : Progress) :
    ExceptT.run (readText path) p
      = match p.fs.textOf path with
        | .ok t => (.ok t, p)
        | .error t => (.error (.trouble t), p) := by
  unfold readText FileSystem.textOf
  rw [run_bind, run_ask]
  rcases p.fs.read path with e | octets
  · rfl
  · simp only
    rcases Utf8.decode octets with e | octets
    · rfl
    · rfl

end Job

/-! ## Copying -/

/-- How copying a file of the template ends. -/
inductive CopyEnding (s : Settings) (sourceName name : Text) (fs : FileSystem) :
    FileSystem → Action → Prop
  | unasked (e : SystemError) (h : fs.isFile (s.template.along sourceName) = .error e) :
      CopyEnding s sourceName name fs fs ⟨name, .failed, e.message⟩
  | noSource (h : fs.isFile (s.template.along sourceName) = .ok false) :
      CopyEnding s sourceName name fs fs
        ⟨name, .failed, missingRemark (s.template.along sourceName)⟩
  | unseen (e : SystemError) (hs : fs.isFile (s.template.along sourceName) = .ok true)
      (h : fs.exists? (s.target.along name) = .error e) :
      CopyEnding s sourceName name fs fs ⟨name, .failed, e.message⟩
  | kept (hs : fs.isFile (s.template.along sourceName) = .ok true)
      (h : fs.exists? (s.target.along name) = .ok true) (hf : s.force = false) :
      CopyEnding s sourceName name fs fs ⟨name, .skipped, keptRemark⟩
  | noDirectory (existed : Bool) (fs₁ : FileSystem) (e : SystemError)
      (hs : fs.isFile (s.template.along sourceName) = .ok true)
      (h : fs.exists? (s.target.along name) = .ok existed) (hf : existed = true → s.force = true)
      (hm : fs.makeDirectories (s.target.along name).parent = (fs₁, .error e)) :
      CopyEnding s sourceName name fs fs₁ ⟨name, .failed, e.message⟩
  | notCopied (existed : Bool) (fs₁ : FileSystem) (e : FileSystem.CopyError)
      (hs : fs.isFile (s.template.along sourceName) = .ok true)
      (h : fs.exists? (s.target.along name) = .ok existed) (hf : existed = true → s.force = true)
      (hm : fs.makeDirectories (s.target.along name).parent = (fs₁, .ok ()))
      (hc : fs₁.copy (s.template.along sourceName) (s.target.along name) = .error e) :
      CopyEnding s sourceName name fs fs₁ ⟨name, .failed, e.message⟩
  | copied (existed : Bool) (fs₁ fs₂ : FileSystem)
      (hs : fs.isFile (s.template.along sourceName) = .ok true)
      (h : fs.exists? (s.target.along name) = .ok existed) (hf : existed = true → s.force = true)
      (hm : fs.makeDirectories (s.target.along name).parent = (fs₁, .ok ()))
      (hc : fs₁.copy (s.template.along sourceName) (s.target.along name) = .ok fs₂) :
      CopyEnding s sourceName name fs fs₂ ⟨name, filledOutcome existed, []⟩

/-- **Copying a file of the template ends in one of these ways.** -/
theorem copyStep_ends (s : Settings) (sourceName name : Text) (p : Progress) :
    ∃ fs action, CopyEnding s sourceName name p.fs fs action
      ∧ (Step.mk name (copyStep s sourceName name)).run p = (⟨fs, p.report ++ [action]⟩, none) := by
  unfold Step.run copyStep
  simp only [Job.run_bind, Job.run_ask]
  rcases hs : p.fs.isFile (s.template.along sourceName) with e | _ | _
  · exact ⟨_, _, .unasked e hs, rfl⟩
  · exact ⟨_, _, .noSource hs, rfl⟩
  simp only [if_true, Job.run_bind, Job.run_ask]
  rcases he : p.fs.exists? (s.target.along name) with e | existed
  · exact ⟨_, _, .unseen e hs he, rfl⟩
  by_cases hf : (existed && !s.force) = true
  · simp only [Bool.and_eq_true, Bool.not_eq_true'] at hf
    obtain ⟨rfl, hf⟩ := hf
    refine ⟨_, _, .kept hs he hf, ?_⟩
    simp only [hf]
    rfl
  have hforce : existed = true → s.force = true := by
    intro h
    simpa [h] using hf
  simp only [if_neg hf, Job.run_bind, Job.run_makeDirectories]
  rcases hm : p.fs.makeDirectories (s.target.along name).parent with ⟨fs₁, e | _⟩
  · exact ⟨_, _, .noDirectory existed fs₁ e hs he hforce hm, rfl⟩
  simp only [Except.mapError, Job.run_copyFile]
  rcases hc : fs₁.copy (s.template.along sourceName) (s.target.along name) with e | fs₂
  · exact ⟨_, _, .notCopied existed fs₁ e hs he hforce hm hc, rfl⟩
  · exact ⟨_, _, .copied existed fs₁ fs₂ hs he hforce hm hc, rfl⟩

/-! ## The readme -/

/-- How pointing out the instructions in the readme ends. -/
inductive ReadmeEnding (s : Settings) (fs : FileSystem) : FileSystem → Action → Prop
  | unseen (e : SystemError) (h : fs.exists? (s.target.along readmeFile) = .error e) :
      ReadmeEnding s fs fs ⟨readmeFile, .failed, e.message⟩
  | notMade (e : SystemError) (h : fs.exists? (s.target.along readmeFile) = .ok false)
      (hw : fs.write (s.target.along readmeFile) (Text.encode (readmePointer ++ ['\n'])) = .error e) :
      ReadmeEnding s fs fs ⟨readmeFile, .failed, e.message⟩
  | made (fs' : FileSystem) (h : fs.exists? (s.target.along readmeFile) = .ok false)
      (hw : fs.write (s.target.along readmeFile) (Text.encode (readmePointer ++ ['\n'])) = .ok fs') :
      ReadmeEnding s fs fs' ⟨readmeFile, .created, []⟩
  | unread (t : Trouble) (h : fs.exists? (s.target.along readmeFile) = .ok true)
      (hr : fs.textOf (s.target.along readmeFile) = .error t) :
      ReadmeEnding s fs fs ⟨readmeFile, .failed, t.message⟩
  | linked (t : Text) (hr : fs.textOf (s.target.along readmeFile) = .ok t)
      (hp : Patch.prependOnce t readmePointer = none) :
      ReadmeEnding s fs fs ⟨readmeFile, .unchanged, "already links " ++ developmentDocs⟩
  | notWritten (t updated : Text) (e : SystemError)
      (hr : fs.textOf (s.target.along readmeFile) = .ok t)
      (hp : Patch.prependOnce t readmePointer = some updated)
      (hw : fs.write (s.target.along readmeFile) updated.encode = .error e) :
      ReadmeEnding s fs fs ⟨readmeFile, .failed, e.message⟩
  | patched (t updated : Text) (fs' : FileSystem)
      (hr : fs.textOf (s.target.along readmeFile) = .ok t)
      (hp : Patch.prependOnce t readmePointer = some updated)
      (hw : fs.write (s.target.along readmeFile) updated.encode = .ok fs') :
      ReadmeEnding s fs fs' ⟨readmeFile, .updated, "linked " ++ developmentDocs⟩

/-- **Pointing out the instructions in the readme ends in one of these ways.** -/
theorem readmeStep_ends (s : Settings) (p : Progress) :
    ∃ fs action, ReadmeEnding s p.fs fs action
      ∧ (Step.mk readmeFile (readmeStep s)).run p = (⟨fs, p.report ++ [action]⟩, none) := by
  unfold Step.run readmeStep
  simp only [Job.run_bind, Job.run_ask]
  rcases he : p.fs.exists? (s.target.along readmeFile) with e | _ | _
  · exact ⟨_, _, .unseen e he, rfl⟩
  · simp only [Bool.false_eq_true, if_false, Job.run_bind, Job.run_writeText_ofText]
    rcases hw : p.fs.write (s.target.along readmeFile) (Text.encode (readmePointer ++ ['\n']))
      with e | fs
    · exact ⟨_, _, .notMade e he hw, rfl⟩
    · exact ⟨_, _, .made fs he hw, rfl⟩
  · simp only [if_true, Job.run_bind, Job.run_readText]
    rcases hr : p.fs.textOf (s.target.along readmeFile) with t | t
    · exact ⟨_, _, .unread t he hr, rfl⟩
    rcases hp : Patch.prependOnce t readmePointer with _ | updated
    · exact ⟨_, _, .linked t hr hp, by simp only [hp]; rfl⟩
    simp only [hp, Job.run_bind, Job.run_writeText_ofText]
    rcases hw : p.fs.write (s.target.along readmeFile) updated.encode with e | fs
    · exact ⟨_, _, .notWritten t updated e hr hp hw, rfl⟩
    · exact ⟨_, _, .patched t updated fs hr hp hw, rfl⟩

/-! ## The root source file -/

/-- The name of the root source file, if the crate has one. -/
def rootSource (s : Settings) (fs : FileSystem) : Except SystemError (Option Text) :=
  match fs.isFile (s.target.along libraryRoot) with
  | .error e => .error e
  | .ok true => .ok (some libraryRoot)
  | .ok false =>
    match fs.isFile (s.target.along programRoot) with
    | .error e => .error e
    | .ok true => .ok (some programRoot)
    | .ok false => .ok none

theorem rootSource_congr {s : Settings} {fs fs' : FileSystem}
    (h : ∀ name ∈ [libraryRoot, programRoot],
      fs'.lookup .follow (s.target.along name) = fs.lookup .follow (s.target.along name)) :
    rootSource s fs' = rootSource s fs := by
  have hlib := FileSystem.leadsTo_congr (h libraryRoot (by simp)) Node.isFile
  have hprog := FileSystem.leadsTo_congr (h programRoot (by simp)) Node.isFile
  simp only [rootSource, FileSystem.isFile, hlib, hprog]

theorem rootSource_eq_some {s : Settings} {fs : FileSystem} {name : Text} :
    rootSource s fs = .ok (some name)
      ↔ name = libraryRoot ∧ fs.isFile (s.target.along libraryRoot) = .ok true
        ∨ name = programRoot ∧ fs.isFile (s.target.along libraryRoot) = .ok false
          ∧ fs.isFile (s.target.along programRoot) = .ok true := by
  unfold rootSource
  rcases fs.isFile (s.target.along libraryRoot) with e | _ | _
  · simp
  · rcases fs.isFile (s.target.along programRoot) with e | _ | _
    · simp
    · simp
    · simp [eq_comm]
  · simp [eq_comm]

theorem run_sourceRoot (s : Settings) (p : Progress) :
    ExceptT.run (sourceRoot? s) p
      = match rootSource s p.fs with
        | .ok name => (.ok name, p)
        | .error e => (.error (.trouble (.system e)), p) := by
  unfold sourceRoot? rootSource
  rw [Job.run_bind, Job.run_ask]
  rcases p.fs.isFile (s.target.along libraryRoot) with e | _ | _
  · rfl
  · simp only [Bool.false_eq_true, if_false, Job.run_bind, Job.run_ask]
    rcases p.fs.isFile (s.target.along programRoot) with e | _ | _
    · rfl
    · rfl
    · rfl
  · rfl

/-- How appending the header of the template to the root source file ends. -/
inductive HeaderEnding (s : Settings) (fs : FileSystem) : FileSystem → Action → Prop
  | unasked (e : SystemError) (h : rootSource s fs = .error e) :
      HeaderEnding s fs fs ⟨libraryRoot, .failed, e.message⟩
  | noRoot (h : rootSource s fs = .ok none) :
      HeaderEnding s fs fs ⟨libraryRoot, .skipped, "no crate root source file"⟩
  | unseen (name : Text) (e : SystemError) (h : rootSource s fs = .ok (some name))
      (hh : fs.isFile (s.template.along headerTemplate) = .error e) :
      HeaderEnding s fs fs ⟨libraryRoot, .failed, e.message⟩
  | noHeader (name : Text) (h : rootSource s fs = .ok (some name))
      (hh : fs.isFile (s.template.along headerTemplate) = .ok false) :
      HeaderEnding s fs fs ⟨name, .failed, missingRemark (s.template.along headerTemplate)⟩
  | unread (name : Text) (t : Trouble) (h : rootSource s fs = .ok (some name))
      (hr : fs.textOf (s.target.along name) = .error t) :
      HeaderEnding s fs fs ⟨libraryRoot, .failed, t.message⟩
  | headerUnread (name existing : Text) (t : Trouble) (h : rootSource s fs = .ok (some name))
      (hr : fs.textOf (s.target.along name) = .ok existing)
      (hh : fs.textOf (s.template.along headerTemplate) = .error t) :
      HeaderEnding s fs fs ⟨libraryRoot, .failed, t.message⟩
  | present (name existing header : Text) (h : rootSource s fs = .ok (some name))
      (hr : fs.textOf (s.target.along name) = .ok existing)
      (hh : fs.textOf (s.template.along headerTemplate) = .ok header)
      (hp : Patch.appendOnce existing header = none) :
      HeaderEnding s fs fs ⟨name, .unchanged, "header already present"⟩
  | notWritten (name existing header updated : Text) (e : SystemError)
      (h : rootSource s fs = .ok (some name))
      (hr : fs.textOf (s.target.along name) = .ok existing)
      (hh : fs.textOf (s.template.along headerTemplate) = .ok header)
      (hp : Patch.appendOnce existing header = some updated)
      (hw : fs.write (s.target.along name) updated.encode = .error e) :
      HeaderEnding s fs fs ⟨libraryRoot, .failed, e.message⟩
  | appended (name existing header updated : Text) (fs' : FileSystem)
      (h : rootSource s fs = .ok (some name))
      (hr : fs.textOf (s.target.along name) = .ok existing)
      (hh : fs.textOf (s.template.along headerTemplate) = .ok header)
      (hp : Patch.appendOnce existing header = some updated)
      (hw : fs.write (s.target.along name) updated.encode = .ok fs') :
      HeaderEnding s fs fs' ⟨name, .updated, "appended header"⟩

/-- **Appending the header ends in one of these ways.** -/
theorem headerStep_ends (s : Settings) (p : Progress) :
    ∃ fs action, HeaderEnding s p.fs fs action
      ∧ (Step.mk libraryRoot (headerStep s)).run p = (⟨fs, p.report ++ [action]⟩, none) := by
  unfold Step.run headerStep
  simp only [Job.run_bind, run_sourceRoot]
  rcases h : rootSource s p.fs with e | _ | name
  · exact ⟨_, _, .unasked e h, rfl⟩
  · exact ⟨_, _, .noRoot h, rfl⟩
  simp only [Job.run_bind, Job.run_ask]
  rcases hf : p.fs.isFile (s.template.along headerTemplate) with e | _ | _
  · exact ⟨_, _, .unseen name e h hf, rfl⟩
  · exact ⟨_, _, .noHeader name h hf, rfl⟩
  simp only [if_true, Job.run_bind, Job.run_readText]
  rcases hr : p.fs.textOf (s.target.along name) with t | existing
  · exact ⟨_, _, .unread name t h hr, rfl⟩
  dsimp only
  rcases hh : p.fs.textOf (s.template.along headerTemplate) with t | header
  · exact ⟨_, _, .headerUnread name existing t h hr hh, rfl⟩
  rcases hp : Patch.appendOnce existing header with _ | updated
  · exact ⟨_, _, .present name existing header h hr hh hp, by simp only [hp]; rfl⟩
  simp only [hp, Job.run_bind, Job.run_writeText_ofText]
  rcases hw : p.fs.write (s.target.along name) updated.encode with e | fs
  · exact ⟨_, _, .notWritten name existing header updated e h hr hh hp hw, rfl⟩
  · exact ⟨_, _, .appended name existing header updated fs h hr hh hp hw, rfl⟩

/-! ## The license -/

/-- How making the manifest agree with a license ends.  A trouble is recorded under the name of the
license, whose step it is a part of. -/
inductive ManifestEnding (s : Settings) (mode : LicenseMode) (fs : FileSystem) :
    FileSystem → List Action → Option Toml.Excess → Prop
  | unread (t : Trouble) (hr : fs.textOf (s.target.along manifestFile) = .error t) :
      ManifestEnding s mode fs fs [⟨licenseFile, .failed, t.message⟩] none
  | excess (manifest : Text) (e : Toml.Excess)
      (hr : fs.textOf (s.target.along manifestFile) = .ok manifest)
      (hm : Manifest.setLicense mode manifest = .error (.excess e)) :
      ManifestEnding s mode fs fs [] (some e)
  | refused (manifest : Text) (f : Manifest.Fault)
      (hr : fs.textOf (s.target.along manifestFile) = .ok manifest)
      (hm : Manifest.setLicense mode manifest = .error (.fault f)) :
      ManifestEnding s mode fs fs [⟨manifestFile, .skipped, f.message⟩] none
  | agreed (manifest : Text)
      (hr : fs.textOf (s.target.along manifestFile) = .ok manifest)
      (hm : Manifest.setLicense mode manifest = .ok none) :
      ManifestEnding s mode fs fs [⟨manifestFile, .unchanged, "license metadata already set"⟩] none
  | notWritten (manifest updated : Text) (e : SystemError)
      (hr : fs.textOf (s.target.along manifestFile) = .ok manifest)
      (hm : Manifest.setLicense mode manifest = .ok (some updated))
      (hw : fs.write (s.target.along manifestFile) updated.encode = .error e) :
      ManifestEnding s mode fs fs [⟨licenseFile, .failed, e.message⟩] none
  | edited (manifest updated : Text) (fs' : FileSystem)
      (hr : fs.textOf (s.target.along manifestFile) = .ok manifest)
      (hm : Manifest.setLicense mode manifest = .ok (some updated))
      (hw : fs.write (s.target.along manifestFile) updated.encode = .ok fs') :
      ManifestEnding s mode fs fs' [⟨manifestFile, .updated, "license metadata"⟩] none

/-- How writing the notice of the license ends; once it is written, the manifest decides.  A notice that
names an owner without octets leaves its file empty. -/
inductive LicenseEnding (s : Settings) (year : Int) (fs : FileSystem) :
    FileSystem → List Action → Option Toml.Excess → Prop
  | unlicensed (h : s.license = none) :
      LicenseEnding s year fs fs [⟨licenseFile, .skipped,
        "no owner name (use --name, --private or CRATEKIT_OWNER)"⟩] none
  | unseen (license : License) (e : SystemError) (h : s.license = some license)
      (he : fs.exists? (s.target.along licenseFile) = .error e) :
      LicenseEnding s year fs fs [⟨licenseFile, .failed, e.message⟩] none
  | kept (license : License) (h : s.license = some license)
      (he : fs.exists? (s.target.along licenseFile) = .ok true) (hf : s.force = false) :
      LicenseEnding s year fs fs [⟨licenseFile, .skipped, keptRemark⟩] none
  | notWritten (license : License) (existed : Bool) (e : SystemError)
      (h : s.license = some license)
      (he : fs.exists? (s.target.along licenseFile) = .ok existed)
      (hf : existed = true → s.force = true)
      (hw : fs.write (s.target.along licenseFile) (license.notice year).written = .error e) :
      LicenseEnding s year fs fs [⟨licenseFile, .failed, e.message⟩] none
  | emptied (license : License) (existed : Bool) (u : RawText.Unencodable) (fs₁ : FileSystem)
      (h : s.license = some license)
      (he : fs.exists? (s.target.along licenseFile) = .ok existed)
      (hf : existed = true → s.force = true) (hu : (license.notice year).encode = .error u)
      (hw : fs.write (s.target.along licenseFile) [] = .ok fs₁) :
      LicenseEnding s year fs fs₁ [⟨licenseFile, .failed, u.message⟩] none
  | written (license : License) (existed : Bool) (octets : Octets) (fs₁ fs₂ : FileSystem)
      (actions : List Action) (x : Option Toml.Excess) (h : s.license = some license)
      (he : fs.exists? (s.target.along licenseFile) = .ok existed)
      (hf : existed = true → s.force = true) (ho : (license.notice year).encode = .ok octets)
      (hw : fs.write (s.target.along licenseFile) octets = .ok fs₁)
      (hm : ManifestEnding s license.mode fs₁ fs₂ actions x) :
      LicenseEnding s year fs fs₂ (⟨licenseFile, filledOutcome existed,
        license.mode.name ++ " license for " ++ license.owner.characters⟩ :: actions) x

/-- **Making the manifest agree with a license ends in one of these ways.** -/
theorem manifestStep_ends (s : Settings) (mode : LicenseMode) (p : Progress) :
    ∃ fs actions x, ManifestEnding s mode p.fs fs actions x
      ∧ (Step.mk licenseFile (manifestStep s mode)).run p = (⟨fs, p.report ++ actions⟩, x) := by
  unfold Step.run manifestStep
  simp only [Job.run_bind, Job.run_readText]
  rcases hr : p.fs.textOf (s.target.along manifestFile) with t | manifest
  · exact ⟨_, _, _, .unread t hr, rfl⟩
  rcases hm : Manifest.setLicense mode manifest with (f | e) | _ | updated
  · exact ⟨_, _, _, .refused manifest f hr hm, by simp only [hm]; rfl⟩
  · exact ⟨_, _, _, .excess manifest e hr hm, by simp only [hm, List.append_nil]; rfl⟩
  · exact ⟨_, _, _, .agreed manifest hr hm, by simp only [hm]; rfl⟩
  simp only [hm, Job.run_bind, Job.run_writeText_ofText]
  rcases hw : p.fs.write (s.target.along manifestFile) updated.encode with e | fs
  · exact ⟨_, _, _, .notWritten manifest updated e hr hm hw, rfl⟩
  · exact ⟨_, _, _, .edited manifest updated fs hr hm hw, rfl⟩

/-- **Writing the notice of the license ends in one of these ways.** -/
theorem licenseStep_ends (s : Settings) (year : Int) (p : Progress) :
    ∃ fs actions x, LicenseEnding s year p.fs fs actions x
      ∧ (Step.mk licenseFile (licenseStep s year)).run p = (⟨fs, p.report ++ actions⟩, x) := by
  unfold Step.run licenseStep
  rcases h : s.license with _ | license
  · exact ⟨_, _, _, .unlicensed h, rfl⟩
  simp only [Job.run_bind, Job.run_ask]
  rcases he : p.fs.exists? (s.target.along licenseFile) with e | existed
  · exact ⟨_, _, _, .unseen license e h he, rfl⟩
  by_cases hf : (existed && !s.force) = true
  · simp only [Bool.and_eq_true, Bool.not_eq_true'] at hf
    obtain ⟨rfl, hf⟩ := hf
    refine ⟨_, _, _, .kept license h he hf, ?_⟩
    simp only [hf]
    rfl
  have hforce : existed = true → s.force = true := by
    intro h
    simpa [h] using hf
  simp only [if_neg hf, Job.run_bind, Job.run_writeText]
  rcases hw : p.fs.write (s.target.along licenseFile) (license.notice year).written with e | fs₁
  · exact ⟨_, _, _, .notWritten license existed e h he hforce hw, rfl⟩
  rcases ho : (license.notice year).encode with u | octets
  · rw [RawText.written_of_error ho] at hw
    exact ⟨_, _, _, .emptied license existed u fs₁ h he hforce ho hw, rfl⟩
  rw [RawText.written_of_ok ho] at hw
  simp only [Job.run_record]
  obtain ⟨fs₂, actions, x, hm, hrun⟩ := manifestStep_ends s license.mode
    ((⟨fs₁, p.report⟩ : Progress).record licenseFile (filledOutcome existed)
      (license.mode.name ++ " license for " ++ license.owner.characters))
  refine ⟨fs₂, _, x, .written license existed octets fs₁ fs₂ actions x h he hforce ho hw hm, ?_⟩
  simpa [Step.run, Progress.record] using hrun

end Sync

end CrateSync
