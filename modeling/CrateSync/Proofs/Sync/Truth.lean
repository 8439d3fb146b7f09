/-
# What a report says

Each action of a report is a statement on one file before and after the run (`Truthful`).  It is true of
the step that records it, and stays true of the whole run, since the other steps leave the file alone.

* `truthful_of_step` : what a step records is true of the files before and after the step;
* `report_tells_the_truth` : what a report says is true of the files before and after the run.
-/
import CrateSync.Proofs.Patch
import CrateSync.Proofs.Sync.Plain

namespace CrateSync.Sync

open FileSystem

/-- What an action that did not fail says of the files before and after a run. -/
inductive Truthful (s : Settings) (year : Int) (fs fs' : FileSystem) : Action → Prop
  /-- A file that was copied did not exist, and holds what its source holds. -/
  | created {sourceName name : Text} {content : Octets} (hc : (sourceName, name) ∈ copies)
      (before : fs.exists? (s.target.along name) = .ok false)
      (source : fs.read (s.template.along sourceName) = .ok content)
      (after : fs'.read (s.target.along name) = .ok content) (detail : Text) :
      Truthful s year fs fs' ⟨name, .created, detail⟩
  /-- A file that was copied with leave to overwrite existed, and holds what its source holds. -/
  | overwritten {sourceName name : Text} {content : Octets} (hc : (sourceName, name) ∈ copies)
      (before : fs.exists? (s.target.along name) = .ok true) (force : s.force = true)
      (source : fs.read (s.template.along sourceName) = .ok content)
      (after : fs'.read (s.target.along name) = .ok content) (detail : Text) :
      Truthful s year fs fs' ⟨name, .overwritten, detail⟩
  /-- The readme did not exist, and holds the pointer. -/
  | readmeCreated {t : Text} (before : fs.exists? (s.target.along readmeFile) = .ok false)
      (after : fs'.textOf (s.target.along readmeFile) = .ok t) (held : readmePointer <:+: t)
      (detail : Text) : Truthful s year fs fs' ⟨readmeFile, .created, detail⟩
  /-- The readme did not hold the pointer, and does now. -/
  | readmeUpdated {t t' : Text} (before : fs.textOf (s.target.along readmeFile) = .ok t)
      (missing : ¬readmePointer <:+: t)
      (after : fs'.textOf (s.target.along readmeFile) = .ok t') (held : readmePointer <:+: t')
      (detail : Text) : Truthful s year fs fs' ⟨readmeFile, .updated, detail⟩
  /-- The readme held the pointer, and is as it was. -/
  | readmeUnchanged {t : Text} (before : fs.textOf (s.target.along readmeFile) = .ok t)
      (held : readmePointer <:+: t)
      (same : fs'.status (s.target.along readmeFile) = fs.status (s.target.along readmeFile))
      (detail : Text) : Truthful s year fs fs' ⟨readmeFile, .unchanged, detail⟩
  /-- The root source file did not hold the header, and does now. -/
  | headerAppended {name header t t' : Text} (hn : name ∈ [libraryRoot, programRoot])
      (source : fs.textOf (s.template.along headerTemplate) = .ok header)
      (before : fs.textOf (s.target.along name) = .ok t) (missing : ¬header <:+: t)
      (after : fs'.textOf (s.target.along name) = .ok t') (held : header <:+: t')
      (detail : Text) : Truthful s year fs fs' ⟨name, .updated, detail⟩
  /-- The root source file held the header, unless that is empty, and is as it was. -/
  | headerPresent {name header t : Text} (hn : name ∈ [libraryRoot, programRoot])
      (source : fs.textOf (s.template.along headerTemplate) = .ok header)
      (before : fs.textOf (s.target.along name) = .ok t) (held : header = [] ∨ header <:+: t)
      (same : fs'.status (s.target.along name) = fs.status (s.target.along name))
      (detail : Text) : Truthful s year fs fs' ⟨name, .unchanged, detail⟩
  /-- The notice holds the words of the license; it existed only if there was leave to overwrite. -/
  | noticeWritten {license : License} {existed : Bool} {octets : Octets} (h : s.license = some license)
      (before : fs.exists? (s.target.along licenseFile) = .ok existed)
      (force : existed = true → s.force = true)
      (words : (license.notice year).encode = .ok octets)
      (after : fs'.read (s.target.along licenseFile) = .ok octets)
      (detail : Text) : Truthful s year fs fs' ⟨licenseFile, filledOutcome existed, detail⟩
  /-- The manifest holds what it held, edited to agree with the license. -/
  | manifestEdited {license : License} {t t' : Text} (h : s.license = some license)
      (before : fs.textOf (s.target.along manifestFile) = .ok t)
      (edit : Manifest.setLicense license.mode t = .ok (some t'))
      (after : fs'.textOf (s.target.along manifestFile) = .ok t') (detail : Text) :
      Truthful s year fs fs' ⟨manifestFile, .updated, detail⟩
  /-- The manifest agreed with the license, and is as it was. -/
  | manifestAgreed {license : License} {t : Text} (h : s.license = some license)
      (before : fs.textOf (s.target.along manifestFile) = .ok t)
      (edit : Manifest.setLicense license.mode t = .ok none)
      (same : fs'.status (s.target.along manifestFile) = fs.status (s.target.along manifestFile))
      (detail : Text) : Truthful s year fs fs' ⟨manifestFile, .unchanged, detail⟩
  /-- A file that was skipped is as it was. -/
  | skipped {name : Text} (hn : name ∈ crateFiles)
      (same : fs'.status (s.target.along name) = fs.status (s.target.along name))
      (detail : Text) : Truthful s year fs fs' ⟨name, .skipped, detail⟩

section

variable {s : Settings} {year : Int} {dir : Location} {fs fs₁ fs₂ fs' : FileSystem}

/-- **What is true of some files is true of files from before and after them** that agree with them on
the file of the action and on those of the template. -/
theorem Truthful.widen {action : Action} (h : Truthful s year fs₁ fs₂ action)
    (hbefore : fs₁.lookup .follow (s.target.along action.path)
      = fs.lookup .follow (s.target.along action.path))
    (hafter : fs'.lookup .follow (s.target.along action.path)
      = fs₂.lookup .follow (s.target.along action.path))
    (hsources : ∀ name ∈ templateFiles, ∀ content, fs₁.read (s.template.along name) = .ok content
      ↔ fs.read (s.template.along name) = .ok content) :
    Truthful s year fs fs' action := by
  have hexists : fs.exists? (s.target.along action.path) = fs₁.exists? (s.target.along action.path) :=
    (leadsTo_congr hbefore _).symm
  have htext := (textOf_congr hbefore).symm
  have hstatus := status_congr hbefore
  have hread' := read_congr hafter
  have htext' := textOf_congr hafter
  have hstatus' := status_congr hafter
  have hheader : ∀ {header : Text}, fs₁.textOf (s.template.along headerTemplate) = .ok header →
      fs.textOf (s.template.along headerTemplate) = .ok header := by
    intro header h
    exact textOf_eq_ok.mpr ((hsources headerTemplate (by decide) _).mp (textOf_eq_ok.mp h))
  -- what is said of before is carried to the front, what is said of after to the end
  cases h with
  | created hc before source after detail =>
    exact .created hc (hexists.trans before)
      ((hsources _ (mem_templateFiles_of_copies hc) _).mp source) (hread'.trans after) detail
  | overwritten hc before force source after detail =>
    exact .overwritten hc (hexists.trans before) force
      ((hsources _ (mem_templateFiles_of_copies hc) _).mp source) (hread'.trans after) detail
  | readmeCreated before after held detail =>
    exact .readmeCreated (hexists.trans before) (htext'.trans after) held detail
  | readmeUpdated before missing after held detail =>
    exact .readmeUpdated (htext.trans before) missing (htext'.trans after) held detail
  | readmeUnchanged before held same detail =>
    exact .readmeUnchanged (htext.trans before) held (hstatus'.trans (same.trans hstatus)) detail
  | headerAppended hn source before missing after held detail =>
    exact .headerAppended hn (hheader source) (htext.trans before) missing (htext'.trans after) held
      detail
  | headerPresent hn source before held same detail =>
    exact .headerPresent hn (hheader source) (htext.trans before) held
      (hstatus'.trans (same.trans hstatus)) detail
  | noticeWritten h before force words after detail =>
    exact .noticeWritten h (hexists.trans before) force words (hread'.trans after) detail
  | manifestEdited h before edit after detail =>
    exact .manifestEdited h (htext.trans before) edit (htext'.trans after) detail
  | manifestAgreed h before edit same detail =>
    exact .manifestAgreed h (htext.trans before) edit (hstatus'.trans (same.trans hstatus)) detail
  | skipped hn same detail => exact .skipped hn (hstatus'.trans (same.trans hstatus)) detail

/-! ## What a step says -/

theorem truthful_of_copy {c : Text × Text} {action : Action} (hc : c ∈ copies) (hp : Plain s fs)
    (hd : fs.Leads s.target dir .directory) (h : CopyEnding s c.1 c.2 fs fs' action)
    (ho : action.outcome ≠ .failed) :
    Truthful s year fs fs' action ∧ action.path = c.2 := by
  cases h with
  | unasked | noSource | unseen | noDirectory | notCopied => exact absurd rfl ho
  | kept hs h hf => exact ⟨.skipped (mem_crateFiles_of_copies hc) rfl _, rfl⟩
  | copied existed fs₁ _ hs h hf hm hcopy =>
    have hmade := made_of_copies hc hp.tree hd
    rw [hm] at hmade
    have hconfined := confined_of_made hc hp hd hs hmade
    obtain ⟨content, loc, hread, hfill⟩ := fills_of_copy hconfined.plain.tree hcopy
    have hsource := (hconfined.sources _ (mem_templateFiles_of_copies hc) content).mp hread
    have hafter := read_eq_ok.mpr ⟨loc, hfill.leads⟩
    cases existed with
    | false => exact ⟨.created hc h hsource hafter _, rfl⟩
    | true => exact ⟨.overwritten hc h (hf rfl) hsource hafter _, rfl⟩

theorem truthful_of_readme {action : Action} (hp : Plain s fs) (h : ReadmeEnding s fs fs' action)
    (ho : action.outcome ≠ .failed) :
    Truthful s year fs fs' action ∧ action.path = readmeFile := by
  cases h with
  | unseen | notMade | unread | notWritten => exact absurd rfl ho
  | made _ h hw =>
    obtain ⟨loc, hfill⟩ := fills_of_write hp.tree hw
    have hheld : readmePointer <:+: readmePointer ++ ['\n'] := (List.prefix_append _ _).isInfix
    exact ⟨.readmeCreated h hfill.textOf hheld _, rfl⟩
  | linked t hr hpatch =>
    exact ⟨.readmeUnchanged hr (Patch.prependOnce_eq_none.mp hpatch) rfl _, rfl⟩
  | patched t updated _ hr hpatch hw =>
    obtain ⟨loc, hfill⟩ := fills_of_write hp.tree hw
    have hheld := Patch.prependOnce_eq_none.mp (Patch.prependOnce_updated hpatch)
    exact ⟨.readmeUpdated hr (Patch.prependOnce_eq_some hpatch).1 hfill.textOf hheld _, rfl⟩

theorem truthful_of_header {action : Action} (hp : Plain s fs) (h : HeaderEnding s fs fs' action)
    (ho : action.outcome ≠ .failed) :
    Truthful s year fs fs' action ∧ action.path ∈ [libraryRoot, programRoot] := by
  cases h with
  | unasked | unseen | noHeader | unread | headerUnread | notWritten => exact absurd rfl ho
  | noRoot h => exact ⟨.skipped (by decide) rfl _, by simp⟩
  | present name existing header h hr hh hpatch =>
    exact ⟨.headerPresent (rootSource_mem h) hh hr (Patch.appendOnce_eq_none.mp hpatch) rfl _,
      rootSource_mem h⟩
  | appended name existing header updated _ h hr hh hpatch hw =>
    obtain ⟨loc, hfill⟩ := fills_of_write hp.tree hw
    obtain ⟨hne, hmissing, -⟩ := Patch.appendOnce_eq_some hpatch
    have hheld := (Patch.appendOnce_eq_none.mp (Patch.appendOnce_updated hpatch)).resolve_left hne
    exact ⟨.headerAppended (rootSource_mem h) hh hr hmissing hfill.textOf hheld _,
      rootSource_mem h⟩

theorem truthful_of_manifest {license : License} {actions : List Action} {x : Option Toml.Excess}
    (hlicense : s.license = some license) (hp : Plain s fs)
    (h : ManifestEnding s license.mode fs fs' actions x) {action : Action} (ha : action ∈ actions)
    (ho : action.outcome ≠ .failed) :
    Truthful s year fs fs' action ∧ action.path = manifestFile := by
  cases h with
  | unread t hr =>
    rw [List.mem_singleton.mp ha] at ho
    exact absurd rfl ho
  | excess => exact absurd ha (by simp)
  | notWritten manifest updated e hr hedit hw =>
    rw [List.mem_singleton.mp ha] at ho
    exact absurd rfl ho
  | refused manifest f hr hedit =>
    rw [List.mem_singleton.mp ha]
    exact ⟨.skipped (by decide) rfl _, rfl⟩
  | agreed manifest hr hedit =>
    rw [List.mem_singleton.mp ha]
    exact ⟨.manifestAgreed hlicense hr hedit rfl _, rfl⟩
  | edited manifest updated _ hr hedit hw =>
    obtain ⟨loc, hfill⟩ := fills_of_write hp.tree hw
    rw [List.mem_singleton.mp ha]
    exact ⟨.manifestEdited hlicense hr hedit hfill.textOf _, rfl⟩

theorem truthful_of_license {actions : List Action} {x : Option Toml.Excess} (hp : Plain s fs)
    (hd : fs.Leads s.target dir .directory) (h : LicenseEnding s year fs fs' actions x)
    {action : Action} (ha : action ∈ actions) (ho : action.outcome ≠ .failed) :
    Truthful s year fs fs' action ∧ action.path ∈ [licenseFile, manifestFile] := by
  cases h with
  | unlicensed h =>
    rw [List.mem_singleton.mp ha]
    exact ⟨.skipped (by decide) rfl _, by simp⟩
  | kept license h he hf =>
    rw [List.mem_singleton.mp ha]
    exact ⟨.skipped (by decide) rfl _, by simp⟩
  | unseen license e h he =>
    rw [List.mem_singleton.mp ha] at ho
    exact absurd rfl ho
  | notWritten license existed e h he hf hw =>
    rw [List.mem_singleton.mp ha] at ho
    exact absurd rfl ho
  | emptied license existed u _ h he hf hu hw =>
    rw [List.mem_singleton.mp ha] at ho
    exact absurd rfl ho
  | written license existed octets fs₁ _ actions _ hlicense he hf hwords hw hm =>
    obtain ⟨loc, hfill⟩ := fills_of_write hp.tree hw
    have hfirst := confined_of_fills hp hd (by decide) hfill
    -- the action on the notice was true before the manifest was edited, those on the manifest are
    -- true of the files with the notice
    rcases List.mem_cons.mp ha with rfl | ha
    · have hsecond := confined_of_manifest hfirst.plain hfirst.leads hm
      have hsame := hsecond.lookup_eq hfirst.plain hfirst.leads
        (isRelative_of_territories licenseFile (by decide)) (by decide) .follow
      have hafter := read_eq_ok.mpr ⟨loc, hfill.leads⟩
      exact ⟨.noticeWritten hlicense he hf hwords ((read_congr hsame).trans hafter) _, by simp⟩
    · obtain ⟨htrue, hpath⟩ := truthful_of_manifest hlicense hfirst.plain hm ha ho
      refine ⟨htrue.widen ?_ rfl hfirst.sources, by simp [hpath]⟩
      rw [hpath]
      exact hfirst.lookup_eq hp hd (isRelative_of_territories manifestFile (by decide)) (by decide)
        .follow

/-- **What a step records is true** of the files before and after it, and is about its territory. -/
theorem truthful_of_step {step : Step} {actions : List Action} {x : Option Toml.Excess}
    (hp : Plain s fs) (hd : fs.Leads s.target dir .directory)
    (h : StepEnding s year step fs fs' actions x) {action : Action} (ha : action ∈ actions)
    (ho : action.outcome ≠ .failed) :
    Truthful s year fs fs' action ∧ action.path ∈ territory step.name := by
  cases h with
  | copy hc h =>
    obtain rfl := List.mem_singleton.mp ha
    obtain ⟨htrue, hpath⟩ := truthful_of_copy hc hp hd h ho
    rw [hpath, territory_of_copies _ hc]
    exact ⟨htrue, by simp⟩
  | readme h =>
    obtain rfl := List.mem_singleton.mp ha
    obtain ⟨htrue, hpath⟩ := truthful_of_readme hp h ho
    have hterritory : readmeFile ∈ territory readmeFile := by decide
    exact ⟨htrue, hpath ▸ hterritory⟩
  | header h =>
    obtain rfl := List.mem_singleton.mp ha
    obtain ⟨htrue, hpath⟩ := truthful_of_header hp h ho
    have hterritory : [libraryRoot, programRoot] ⊆ territory libraryRoot := by decide
    exact ⟨htrue, hterritory hpath⟩
  | license h =>
    obtain ⟨htrue, hpath⟩ := truthful_of_license hp hd h ha ho
    have hterritory : [licenseFile, manifestFile] ⊆ territory licenseFile := by decide
    exact ⟨htrue, hterritory hpath⟩

/-! ## What a run says -/

/-- **What a report says is true** of the files before and after the run. -/
theorem report_tells_the_truth {report : Report} (hp : Plain s fs)
    (h : run s year fs = (fs', .ok report)) {action : Action} (ha : action ∈ report)
    (ho : action.outcome ≠ .failed) : Truthful s year fs fs' action := by
  have hends := run_cases s year fs
  rw [h] at hends
  cases hends with
  | reported _ _ hmanifest hchain =>
    obtain ⟨dir, hd⟩ := hasCrate_of_isFile (by decide) hmanifest
    obtain ⟨step, fs₁, fs₂, actions, hin, hu⟩ := undisturbed_of_action hp hd hchain ha
    obtain ⟨x, hstep⟩ := hu.ends
    obtain ⟨htrue, hpath⟩ := truthful_of_step hu.before.plain hu.before.leads hstep hin ho
    exact htrue.widen (hu.lookup_before hpath .follow) (hu.lookup_after hpath .follow)
      hu.before.sources

/-- The report on a crate whose formatting options were overwritten and whose readme was patched. -/
theorem report_on_overwritten_options :
    let fs : FileSystem := ⟨[(["crate"], .directory), (["crate", "Cargo.toml"], .file []),
      (["crate", "README.md"], .file [35]), (["crate", "rustfmt.toml"], .file [35]),
      (["template"], .directory), (["template", "rustfmt.toml"], .file [47])], []⟩
    let s : Settings := ⟨.ofText "/crate", .ofText "/template", true, none⟩
    Truthful s 2024 fs (run s 2024 fs).1 ⟨"rustfmt.toml", .overwritten, []⟩
      ∧ Truthful s 2024 fs (run s 2024 fs).1
        ⟨readmeFile, .updated, "linked " ++ developmentDocs⟩ := by
  intro fs s
  have hp : Plain s fs :=
    plain_of_entries (isTree_of_entries (by decide) (by decide)) (by decide) (by decide)
  have hreport : (run s 2024 fs).2.toOption.any (fun report =>
      ⟨"rustfmt.toml", .overwritten, []⟩ ∈ report
      ∧ ⟨readmeFile, .updated, "linked " ++ developmentDocs⟩ ∈ report) = true := by
    decide +kernel
  obtain ⟨fs', report, hrun, hactions⟩ := exists_report_of_any hreport
  obtain ⟨hoptions, hreadme⟩ := of_decide_eq_true hactions
  rw [hrun]
  exact ⟨report_tells_the_truth hp hrun hoptions (by decide),
    report_tells_the_truth hp hrun hreadme (by decide)⟩

end

end CrateSync.Sync
