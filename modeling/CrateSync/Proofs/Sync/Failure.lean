/-
# What fails

A step that records a failed action has left the files as they were, but for two ways to fail: the
notice of the license is written before the manifest is read, and stays if the manifest is not text; and its
file is opened before the notice is encoded, and stays empty if the owner has no octets.  A run that was
started gives a report, but for one way to end: the manifest goes beyond the bounds of reading.

* `failed_step_leaves_at_most_notice` : a failed step has changed nothing, or has left the notice or an
  empty file in its place;
* `started_run_reports` : a run gives a report, or the manifest that it read last went beyond the
  bounds.
-/
import CrateSync.Proofs.License.Notice
import CrateSync.Proofs.Sync.Plain

namespace CrateSync.Sync

open FileSystem

/-! ## Steps that fail -/

theorem filledOutcome_ne_failed (existed : Bool) : filledOutcome existed ≠ .failed := by
  cases existed <;> decide

/-- The notice was written, and the manifest, which is read after that, is a file that is not text. -/
structure NoticeLeft (s : Settings) (year : Int) (step : Step) (fs fs' : FileSystem) : Prop where
  name : step.name = licenseFile
  manifest : ∃ m, fs.textOf (s.target.along manifestFile) = .error (.notText m)
  written : ∃ license octets, s.license = some license ∧ (license.notice year).encode = .ok octets
    ∧ fs.write (s.target.along licenseFile) octets = .ok fs'

/-- The file of the notice was made or emptied, and the notice, which is encoded after that, has no octets
because the name of the owner has none. -/
structure NoticeEmptied (s : Settings) (step : Step) (fs fs' : FileSystem) : Prop where
  name : step.name = licenseFile
  owner : ∃ license n, s.license = some license ∧ .surrogate n ∈ license.owner
  emptied : fs.write (s.target.along licenseFile) [] = .ok fs'

section

variable {s : Settings} {year : Int} {fs fs' : FileSystem} {action : Action}

/-- A copy that fails has changed nothing: in a directory that had to be made for a file, the file can
be made. -/
theorem eq_of_failed_copy {c : Text × Text} (hc : c ∈ copies) (ht : fs.IsTree)
    (hcrate : HasCrate s fs) (h : CopyEnding s c.1 c.2 fs fs' action)
    (ho : action.outcome = .failed) : fs' = fs := by
  obtain ⟨dir, hd⟩ := hcrate
  have hmade := made_of_copies hc ht hd
  cases h with
  | unasked | noSource | unseen => rfl
  | kept => exact absurd ho (by simp)
  | copied existed => exact absurd ho (filledOutcome_ne_failed existed)
  | noDirectory existed _ e hs h hf hm =>
    rw [hm] at hmade
    cases hmade with
    | failed => rfl
  | notCopied existed _ e hs h hf hm hcopy =>
    rw [hm] at hmade
    cases hmade with
    | there => rfl
    | made _ loc hmakes =>
      -- nothing stands in a directory that is new, so that the copy cannot have failed
      obtain ⟨content, hread⟩ := exists_read_of_isFile (isFile_grows ht hmakes.grows hs)
      have hvacant := vacant_of_makes (mem_crateFiles_of_copies hc) ht hmakes
        (not_isOverlong_of_leadsTo h)
      obtain ⟨fs₂, hok⟩ := copy_of_vacant hread hvacant
      rw [hok] at hcopy
      exact absurd hcopy (by simp)

theorem eq_of_failed_readme (h : ReadmeEnding s fs fs' action) (ho : action.outcome = .failed) :
    fs' = fs := by
  cases h with
  | unseen | notMade | unread | notWritten => rfl
  | made | linked | patched => exact absurd ho (by simp)

theorem eq_of_failed_header (h : HeaderEnding s fs fs' action) (ho : action.outcome = .failed) :
    fs' = fs := by
  cases h with
  | unasked | unseen | noHeader | unread | headerUnread | notWritten => rfl
  | noRoot | present | appended => exact absurd ho (by simp)

/-- In a crate without links a manifest that is a file can be written, so that it is only for its text
that an edit fails. -/
theorem notText_of_failed_manifest {mode : LicenseMode} {dir : Location} {actions : List Action}
    {x : Option Toml.Excess} (hr : fs.Rooted s.target dir)
    (hm : fs.isFile (s.target.along manifestFile) = .ok true)
    (h : ManifestEnding s mode fs fs' actions x) (ha : action ∈ actions)
    (ho : action.outcome = .failed) :
    fs' = fs ∧ ∃ m, fs.textOf (s.target.along manifestFile) = .error (.notText m) := by
  obtain ⟨loc, content, hl⟩ := isFile_iff.mp hm
  have hread := read_eq_ok.mpr ⟨loc, hl⟩
  cases h with
  | unread t ht =>
    refine ⟨rfl, ?_⟩
    unfold textOf at ht ⊢
    rcases hdecode : Utf8.decode content with m | text
    · exact ⟨m, by simp only [hread, hdecode]⟩
    · simp [hread, hdecode] at ht
  | notWritten manifest updated e _ _ hw =>
    exact absurd hw (write_ne_error hr (by decide) hl)
  | excess => exact absurd ha (by simp)
  | refused | agreed | edited =>
    rw [List.mem_singleton.mp ha] at ho
    exact absurd ho (by simp)

/-- Writing the notice changes nothing on the way to the manifest. -/
theorem lookup_manifest_of_notice {dir loc : Location} {content : Octets}
    (hr : fs.Rooted s.target dir)
    (h : fs.Fills (s.target.along licenseFile) content fs' loc) (purpose : Purpose) :
    fs'.lookup purpose (s.target.along manifestFile)
      = fs.lookup purpose (s.target.along manifestFile) := by
  have htouched : Touched s [licenseFile] [licenseFile] [licenseFile] fs fs' :=
    (Touched.of_fills h).mono (by simp) (by simp) (by simp)
  have hr' := htouched.rooted hr
  exact lookup_eq_of_within hr hr' (htouched.within hr' (by decide)) (by decide) (by decide) purpose

/-- A license step that fails has changed nothing, or has left the notice or an empty file. -/
theorem noticeLeft_of_failed_license {dir : Location} {job : Job Unit} {actions : List Action}
    {x : Option Toml.Excess} (hr : fs.Rooted s.target dir)
    (hm : fs.isFile (s.target.along manifestFile) = .ok true)
    (h : LicenseEnding s year fs fs' actions x) (ha : action ∈ actions)
    (ho : action.outcome = .failed) :
    fs' = fs ∨ NoticeLeft s year ⟨licenseFile, job⟩ fs fs'
      ∨ NoticeEmptied s ⟨licenseFile, job⟩ fs fs' := by
  cases h with
  | unseen | notWritten => exact Or.inl rfl
  | unlicensed | kept =>
    rw [List.mem_singleton.mp ha] at ho
    exact absurd ho (by simp)
  | emptied license existed u _ hlicense he hf hu hw =>
    obtain ⟨n, hn⟩ := License.exists_surrogate_of_notice hu
    exact Or.inr (Or.inr ⟨rfl, ⟨license, n, hlicense, hn⟩, hw⟩)
  | written license existed octets fs₁ _ actions _ hlicense he hf hwords hw hmanifest =>
    obtain ⟨loc, hfill⟩ := fills_of_write hr.tree hw
    have hr₁ := (Touched.of_fills hfill).rooted hr
    have hsame := lookup_manifest_of_notice hr hfill .follow
    rcases List.mem_cons.mp ha with rfl | ha
    · exact absurd ho (filledOutcome_ne_failed existed)
    · obtain ⟨rfl, hmalformed⟩ := notText_of_failed_manifest hr₁
        ((leadsTo_congr hsame Node.isFile).trans hm) hmanifest ha ho
      rw [textOf_congr hsame] at hmalformed
      exact Or.inr (Or.inl ⟨rfl, hmalformed, license, octets, hlicense, hwords, hw⟩)

/-- **A step that fails leaves no trace, but for the notice** of the license if the manifest is not
text, or an empty file in its place if the owner has no octets: in a crate without links, whichever steps
were run before it, the files after a step that records a failed action are the files before it, or those
with the notice written, or those with its file made or emptied. -/
theorem failed_step_leaves_at_most_notice {earlier : List Step} {step : Step} {p p' : Progress}
    {x y : Option Toml.Excess} {actions : List Action} (ht : fs.IsTree)
    (hl : ∀ dir, fs.Leads s.target dir .directory → fs.LinkFree dir)
    (hm : fs.isFile (s.target.along manifestFile) = .ok true)
    (hearlier : ∀ other ∈ earlier, other ∈ steps s year) (hstep : step ∈ steps s year)
    (hp : runSteps earlier ⟨fs, []⟩ = (p, y)) (h : step.run p = (p', x))
    (hreport : p'.report = p.report ++ actions) (ha : action ∈ actions)
    (ho : action.outcome = .failed) :
    p'.fs = p.fs ∨ NoticeLeft s year step p.fs p'.fs ∨ NoticeEmptied s step p.fs p'.fs := by
  obtain ⟨dir, hd⟩ := hasCrate_of_isFile (by decide) hm
  obtain ⟨fs₁, report, x₁, hchain, hrun⟩ := chain_runSteps hearlier ⟨fs, []⟩
  obtain ⟨rfl, -⟩ := Prod.mk.inj (hp.symm.trans hrun)
  -- the crate is without links, and has a manifest, also where the step begins
  have htouched := touched_of_chain ht ⟨dir, hd⟩ hchain
  have hr := htouched.rooted ⟨ht, hd, hl dir hd⟩
  have hm₁ := isFile_grows ht htouched.grows hm
  obtain ⟨fs₂, actions₂, x₂, hends, hrun₂⟩ := step_ends hstep ⟨fs₁, report⟩
  obtain ⟨rfl, -⟩ := Prod.mk.inj (h.symm.trans hrun₂)
  obtain rfl : actions₂ = actions := List.append_cancel_left hreport
  cases hends with
  | copy hc hcopy =>
    rw [List.mem_singleton.mp ha] at ho
    exact Or.inl (eq_of_failed_copy hc hr.tree ⟨dir, hr.leads⟩ hcopy ho)
  | readme hreadme =>
    rw [List.mem_singleton.mp ha] at ho
    exact Or.inl (eq_of_failed_readme hreadme ho)
  | header hheader =>
    rw [List.mem_singleton.mp ha] at ho
    exact Or.inl (eq_of_failed_header hheader ho)
  | license hlicense => exact noticeLeft_of_failed_license hr hm₁ hlicense ha ho

end

/-- The readme of a crate is not text: its step fails, and leaves the files as they were. -/
theorem undecodable_readme_is_left :
    let fs : FileSystem := ⟨[(["crate"], .directory), (["crate", "Cargo.toml"], .file []),
      (["crate", "README.md"], .file [255]), (["template"], .directory)], []⟩
    let s : Settings := ⟨.ofText "/crate", .ofText "/template", true, none⟩
    let step : Step := ⟨readmeFile, readmeStep s⟩
    (step.run ⟨fs, []⟩).1.fs = fs := by
  intro fs s step
  have hreport : ((step.run ⟨fs, []⟩).1.report.any fun action => action.outcome = .failed) = true := by
    decide +kernel
  obtain ⟨action, ha, ho⟩ := List.any_eq_true.mp hreport
  have ht : fs.IsTree := isTree_of_entries (by decide) (by decide)
  have hlinks : ∀ dir, fs.Leads s.target dir .directory → fs.LinkFree dir :=
    fun dir _ => linkFree_of_entries (by decide) dir
  have hmanifest : fs.isFile (s.target.along manifestFile) = .ok true := by decide
  have hstep : step ∈ steps s 2024 := by
    rw [steps_eq]
    simp [step]
  have hsame := failed_step_leaves_at_most_notice ht hlinks hmanifest (List.forall_mem_nil _) hstep rfl
    rfl rfl ha (of_decide_eq_true ho)
  rcases hsame with hsame | hleft | hemptied
  · exact hsame
  · exact absurd hleft.name (by decide)
  · exact absurd hemptied.name (by decide)

/-- In a crate without links a step records that it failed, and leaves other files than it found. -/
structure FailsWithTrace (s : Settings) (year : Int) (step : Step) (fs : FileSystem) : Prop where
  plain : Plain s fs
  manifest : fs.isFile (s.target.along manifestFile) = .ok true
  member : step ∈ steps s year
  failed : (step.run ⟨fs, []⟩).1.report.hasFailed = true
  trace : (step.run ⟨fs, []⟩).1.fs ≠ fs

/-- **A license step that fails can leave a trace**, in one way or the other: the notice if the manifest is
not text, and an empty file if the name of the owner has a surrogate, though the manifest is in order. -/
theorem failed_license_step_leaves_trace :
    let crate (manifest : Octets) : FileSystem := ⟨[(["crate"], .directory),
      (["crate", "Cargo.toml"], .file manifest), (["template"], .directory)], []⟩
    let s (owner : RawText) : Settings :=
      ⟨.ofText "/crate", .ofText "/template", false, some ⟨.permissive, owner⟩⟩
    let step (owner : RawText) : Step := ⟨licenseFile, licenseStep (s owner) 2024⟩
    let surrogateOwner : RawText := [.char 'A', .surrogate 0x4FF]
    FailsWithTrace (s "A") 2024 (step "A") (crate [255])
      ∧ FailsWithTrace (s surrogateOwner) 2024 (step surrogateOwner) (crate (Text.encode "[package]"))
      ∧ ((step surrogateOwner).run ⟨crate (Text.encode "[package]"), []⟩).1.fs.node? ["crate", "LICENSE"]
        = some (.file []) := by
  intro crate s step surrogateOwner
  have hmember (owner : RawText) : step owner ∈ steps (s owner) 2024 := by
    rw [steps_eq]
    simp [step]
  have hnotice : ((step "A").run ⟨crate [255], []⟩).1.report.hasFailed = true
      ∧ ((step "A").run ⟨crate [255], []⟩).1.fs ≠ crate [255] := by
    decide +kernel
  have hempty : ((step surrogateOwner).run ⟨crate (Text.encode "[package]"), []⟩).1.report.hasFailed = true
      ∧ ((step surrogateOwner).run ⟨crate (Text.encode "[package]"), []⟩).1.fs
        ≠ crate (Text.encode "[package]") := by
    decide +kernel
  refine ⟨⟨plain_of_entries (isTree_of_entries (by decide) (by decide)) (by decide) (by decide),
      by decide, hmember _, hnotice.1, hnotice.2⟩,
    ⟨plain_of_entries (isTree_of_entries (by decide) (by decide)) (by decide) (by decide),
      by decide, hmember _, hempty.1, hempty.2⟩, by decide +kernel⟩

/-! ## Runs that give no report -/

/-- What stops a chain of steps is the manifest, which goes beyond the bounds of reading. -/
theorem Chain.manifest_of_stop {s : Settings} {year : Int} {some_ : List Step} {fs fs' : FileSystem}
    {report : Report} {e : Toml.Excess} (h : Chain s year some_ fs fs' report (some e)) :
    ∃ license t, s.license = some license ∧ fs'.textOf (s.target.along manifestFile) = .ok t
      ∧ Manifest.setLicense license.mode t = .error (.excess e) := by
  generalize hx : some e = x at h
  induction h with
  | done => exact absurd hx (by simp)
  | next _ _ ih => exact ih hx
  | stopped hends =>
    obtain rfl := Option.some.inj hx
    cases hends with
    | license hlicense =>
      cases hlicense with
      | written license existed octets fs₁ _ actions _ hlicense he hf hwords hw hmanifest =>
        cases hmanifest with
        | excess manifest _ hr hm => exact ⟨license, manifest, hlicense, hr, hm⟩

/-- **A run that was started gives a report**, unless the manifest that it finds when it has written the
notice goes beyond the bounds of reading. -/
theorem started_run_reports {s : Settings} {year : Int} {fs : FileSystem}
    (hm : fs.isFile (s.target.along manifestFile) = .ok true) :
    (∃ report, (run s year fs).2 = .ok report)
      ∨ ∃ license t e, s.license = some license
        ∧ (run s year fs).1.textOf (s.target.along manifestFile) = .ok t
        ∧ Manifest.setLicense license.mode t = .error (.excess e)
        ∧ (run s year fs).2 = .error (.excess e) := by
  have hends := run_cases s year fs
  generalize run s year fs = result at hends
  cases hends with
  | unseen e h => exact absurd (h.symm.trans hm) (by simp)
  | refused h => exact absurd (h.symm.trans hm) (by simp)
  | reported fs' report h hc => exact Or.inl ⟨report, rfl⟩
  | stopped fs' report e h hc =>
    obtain ⟨license, t, hlicense, hr, hexcess⟩ := hc.manifest_of_stop
    exact Or.inr ⟨license, t, e, hlicense, hr, hexcess, rfl⟩

/-- A run with a license, for a crate whose manifest is within the bounds, gives a report. -/
theorem run_with_license_reports :
    let fs : FileSystem := ⟨[(["crate"], .directory),
      (["crate", "Cargo.toml"], .file (Text.encode "[package]\nname = 'a'\n")),
      (["template"], .directory)], []⟩
    let s : Settings := ⟨.ofText "/crate", .ofText "/template", false, some ⟨.permissive, "A"⟩⟩
    ∃ report, (run s 2024 fs).2 = .ok report := by
  intro fs s
  have hm : fs.isFile (s.target.along manifestFile) = .ok true := by decide
  -- the manifest that the run leaves agrees with the license
  have hagreed : ((run s 2024 fs).1.textOf (s.target.along manifestFile)).toOption.map
      (Manifest.setLicense .permissive) = some (.ok none) := by
    decide +kernel
  rcases @started_run_reports s 2024 fs hm with hreport | ⟨license, t, e, hlicense, ht, hexcess, -⟩
  · exact hreport
  · obtain rfl := Option.some.inj hlicense
    rw [ht] at hagreed
    obtain hsame : Manifest.setLicense .permissive t = .ok none := Option.some.inj hagreed
    exact absurd (hsame.symm.trans hexcess) (by simp)

/-- **A run that was started can end without a report**: the manifest opens more lists inside each other
than can be read. -/
theorem nested_manifest_ends_run :
    let fs : FileSystem := ⟨[(["crate"], .directory),
      (["crate", "Cargo.toml"], .file ([97, 61] ++ List.replicate 1000 91)),
      (["template"], .directory)], []⟩
    let s : Settings := ⟨.ofText "/crate", .ofText "/template", false, some ⟨.permissive, "A"⟩⟩
    fs.isFile (s.target.along manifestFile) = .ok true
      ∧ ∀ report, (run s 2024 fs).2 ≠ .ok report := by
  intro fs s
  have hnone : (run s 2024 fs).2.toOption.isNone = true := by decide +kernel
  refine ⟨by decide +kernel, fun report hreport => ?_⟩
  rw [hreport] at hnone
  exact absurd hnone (by simp [Except.toOption])

end CrateSync.Sync
