/-
# The names in a report

Under which names the actions of a report stand.  A step has one name, and files under it what it did to
the one file that it is about.  Two steps are about more than one file: the header goes to the source
file that there is, and the manifest follows the notice of the license.  A trouble with a file cuts these
two short as well, and is then filed under the name of the step, whichever file it is a trouble with.

* `report_names_files` : the names in a report, and where they are not those of the files concerned;
* `troubles_are_filed_under_step_names` : a report can name a file twice, and another one not at all.
-/
import CrateSync.Proofs.License.Notice
import CrateSync.Proofs.Sync.Footprint

namespace CrateSync.Sync

/-! ## What the two steps are about -/

/-- The name of the source file that the header goes to: the root of the library if it is a file, else
the root of the program if that is one. -/
def headerTarget (s : Settings) (fs : FileSystem) : Text :=
  if fs.isFile (s.target.along libraryRoot) = .ok true then libraryRoot
  else if fs.isFile (s.target.along programRoot) = .ok true then programRoot
  else libraryRoot

/-- A run that comes with these files to the license writes the notice: a license is chosen, and the notice
can be written and may be. -/
def WritesNotice (s : Settings) (year : Int) (fs : FileSystem) : Prop :=
  ∃ license existed octets fs', s.license = some license
    ∧ fs.exists? (s.target.along licenseFile) = .ok existed ∧ (existed = true → s.force = true)
    ∧ (license.notice year).encode = .ok octets
    ∧ fs.write (s.target.along licenseFile) octets = .ok fs'

section

variable {s : Settings} {year : Int} {fs fs' : FileSystem}

theorem headerTarget_mem (s : Settings) (fs : FileSystem) :
    headerTarget s fs ∈ [libraryRoot, programRoot] := by
  unfold headerTarget
  split_ifs <;> simp

/-- The header goes to the root source file that the step finds. -/
theorem headerTarget_eq {name : Text} (h : rootSource s fs = .ok (some name)) :
    headerTarget s fs = name := by
  rcases rootSource_eq_some.mp h with ⟨rfl, hlib⟩ | ⟨rfl, hlib, hprog⟩
  · rw [headerTarget, if_pos hlib]
  · rw [headerTarget, if_neg (by simp [hlib]), if_pos hprog]

theorem headerTarget_of_none (h : rootSource s fs = .ok none) : headerTarget s fs = libraryRoot := by
  unfold rootSource at h
  unfold headerTarget
  rcases hlib : fs.isFile (s.target.along libraryRoot) with e | _ | _
  · simp [hlib] at h
  · rcases hprog : fs.isFile (s.target.along programRoot) with e | _ | _
    · simp [hlib, hprog] at h
    · simp
    · simp [hlib, hprog] at h
  · simp [hlib] at h

/-! ## The names of a step -/

/-- Appending the header is filed under the name of the source file that the header goes to, unless a
trouble with a file cuts it short. -/
theorem HeaderEnding.path_eq {action : Action} (h : HeaderEnding s fs fs' action) :
    action.path = headerTarget s fs ∨ ∃ t : Trouble, action = ⟨libraryRoot, .failed, t.message⟩ := by
  cases h with
  | unasked e | unseen name e | notWritten name existing header updated e =>
    exact Or.inr ⟨.system e, rfl⟩
  | unread name t | headerUnread name existing t => exact Or.inr ⟨t, rfl⟩
  | noRoot h => exact Or.inl (headerTarget_of_none h).symm
  | noHeader name h => exact Or.inl (headerTarget_eq h).symm
  | present name existing header h => exact Or.inl (headerTarget_eq h).symm
  | appended name existing header updated _ h => exact Or.inl (headerTarget_eq h).symm

theorem HeaderEnding.path_mem {action : Action} (h : HeaderEnding s fs fs' action) :
    action.path ∈ [libraryRoot, programRoot] := by
  rcases h.path_eq with hpath | ⟨t, rfl⟩
  · rw [hpath]
    exact headerTarget_mem s fs
  · simp

/-- Making the manifest agree with a license is filed under the name of the manifest, unless a trouble
with the manifest cuts it short. -/
theorem ManifestEnding.path_eq {mode : LicenseMode} {actions : List Action}
    (h : ManifestEnding s mode fs fs' actions none) :
    ∃ action, actions = [action]
      ∧ (action.path = manifestFile ∨ ∃ t : Trouble, action = ⟨licenseFile, .failed, t.message⟩) := by
  cases h with
  | unread t => exact ⟨_, rfl, Or.inr ⟨t, rfl⟩⟩
  | notWritten manifest updated e => exact ⟨_, rfl, Or.inr ⟨.system e, rfl⟩⟩
  | refused | agreed | edited => exact ⟨_, rfl, Or.inl rfl⟩

/-- Writing the notice is filed under its name, and one action on the manifest follows if it was
written. -/
theorem LicenseEnding.path_eq {actions : List Action}
    (h : LicenseEnding s year fs fs' actions none) :
    ∃ notice rest, actions = notice :: rest ∧ notice.path = licenseFile
      ∧ (rest = [] ∧ ¬WritesNotice s year fs
        ∨ WritesNotice s year fs ∧ ∃ action, rest = [action]
          ∧ (action.path = manifestFile
            ∨ ∃ t : Trouble, action = ⟨licenseFile, .failed, t.message⟩)) := by
  cases h with
  | unlicensed h =>
    refine ⟨_, [], rfl, rfl, Or.inl ⟨rfl, ?_⟩⟩
    rintro ⟨license, -, -, -, hlicense, -⟩
    simp [h] at hlicense
  | unseen license e h he =>
    refine ⟨_, [], rfl, rfl, Or.inl ⟨rfl, ?_⟩⟩
    rintro ⟨-, existed, -, -, -, hexists, -⟩
    simp [he] at hexists
  | kept license h he hf =>
    refine ⟨_, [], rfl, rfl, Or.inl ⟨rfl, ?_⟩⟩
    rintro ⟨-, existed, -, -, -, hexists, hforce, -⟩
    obtain rfl : true = existed := by simpa [he] using hexists
    simp [hf] at hforce
  | notWritten license existed e h he hf hw =>
    refine ⟨_, [], rfl, rfl, Or.inl ⟨rfl, ?_⟩⟩
    rintro ⟨license', -, octets, fs', hlicense, -, -, hwords, hwrite⟩
    obtain rfl : license = license' := by simpa [h] using hlicense
    rw [RawText.written_of_ok hwords, hwrite] at hw
    exact absurd hw (by simp)
  | emptied license existed u _ h he hf hu hw =>
    refine ⟨_, [], rfl, rfl, Or.inl ⟨rfl, ?_⟩⟩
    rintro ⟨license', -, octets, fs', hlicense, -, -, hwords, -⟩
    obtain rfl : license = license' := by simpa [h] using hlicense
    simp [hu] at hwords
  | written license existed octets fs₁ _ actions _ h he hf hwords hw hm =>
    exact ⟨_, _, rfl, rfl, Or.inr ⟨⟨license, existed, octets, fs₁, h, he, hf, hwords, hw⟩, hm.path_eq⟩⟩

/-- All other steps are filed under their own names. -/
theorem StepEnding.path_eq {step : Step} {actions : List Action} {x : Option Toml.Excess}
    (h : StepEnding s year step fs fs' actions x) (hheader : step.name ≠ libraryRoot)
    (hlicense : step.name ≠ licenseFile) : actions.map Action.path = [step.name] ∧ x = none := by
  cases h with
  | copy hc h => cases h <;> exact ⟨rfl, rfl⟩
  | readme h => cases h <;> exact ⟨rfl, rfl⟩
  | header => exact absurd rfl hheader
  | license => exact absurd rfl hlicense

theorem Chain.path_eq {some_ : List Step} {report : Report} {x : Option Toml.Excess}
    (h : Chain s year some_ fs fs' report x)
    (hn : ∀ step ∈ some_, step.name ≠ libraryRoot ∧ step.name ≠ licenseFile) :
    report.map Action.path = some_.map Step.name ∧ x = none := by
  induction h with
  | done => exact ⟨rfl, rfl⟩
  | next he _ ih =>
    obtain ⟨hheader, hlicense⟩ := hn _ (List.mem_cons_self)
    obtain ⟨hpaths, rfl⟩ := ih fun step hs => hn step (List.mem_cons_of_mem _ hs)
    rw [List.map_append, (he.path_eq hheader hlicense).1, hpaths]
    exact ⟨rfl, rfl⟩
  | stopped he =>
    obtain ⟨hheader, hlicense⟩ := hn _ (List.mem_cons_self)
    exact absurd (he.path_eq hheader hlicense).2 (by simp)

/-- A step files its actions under names of files of the crate. -/
theorem StepEnding.path_mem {step : Step} {actions : List Action}
    (h : StepEnding s year step fs fs' actions none) : ∀ action ∈ actions, action.path ∈ crateFiles := by
  cases h with
  | copy hc h =>
    have hmem := mem_crateFiles_of_copies hc
    cases h <;> simpa using hmem
  | readme h => cases h <;> simp <;> decide
  | header h =>
    intro a ha
    have hall : ∀ name ∈ [libraryRoot, programRoot], name ∈ crateFiles := by decide
    rw [List.mem_singleton.mp ha]
    exact hall _ h.path_mem
  | license h =>
    intro a ha
    have hlicense : licenseFile ∈ crateFiles := by decide
    have hmanifest : manifestFile ∈ crateFiles := by decide
    obtain ⟨notice, rest, rfl, hnotice, ⟨rfl, -⟩ | ⟨-, action, rfl, hlast⟩⟩ := h.path_eq
    · obtain rfl := List.mem_singleton.mp ha
      rwa [hnotice]
    · simp only [List.mem_cons, List.not_mem_nil, or_false] at ha
      rcases ha with rfl | rfl
      · rwa [hnotice]
      · rcases hlast with hpath | ⟨t, rfl⟩
        · rwa [hpath]
        · exact hlicense

theorem Chain.path_mem {some_ : List Step} {report : Report}
    (h : Chain s year some_ fs fs' report none) : ∀ action ∈ report, action.path ∈ crateFiles := by
  generalize hx : (none : Option Toml.Excess) = x at h
  induction h with
  | done => simp
  | next he _ ih =>
    intro action ha
    rcases List.mem_append.mp ha with ha | ha
    · exact he.path_mem action ha
    · exact ih hx action ha
  | stopped => exact absurd hx (by simp)

/-! ## The names of a run -/

/-- The files as a run finds them when it comes to the step with a name. -/
def filesAt (s : Settings) (year : Int) (fs : FileSystem) (name : Text) : FileSystem :=
  (runSteps ((steps s year).takeWhile fun step => step.name ≠ name) ⟨fs, []⟩).1.fs

/-- **A report in its parts**: the actions of the steps in front of the header, each filed under the name of
its step, the one on the header, and those on the license. -/
theorem report_parts {report : Report} (h : run s year fs = (fs', .ok report)) :
    ∃ front header actions, report = front ++ header :: actions
      ∧ front.map Action.path = configFiles ++ [workflowFile, developmentDocs, readmeFile]
      ∧ HeaderEnding s (filesAt s year fs libraryRoot) (filesAt s year fs licenseFile) header
      ∧ LicenseEnding s year (filesAt s year fs licenseFile) fs' actions none := by
  let before : List Step := (steps s year).takeWhile fun step => step.name ≠ libraryRoot
  have hsteps : steps s year
      = before ++ [⟨libraryRoot, headerStep s⟩, ⟨licenseFile, licenseStep s year⟩] := rfl
  have hnames : before.map Step.name = configFiles ++ [workflowFile, developmentDocs, readmeFile] :=
    rfl
  -- none of the steps in front of the header ends the run
  have hbefore : ∀ step ∈ before, step ∈ steps s year := fun step hs => by
    rw [hsteps]
    exact List.mem_append_left _ hs
  obtain ⟨fs₁, front, x, hchain, hfront⟩ := chain_runSteps hbefore ⟨fs, []⟩
  have hown : ∀ name ∈ before.map Step.name, name ≠ libraryRoot ∧ name ≠ licenseFile := by
    rw [hnames]
    decide
  obtain ⟨hpaths, rfl⟩ := hchain.path_eq fun step hs => hown _ (List.mem_map_of_mem hs)
  rw [hnames] at hpaths
  obtain ⟨fs₂, header, hheader, hrun₂⟩ := headerStep_ends s ⟨fs₁, front⟩
  obtain ⟨fs₃, actions, x, hlicense, hrun₃⟩ := licenseStep_ends s year ⟨fs₂, front ++ [header]⟩
  have hat₁ : filesAt s year fs libraryRoot = fs₁ := by
    change (runSteps before ⟨fs, []⟩).1.fs = fs₁
    rw [hfront]
  have hat₂ : filesAt s year fs licenseFile = fs₂ := by
    change (runSteps (before ++ [⟨libraryRoot, headerStep s⟩]) ⟨fs, []⟩).1.fs = fs₂
    rw [runSteps_append, hfront]
    simp only [List.nil_append, runSteps, hrun₂]
  have hrun : runSteps (steps s year) ⟨fs, []⟩ = (⟨fs₃, front ++ [header] ++ actions⟩, x) := by
    rw [hsteps, runSteps_append, hfront]
    simp only [List.nil_append, runSteps, hrun₂, hrun₃]
    cases x <;> rfl
  -- nor does the license, as there is a report
  unfold run at h
  rcases hm : fs.isFile (s.target.along manifestFile) with e | _ | _
  · simp [hm] at h
  · simp [hm] at h
  · cases x with
    | some e => simp [hm, perform, hrun] at h
    | none =>
      obtain ⟨rfl, rfl⟩ : fs₃ = fs' ∧ front ++ [header] ++ actions = report := by
        simpa [hm, perform, hrun] using h
      rw [hat₁, hat₂]
      exact ⟨front, header, actions, by simp, hpaths, hheader, hlicense⟩

/-- The names that a report has are all different, if there is at most one action on the manifest behind
the notice. -/
theorem nodup_names {source : Text} (hsource : source ∈ [libraryRoot, programRoot]) {last : List Text}
    (hlast : last ∈ [[], [manifestFile]]) :
    (configFiles ++ [workflowFile, developmentDocs, readmeFile]
      ++ source :: licenseFile :: last).Nodup := by
  have hall : ∀ source ∈ [libraryRoot, programRoot], ∀ last ∈ [[], [manifestFile]],
      (configFiles ++ [workflowFile, developmentDocs, readmeFile]
        ++ source :: licenseFile :: last).Nodup := by
    decide
  exact hall source hsource last hlast

/-- **The names in a report**, in order: those of the files that are copied and of the readme, that of the
source file that the header goes to, that of the notice and, if the notice was written, that of the
manifest.  A trouble that cuts the header or the manifest short is filed under the name of the step
instead: under that of the root of the library, even if the header goes to the root of the program, and
once more under that of the notice.  But for the latter no name stands twice. -/
theorem report_names_files {report : Report} (h : run s year fs = (fs', .ok report)) :
    ∃ front header notice rest, report = front ++ header :: notice :: rest
      ∧ front.map Action.path = configFiles ++ [workflowFile, developmentDocs, readmeFile]
      ∧ (header.path = headerTarget s (filesAt s year fs libraryRoot)
        ∨ ∃ t : Trouble, header = ⟨libraryRoot, .failed, t.message⟩)
      ∧ notice.path = licenseFile
      ∧ (rest = [] ∧ ¬WritesNotice s year (filesAt s year fs licenseFile)
        ∨ WritesNotice s year (filesAt s year fs licenseFile) ∧ ∃ action, rest = [action]
          ∧ (action.path = manifestFile
            ∨ ∃ t : Trouble, action = ⟨licenseFile, .failed, t.message⟩))
      ∧ ((∀ action ∈ rest, action.path ≠ licenseFile) → (report.map Action.path).Nodup) := by
  obtain ⟨front, header, actions, rfl, hpaths, hheader, hlicense⟩ := report_parts h
  obtain ⟨notice, rest, rfl, hnotice, hrest⟩ := hlicense.path_eq
  refine ⟨front, header, notice, rest, rfl, hpaths, hheader.path_eq, hnotice, hrest, fun hn => ?_⟩
  have hlast : rest.map Action.path ∈ [[], [manifestFile]] := by
    rcases hrest with ⟨rfl, -⟩ | ⟨-, action, rfl, hpath | ⟨t, rfl⟩⟩
    · simp
    · simp [hpath]
    · exact absurd rfl (hn _ (List.mem_singleton_self _))
  simpa [hpaths, hnotice] using nodup_names hheader.path_mem hlast

end

/-- A program whose header is missing from the template and whose license is chosen: each action names the
file that it is about. -/
theorem report_names_program_and_manifest :
    let fs : FileSystem := ⟨[(["crate"], .directory), (["crate", "Cargo.toml"], .file []),
      (["crate", "src"], .directory), (["crate", "src", "main.rs"], .file []),
      (["template"], .directory)], []⟩
    let s : Settings := ⟨.ofText "/crate", .ofText "/template", false, some ⟨.permissive, "A"⟩⟩
    ∃ fs' report, run s 2024 fs = (fs', .ok report) ∧ (report.map Action.path).Nodup
      ∧ ∃ header ∈ report, header.path = headerTarget s (filesAt s 2024 fs libraryRoot)
        ∧ header.path = programRoot := by
  intro fs s
  have hpaths : (run s 2024 fs).2.toOption.any (fun report => report.map Action.path
      = configFiles ++ [workflowFile, developmentDocs, readmeFile, programRoot, licenseFile,
        manifestFile]) = true := by
    decide +kernel
  obtain ⟨fs', report, hrun, hdecided⟩ := exists_report_of_any hpaths
  have hnames := of_decide_eq_true hdecided
  obtain ⟨front, header, notice, rest, hreport, hfront, hheader, hnotice, -, hdistinct⟩ :=
    report_names_files hrun
  rw [hreport, List.map_append, hfront, List.map_cons, List.map_cons, hnotice] at hnames
  obtain ⟨hpath, hrest⟩ : header.path = programRoot ∧ rest.map Action.path = [manifestFile] := by
    simpa using hnames
  refine ⟨fs', report, hrun, hdistinct fun action ha hlicense => ?_, header, by simp [hreport], ?_, hpath⟩
  · have hin := List.mem_map_of_mem (f := Action.path) ha
    rw [hrest, hlicense] at hin
    exact absurd hin (by decide)
  · refine hheader.resolve_right fun ⟨t, ht⟩ => ?_
    rw [ht] at hpath
    exact absurd hpath (by decide : libraryRoot ≠ programRoot)

/-- **A report can name a file twice, and another one not at all**: the header goes to a source file that is
not text, which is filed under the name of another, and the manifest is not text either, which is
filed under the name of the notice. -/
theorem troubles_are_filed_under_step_names :
    let fs : FileSystem := ⟨[(["crate"], .directory), (["crate", "Cargo.toml"], .file [255]),
      (["crate", "src"], .directory), (["crate", "src", "main.rs"], .file [255]),
      (["template"], .directory), (["template", "src"], .directory),
      (["template", "src", "header.rs"], .file [35])], []⟩
    let s : Settings := ⟨.ofText "/crate", .ofText "/template", false, some ⟨.permissive, "A"⟩⟩
    ∃ fs' report, run s 2024 fs = (fs', .ok report)
      ∧ headerTarget s (filesAt s 2024 fs libraryRoot) = programRoot
      ∧ programRoot ∉ report.map Action.path ∧ libraryRoot ∈ report.map Action.path
      ∧ WritesNotice s 2024 (filesAt s 2024 fs licenseFile)
      ∧ manifestFile ∉ report.map Action.path ∧ ¬(report.map Action.path).Nodup := by
  intro fs s
  have hpaths : (run s 2024 fs).2.toOption.any (fun report => report.map Action.path
      = configFiles ++ [workflowFile, developmentDocs, readmeFile, libraryRoot, licenseFile,
        licenseFile]) = true := by
    decide +kernel
  have hexists : (filesAt s 2024 fs licenseFile).exists? (s.target.along licenseFile) = .ok false := by
    decide +kernel
  have hplace : (filesAt s 2024 fs licenseFile).writeLocation (s.target.along licenseFile)
      = .ok ["crate", "LICENSE"] := by
    decide +kernel
  have hwrites : WritesNotice s 2024 (filesAt s 2024 fs licenseFile) := by
    obtain ⟨t, ht⟩ := License.exists_text_of_notice .permissive "A" 2024
    have hwords : (License.notice ⟨.permissive, "A"⟩ 2024).encode = .ok t.encode := by
      rw [ht, RawText.encode_ofText]
    have hwrite : (filesAt s 2024 fs licenseFile).write (s.target.along licenseFile) t.encode = .ok _ :=
      congrArg (Except.map _) hplace
    exact ⟨_, false, _, _, rfl, hexists, by simp, hwords, hwrite⟩
  obtain ⟨fs', report, hrun, hdecided⟩ := exists_report_of_any hpaths
  have hnames := of_decide_eq_true hdecided
  refine ⟨fs', report, hrun, by decide +kernel, ?_, ?_, hwrites, ?_, ?_⟩ <;> rw [hnames] <;> decide

end CrateSync.Sync
