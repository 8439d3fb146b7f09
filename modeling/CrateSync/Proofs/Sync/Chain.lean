/-
# Runs as chains of steps

A run is a chain of steps, each of which takes the files on from where the one before it left them,
up to the last step or one that goes beyond the bounds of reading.  What holds of each step and can
be chained holds of a run.

* `run_cases` : a run refuses a crate without a manifest, or is such a chain;
* `Chain.preserves` : what every step preserves, a run preserves.
-/
import CrateSync.Proofs.Sync.Ending

namespace CrateSync.Sync

/-! ## Steps -/

/-- The files that are copied: the name in the template and the name in the crate. -/
def copies : List (Text × Text) :=
  configFiles.map (fun name => (name, name))
    ++ [(workflowFile, workflowFile), (templateDocs, developmentDocs)]

/-- How a step of a synchronisation ends. -/
inductive StepEnding (s : Settings) (year : Int) :
    Step → FileSystem → FileSystem → List Action → Option Toml.Excess → Prop
  | copy {sourceName name : Text} {fs fs' : FileSystem} {action : Action}
      (hc : (sourceName, name) ∈ copies) (h : CopyEnding s sourceName name fs fs' action) :
      StepEnding s year ⟨name, copyStep s sourceName name⟩ fs fs' [action] none
  | readme {fs fs' : FileSystem} {action : Action} (h : ReadmeEnding s fs fs' action) :
      StepEnding s year ⟨readmeFile, readmeStep s⟩ fs fs' [action] none
  | header {fs fs' : FileSystem} {action : Action} (h : HeaderEnding s fs fs' action) :
      StepEnding s year ⟨libraryRoot, headerStep s⟩ fs fs' [action] none
  | license {fs fs' : FileSystem} {actions : List Action} {x : Option Toml.Excess}
      (h : LicenseEnding s year fs fs' actions x) :
      StepEnding s year ⟨licenseFile, licenseStep s year⟩ fs fs' actions x

/-! A step is known by its name, so that the name tells how it can end. -/

theorem copies_names : ∀ c ∈ copies, ∀ c' ∈ copies, c'.2 = c.2 → c' = c := by
  decide

theorem copies_other : ∀ c ∈ copies, c.2 ≠ readmeFile ∧ c.2 ≠ libraryRoot ∧ c.2 ≠ licenseFile := by
  decide

section

variable {s : Settings} {year : Int} {step : Step} {fs fs' : FileSystem} {actions : List Action}
  {x : Option Toml.Excess}

theorem StepEnding.copy_of_name (h : StepEnding s year step fs fs' actions x) {c : Text × Text}
    (hc : c ∈ copies) (hn : step.name = c.2) :
    ∃ action, CopyEnding s c.1 c.2 fs fs' action ∧ actions = [action] ∧ x = none := by
  cases h with
  | copy hc' h =>
    obtain rfl := copies_names c hc _ hc' hn
    exact ⟨_, h, rfl, rfl⟩
  | readme h => exact absurd hn.symm (copies_other c hc).1
  | header h => exact absurd hn.symm (copies_other c hc).2.1
  | license h => exact absurd hn.symm (copies_other c hc).2.2

theorem StepEnding.readme_of_name (h : StepEnding s year step fs fs' actions x)
    (hn : step.name = readmeFile) :
    ∃ action, ReadmeEnding s fs fs' action ∧ actions = [action] ∧ x = none := by
  cases h with
  | copy hc h => exact absurd hn (copies_other _ hc).1
  | readme h => exact ⟨_, h, rfl, rfl⟩
  | header h => exact absurd hn (by decide : libraryRoot ≠ readmeFile)
  | license h => exact absurd hn (by decide : licenseFile ≠ readmeFile)

theorem StepEnding.header_of_name (h : StepEnding s year step fs fs' actions x)
    (hn : step.name = libraryRoot) :
    ∃ action, HeaderEnding s fs fs' action ∧ actions = [action] ∧ x = none := by
  cases h with
  | copy hc h => exact absurd hn (copies_other _ hc).2.1
  | readme h => exact absurd hn (by decide : readmeFile ≠ libraryRoot)
  | header h => exact ⟨_, h, rfl, rfl⟩
  | license h => exact absurd hn (by decide : licenseFile ≠ libraryRoot)

theorem StepEnding.license_of_name (h : StepEnding s year step fs fs' actions x)
    (hn : step.name = licenseFile) : LicenseEnding s year fs fs' actions x := by
  cases h with
  | copy hc h => exact absurd hn (copies_other _ hc).2.2
  | readme h => exact absurd hn (by decide : readmeFile ≠ licenseFile)
  | header h => exact absurd hn (by decide : libraryRoot ≠ licenseFile)
  | license h => exact h

/-- Only the license, of which the manifest is read, can stop a run. -/
theorem StepEnding.name_of_stop {e : Toml.Excess}
    (h : StepEnding s year step fs fs' actions (some e)) : step.name = licenseFile := by
  cases h with
  | license h => rfl

end

/-- The steps are the copies, the two patches and the license. -/
theorem steps_eq (s : Settings) (year : Int) :
    steps s year = copies.map (fun c => ⟨c.2, copyStep s c.1 c.2⟩)
      ++ [⟨readmeFile, readmeStep s⟩, ⟨libraryRoot, headerStep s⟩,
        ⟨licenseFile, licenseStep s year⟩] := rfl

/-- Every step of a synchronisation ends, and adds its actions to the report. -/
theorem step_ends {s : Settings} {year : Int} {step : Step} (h : step ∈ steps s year)
    (p : Progress) :
    ∃ fs actions x, StepEnding s year step p.fs fs actions x
      ∧ step.run p = (⟨fs, p.report ++ actions⟩, x) := by
  rw [steps_eq, List.mem_append, List.mem_map] at h
  simp only [List.mem_cons, List.not_mem_nil, or_false] at h
  rcases h with ⟨⟨sourceName, name⟩, hc, rfl⟩ | rfl | rfl | rfl
  · obtain ⟨fs, action, he, hrun⟩ := copyStep_ends s sourceName name p
    exact ⟨fs, [action], none, .copy hc he, hrun⟩
  · obtain ⟨fs, action, he, hrun⟩ := readmeStep_ends s p
    exact ⟨fs, [action], none, .readme he, hrun⟩
  · obtain ⟨fs, action, he, hrun⟩ := headerStep_ends s p
    exact ⟨fs, [action], none, .header he, hrun⟩
  · obtain ⟨fs, actions, x, he, hrun⟩ := licenseStep_ends s year p
    exact ⟨fs, actions, x, .license he, hrun⟩

theorem runSteps_append (some_ more : List Step) (p : Progress) :
    runSteps (some_ ++ more) p
      = match runSteps some_ p with
        | (p, none) => runSteps more p
        | (p, some e) => (p, some e) := by
  induction some_ generalizing p with
  | nil => rfl
  | cons step rest ih =>
    rw [List.cons_append, runSteps, runSteps]
    rcases step.run p with ⟨p₁, _ | e⟩
    · exact ih p₁
    · rfl

/-! ## Chains -/

/-- Steps one after the other: each begins with the files that the one before it left. -/
inductive Chain (s : Settings) (year : Int) :
    List Step → FileSystem → FileSystem → Report → Option Toml.Excess → Prop
  | done (fs : FileSystem) : Chain s year [] fs fs [] none
  | next {step : Step} {rest : List Step} {fs fs₁ fs₂ : FileSystem} {actions : List Action}
      {report : Report} {x : Option Toml.Excess} (h : StepEnding s year step fs fs₁ actions none)
      (hrest : Chain s year rest fs₁ fs₂ report x) :
      Chain s year (step :: rest) fs fs₂ (actions ++ report) x
  | stopped {step : Step} {rest : List Step} {fs fs₁ : FileSystem} {actions : List Action}
      {e : Toml.Excess} (h : StepEnding s year step fs fs₁ actions (some e)) :
      Chain s year (step :: rest) fs fs₁ actions (some e)

/-- Running steps makes a chain of them. -/
theorem chain_runSteps {s : Settings} {year : Int} {some_ : List Step}
    (h : ∀ step ∈ some_, step ∈ steps s year) (p : Progress) :
    ∃ fs report x, Chain s year some_ p.fs fs report x
      ∧ runSteps some_ p = (⟨fs, p.report ++ report⟩, x) := by
  induction some_ generalizing p with
  | nil => exact ⟨p.fs, [], none, .done p.fs, by simp [runSteps]⟩
  | cons step rest ih =>
    obtain ⟨fs₁, actions, x, he, hrun⟩ := step_ends (h step (by simp)) p
    rw [runSteps, hrun]
    cases x with
    | some e => exact ⟨fs₁, actions, some e, .stopped he, rfl⟩
    | none =>
      obtain ⟨fs₂, report, x, hchain, hrest⟩ :=
        ih (fun step' hs => h step' (by simp [hs])) ⟨fs₁, p.report ++ actions⟩
      refine ⟨fs₂, actions ++ report, x, .next he hchain, ?_⟩
      rw [← List.append_assoc]
      exact hrest

/-- **What every step preserves, a run preserves**: a relation that can be chained holds between the
files before a run and after it. -/
theorem Chain.preserves {s : Settings} {year : Int} {R : FileSystem → FileSystem → Prop}
    (hrefl : ∀ fs, R fs fs) (htrans : ∀ fs₁ fs₂ fs₃, R fs₁ fs₂ → R fs₂ fs₃ → R fs₁ fs₃)
    {some_ : List Step}
    (hstep : ∀ step ∈ some_, ∀ fs fs' actions x, StepEnding s year step fs fs' actions x → R fs fs')
    {fs fs' : FileSystem} {report : Report} {x : Option Toml.Excess}
    (h : Chain s year some_ fs fs' report x) : R fs fs' := by
  induction h with
  | done fs => exact hrefl fs
  | next he _ ih =>
    refine htrans _ _ _ (hstep _ (by simp) _ _ _ _ he) (ih fun step hs => ?_)
    exact hstep step (by simp [hs])
  | stopped he => exact hstep _ (by simp) _ _ _ _ he

/-- How a run ends: it refuses a crate without a manifest and changes nothing, or it is a chain of all
steps, which gives the report unless it is stopped. -/
inductive RunEnding (s : Settings) (year : Int) (fs : FileSystem) :
    FileSystem × Except Failure Report → Prop
  | unseen (e : SystemError) (h : fs.isFile (s.target.along manifestFile) = .error e) :
      RunEnding s year fs (fs, .error (.system e))
  | refused (h : fs.isFile (s.target.along manifestFile) = .ok false) :
      RunEnding s year fs (fs, .error (.noManifest s.target))
  | reported (fs' : FileSystem) (report : Report)
      (h : fs.isFile (s.target.along manifestFile) = .ok true)
      (hc : Chain s year (steps s year) fs fs' report none) :
      RunEnding s year fs (fs', .ok report)
  | stopped (fs' : FileSystem) (report : Report) (e : Toml.Excess)
      (h : fs.isFile (s.target.along manifestFile) = .ok true)
      (hc : Chain s year (steps s year) fs fs' report (some e)) :
      RunEnding s year fs (fs', .error (.excess e))

/-- **A run ends in one of these ways.** -/
theorem run_cases (s : Settings) (year : Int) (fs : FileSystem) :
    RunEnding s year fs (run s year fs) := by
  unfold run
  rcases h : fs.isFile (s.target.along manifestFile) with e | _ | _
  · exact .unseen e h
  · exact .refused h
  · obtain ⟨fs', report, x, hc, hrun⟩ :=
      chain_runSteps (fun step (hs : step ∈ steps s year) => hs) ⟨fs, []⟩
    simp only [perform, hrun]
    cases x with
    | none => exact .reported fs' report h hc
    | some e => exact .stopped fs' report e h hc

/-- A run of whose report something can be decided gives a report. -/
theorem exists_report_of_any {s : Settings} {year : Int} {fs : FileSystem} {p : Report → Bool}
    (h : (run s year fs).2.toOption.any p = true) :
    ∃ fs' report, run s year fs = (fs', .ok report) ∧ p report = true := by
  rcases hrun : run s year fs with ⟨fs', e | report⟩
  · rw [hrun] at h
    exact absurd h Bool.false_ne_true
  · rw [hrun] at h
    exact ⟨fs', report, rfl, h⟩

end CrateSync.Sync
