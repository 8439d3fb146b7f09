/-
# Steps in any order

Where no link lies below the crate or below the template, a step finds behind other steps what it finds
when it is run by itself, and so records the same actions and leaves the same nodes in its territory.
The order of the steps of a run therefore does not matter.

* `run_behind` : what a step comes to behind other steps is what it comes to by itself;
* `steps_commute` : in any order the steps end with the same files, and each records the same actions.
-/
import CrateSync.Proofs.Sync.Failure
import CrateSync.Proofs.Sync.Lockstep

namespace CrateSync.Sync

open FileSystem

/-! ## Steps that are run by themselves -/

/-- The actions that a step records behind other steps, which begin with some files. -/
def recordedBehind (fs : FileSystem) (before : List Step) (step : Step) : Report :=
  let p := (runSteps before ⟨fs, []⟩).1
  (step.run p).1.report.drop p.report.length

/-- Nothing in the manifest goes beyond the bounds of reading when it is made to agree with the
license. -/
def ManifestInBounds (s : Settings) (fs : FileSystem) : Prop :=
  ∀ license t e, s.license = some license → fs.textOf (s.target.along manifestFile) = .ok t →
    Manifest.setLicense license.mode t ≠ .error (.excess e)

section

variable {s : Settings} {year : Int} {dir : Location} {fs fs' : FileSystem}

theorem recordedBehind_nil (fs : FileSystem) (step : Step) :
    recordedBehind fs [] step = (step.run ⟨fs, []⟩).1.report := by
  simp [recordedBehind, runSteps]

/-- No step stops a run if the manifest is within bounds. -/
theorem StepEnding.not_stopped {step : Step} {actions : List Action} {x : Option Toml.Excess}
    (hr : fs.Rooted s.target dir) (hb : ManifestInBounds s fs)
    (h : StepEnding s year step fs fs' actions x) : x = none := by
  cases h with
  | copy | readme | header => rfl
  | license h =>
    cases h with
    | unlicensed | unseen | kept | notWritten | emptied => rfl
    | written license existed octets fs₁ _ actions _ hlicense he hf hwords hw hmanifest =>
      cases hmanifest with
      | unread | refused | agreed | notWritten | edited => rfl
      | excess manifest e hread hedit =>
        -- the notice was written before, which does not change the manifest
        obtain ⟨loc, hfill⟩ := fills_of_write hr.tree hw
        rw [textOf_congr (lookup_manifest_of_notice hr hfill .follow)] at hread
        exact absurd hedit (hb license manifest e hlicense hread)

/-- A step by itself does not stop a run if the manifest is within bounds. -/
theorem run_step_not_stopped (hr : fs.Rooted s.target dir) (hb : ManifestInBounds s fs) {step : Step}
    (h : step ∈ steps s year) : (step.run ⟨fs, []⟩).2 = none := by
  obtain ⟨fs₁, actions, x, hends, hrun⟩ := step_ends h ⟨fs, []⟩
  rw [hrun]
  exact hends.not_stopped hr hb

/-! ## Steps behind other steps -/

/-- Steps of a synchronisation, each at most once. -/
structure Distinct (s : Settings) (year : Int) (some_ : List Step) : Prop where
  mem : ∀ step ∈ some_, step ∈ steps s year
  nodup : (some_.map Step.name).Nodup

theorem distinct_steps (s : Settings) (year : Int) : Distinct s year (steps s year) :=
  ⟨fun _ h => h, (names_of_steps s year).symm ▸ nodup_stepNames⟩

theorem Distinct.perm {some_ other : List Step} (h : Distinct s year some_) (hp : other.Perm some_) :
    Distinct s year other :=
  ⟨fun step hs => h.mem step (hp.subset hs), (hp.map Step.name).nodup_iff.mpr h.nodup⟩

theorem Distinct.left {some_ more : List Step} (h : Distinct s year (some_ ++ more)) :
    Distinct s year some_ := by
  refine ⟨fun step hs => h.mem step (List.mem_append_left _ hs), ?_⟩
  have hnodup := h.nodup
  rw [List.map_append, List.nodup_append] at hnodup
  exact hnodup.1

theorem name_mem_stepNames {step : Step} (h : step ∈ steps s year) : step.name ∈ stepNames :=
  names_of_steps s year ▸ List.mem_map_of_mem h

/-- Behind other steps a step finds its territory and the files of the template as they were. -/
theorem twin_behind (hp : Plain s fs) (hd : fs.Leads s.target dir .directory)
    {before after : List Step} {step : Step} (h : Distinct s year (before ++ step :: after))
    {p : Progress} {x : Option Toml.Excess} (hrun : runSteps before ⟨fs, []⟩ = (p, x)) :
    Twin s dir step.name fs p.fs := by
  obtain ⟨fs₁, report, x₁, hchain, hrun₁⟩ := chain_runSteps h.left.mem ⟨fs, []⟩
  obtain ⟨rfl, -⟩ := Prod.mk.inj (hrun.symm.trans hrun₁)
  have hstep := name_mem_stepNames (h.mem step (by simp))
  have hconfined := confined_of_chain (fun other ho hin => territory_subset_other h.nodup rfl
    (List.mem_append_left _ ho) hin) hchain hp hd
  exact ⟨hp, hconfined.plain, hd, hconfined.leads,
    fun name hn => hconfined.agree_of_other hstep hn, sameSources_of_chain hchain hp hd⟩

/-- **What a step comes to behind other steps is what it comes to by itself**: it records the same
actions, stops the run or not, and leaves the same nodes in its territory. -/
theorem run_behind (hp : Plain s fs) (hd : fs.Leads s.target dir .directory)
    {before after : List Step} {step : Step} (h : Distinct s year (before ++ step :: after))
    {p : Progress} {x : Option Toml.Excess} (hrun : runSteps before ⟨fs, []⟩ = (p, x)) :
    ∃ gs, Twin s dir step.name (step.run ⟨fs, []⟩).1.fs gs
      ∧ step.run p = (⟨gs, p.report ++ (step.run ⟨fs, []⟩).1.report⟩, (step.run ⟨fs, []⟩).2) := by
  have hlockstep := @lockstep_of_step s dir year step (h.mem step (by simp))
  obtain ⟨gs, gs', actions, x, halone, hbehind, htwin⟩ :=
    hlockstep.run_step (twin_behind hp hd h hrun)
  refine ⟨gs', ?_, ?_⟩
  · rw [halone]
    exact htwin
  · rw [halone]
    exact hbehind p.report

theorem recordedBehind_eq (hp : Plain s fs) (hd : fs.Leads s.target dir .directory)
    {before after : List Step} {step : Step} (h : Distinct s year (before ++ step :: after)) :
    recordedBehind fs before step = recordedBehind fs [] step := by
  obtain ⟨gs, -, hstep⟩ := run_behind hp hd h (Prod.eta _).symm
  rw [recordedBehind_nil, recordedBehind, hstep]
  exact List.drop_left

/-- Steps are all run if the manifest is within bounds, and the report lists what each records by
itself. -/
theorem runSteps_distinct (hp : Plain s fs) (hd : fs.Leads s.target dir .directory)
    (hb : ManifestInBounds s fs) {some_ : List Step} (h : Distinct s year some_) :
    ∃ gs, runSteps some_ ⟨fs, []⟩ = (⟨gs, some_.flatMap (recordedBehind fs [])⟩, none) := by
  induction some_ using List.reverseRecOn with
  | nil => exact ⟨fs, rfl⟩
  | append_singleton before step ih =>
    obtain ⟨gs, hrun⟩ := ih h.left
    obtain ⟨gs', -, hstep⟩ := run_behind hp hd h hrun
    rw [run_step_not_stopped (hp.rooted hd) hb (h.mem step (by simp))] at hstep
    refine ⟨gs', ?_⟩
    rw [runSteps_append, hrun]
    simp only [runSteps, hstep, List.flatMap_append, List.flatMap_singleton, recordedBehind_nil]

/-- What steps leave in the territory of one of them is what this one leaves by itself. -/
theorem node_of_distinct (hp : Plain s fs) (hd : fs.Leads s.target dir .directory)
    (hb : ManifestInBounds s fs) {some_ : List Step} (h : Distinct s year some_) {step : Step}
    (hs : step ∈ some_) {p : Progress} {x : Option Toml.Excess}
    (hrun : runSteps some_ ⟨fs, []⟩ = (p, x)) {name : Text} (hn : name ∈ territory step.name) :
    p.fs.node? (dir ++ namesOf name)
      = (step.run ⟨fs, []⟩).1.fs.node? (dir ++ namesOf name) := by
  obtain ⟨before, after, rfl⟩ := List.append_of_mem hs
  obtain ⟨gs, hbefore⟩ := runSteps_distinct hp hd hb h.left
  obtain ⟨gs', htwin, hstep⟩ := run_behind hp hd h hbefore
  have hname := name_mem_stepNames (h.mem step hs)
  rw [run_step_not_stopped (hp.rooted hd) hb (h.mem step hs)] at hstep
  rw [runSteps_append, hbefore] at hrun
  simp only [runSteps, hstep] at hrun
  -- the steps that are left do not touch the territory
  obtain ⟨fs₁, report, x₁, hchain, hafter⟩ := chain_runSteps
    (fun other ho => h.mem other (List.mem_append_right _ (List.mem_cons_of_mem _ ho))) ⟨gs', _⟩
  obtain ⟨rfl, -⟩ := Prod.mk.inj (hrun.symm.trans hafter)
  have hconfined := confined_of_chain (fun other ho hin => territory_subset_other h.nodup rfl
    (List.mem_append_right _ ho) hin) hchain htwin.plain' htwin.leads'
  have hne := (isRelative_of_territories name (subset_territories hname hn)).plain.ne_nil
  exact (hconfined.node_of_other hname hn).trans (htwin.agree name hn _ hne List.prefix_rfl)

/-- What lies in no territory is left alone by all steps. -/
theorem node_outside_territories (hp : Plain s fs) (hd : fs.Leads s.target dir .directory)
    {some_ : List Step} (h : Distinct s year some_) {p : Progress} {x : Option Toml.Excess}
    (hrun : runSteps some_ ⟨fs, []⟩ = (p, x)) {loc : Location}
    (ho : ∀ name ∈ territories, loc ≠ dir ++ namesOf name) : p.fs.node? loc = fs.node? loc := by
  obtain ⟨fs₁, report, x₁, hchain, hrun₁⟩ := chain_runSteps h.mem ⟨fs, []⟩
  obtain ⟨rfl, -⟩ := Prod.mk.inj (hrun.symm.trans hrun₁)
  have hconfined := confined_of_chain (fun step _ hin => subset_territories hin) hchain hp hd
  by_contra hchanged
  obtain ⟨name, hn, hloc⟩ := hconfined.within loc hchanged
  exact ho name hn hloc

/-! ## Any order -/

/-- **In any order the steps of a run come to the same**, if the manifest is within bounds: all are
run, the files are the same in the end, and each step records the same actions, which are those that it
records by itself. -/
theorem steps_commute {order : List Step} (hp : Plain s fs)
    (hm : fs.isFile (s.target.along manifestFile) = .ok true) (hb : ManifestInBounds s fs)
    (h : order.Perm (steps s year)) :
    ∃ gs gs', perform order fs = (gs, .ok (order.flatMap (recordedBehind fs [])))
      ∧ run s year fs = (gs', .ok ((steps s year).flatMap (recordedBehind fs [])))
      ∧ (∀ loc, gs.node? loc = gs'.node? loc)
      ∧ ∀ step before after before' after', order = before ++ step :: after →
        steps s year = before' ++ step :: after' →
        recordedBehind fs before step = recordedBehind fs before' step := by
  obtain ⟨dir, hd⟩ := hasCrate_of_isFile (by decide) hm
  have hsteps := distinct_steps s year
  have horder := hsteps.perm h
  obtain ⟨gs, hrun⟩ := runSteps_distinct hp hd hb horder
  obtain ⟨gs', hrun'⟩ := runSteps_distinct hp hd hb hsteps
  refine ⟨gs, gs', by rw [perform, hrun], by rw [run, hm]; simp only [perform, hrun'], fun loc => ?_,
    fun step before after before' after' heq heq' => ?_⟩
  · by_cases hloc : ∃ name ∈ territories, loc = dir ++ namesOf name
    · -- a place in the territory of a step holds what this one leaves there by itself
      obtain ⟨name, hname, rfl⟩ := hloc
      obtain ⟨other, hother, hn⟩ := List.mem_flatMap.mp hname
      rw [← names_of_steps s year] at hother
      obtain ⟨step, hstep, rfl⟩ := List.mem_map.mp hother
      exact (node_of_distinct hp hd hb horder (h.mem_iff.mpr hstep) hrun hn).trans
        (node_of_distinct hp hd hb hsteps hstep hrun' hn).symm
    · have hout : ∀ name ∈ territories, loc ≠ dir ++ namesOf name :=
        fun name hn heq => hloc ⟨name, hn, heq⟩
      exact (node_outside_territories hp hd horder hrun hout).trans
        (node_outside_territories hp hd hsteps hrun' hout).symm
  · exact (recordedBehind_eq hp hd (heq ▸ horder)).trans
      (recordedBehind_eq hp hd (heq' ▸ hsteps)).symm

/-- The steps in the opposite order, for a crate whose formatting options are overwritten and whose
manifest is edited: there is a report, and the manifest is the same in the end. -/
theorem steps_commute_in_reverse :
    let fs : FileSystem := ⟨[(["crate"], .directory),
      (["crate", "Cargo.toml"], .file (Text.encode "[package]\n")),
      (["crate", "rustfmt.toml"], .file [35]), (["template"], .directory),
      (["template", "rustfmt.toml"], .file [47])], []⟩
    let s : Settings := ⟨.ofText "/crate", .ofText "/template", true, some ⟨.permissive, "A"⟩⟩
    (∃ report, (perform (steps s 2024).reverse fs).2 = .ok report)
      ∧ (perform (steps s 2024).reverse fs).1.node? ["crate", "Cargo.toml"]
        = (run s 2024 fs).1.node? ["crate", "Cargo.toml"] := by
  intro fs s
  have hp : Plain s fs :=
    plain_of_entries (isTree_of_entries (by decide) (by decide)) (by decide) (by decide)
  have hm : fs.isFile (s.target.along manifestFile) = .ok true := by decide
  have hread : fs.textOf (s.target.along manifestFile) = .ok "[package]\n" := by decide +kernel
  have hedit : (Manifest.setLicense .permissive "[package]\n").toOption.isSome = true := by
    decide +kernel
  have hb : ManifestInBounds s fs := by
    rintro license t e hlicense ht hexcess
    obtain rfl := Option.some.inj hlicense
    obtain rfl := Except.ok.inj (hread.symm.trans ht)
    rw [hexcess] at hedit
    exact absurd hedit (by simp [Except.toOption])
  obtain ⟨gs, gs', hperform, hrun, hnodes, -⟩ :=
    steps_commute hp hm hb (List.reverse_perm (steps s 2024))
  rw [hperform, hrun]
  exact ⟨⟨_, rfl⟩, hnodes _⟩

end

end CrateSync.Sync
