/-
# Steps in lockstep

A step looks at its own territory and at the files of the template.  On two trees that agree there
(`Twin`) it is run in lockstep: it ends alike, records the same actions, and leaves trees that agree
there again (`Lockstep`).  This is shown job by job, with one rule for each operation.

* `Lockstep.bind` : jobs in lockstep, one after the other;
* `sameSources_of_confined` : what a step changes in its territory is no file of the template;
* `lockstep_of_step` : every step is run in lockstep on trees that agree on its territory.
-/
import CrateSync.Proofs.FileSystem.Alike
import CrateSync.Proofs.Sync.Plain

namespace CrateSync.Sync

open FileSystem

/-! ## Jobs that ask -/

theorem run_ask_eq {α : Type} (question : FileSystem → Except SystemError α) (p : Progress) :
    ExceptT.run (Job.ask question) p
      = ((question p.fs).mapError fun e => .trouble (.system e), p) := by
  rw [Job.run_ask]
  rcases question p.fs with e | a
  · rfl
  · rfl

theorem run_readText_eq (path : Path) (p : Progress) :
    ExceptT.run (Job.readText path) p = ((p.fs.textOf path).mapError .trouble, p) := by
  rw [Job.run_readText]
  rcases p.fs.textOf path with e | t
  · rfl
  · rfl

theorem run_sourceRoot_eq (s : Settings) (p : Progress) :
    ExceptT.run (sourceRoot? s) p
      = ((rootSource s p.fs).mapError fun e => .trouble (.system e), p) := by
  rw [run_sourceRoot]
  rcases rootSource s p.fs with e | name
  · rfl
  · rfl

/-! ## Jobs in lockstep -/

/-- A relation between the files of two runs. -/
abbrev Relation := FileSystem → FileSystem → Prop

/-- How the files are related when a job has ended: as `Q` says if it came to its end, else as `E`
says. -/
def Related {α : Type} (Q : α → Relation) (E : Relation) : Except Stop α → Relation
  | .ok a => Q a
  | .error _ => E

/-- On files that are related by `R` a job is run in lockstep: it ends alike, records the same actions,
and leaves related files. -/
def Lockstep {α : Type} (R : Relation) (job : Job α) (Q : α → Relation) (E : Relation) : Prop :=
  ∀ fs fs', R fs fs' → ∃ r gs gs' actions,
    (∀ report, ExceptT.run job ⟨fs, report⟩ = (r, ⟨gs, report ++ actions⟩))
      ∧ (∀ report, ExceptT.run job ⟨fs', report⟩ = (r, ⟨gs', report ++ actions⟩))
      ∧ Related Q E r gs gs'

namespace Lockstep

variable {α β : Type} {R E : Relation} {Q : α → Relation}

/-- **Jobs in lockstep, one after the other**, are a job in lockstep. -/
theorem bind {job : Job α} {next : α → Job β} {M : α → Relation} {Q : β → Relation}
    (h : Lockstep R job M E) (hnext : ∀ a, Lockstep (M a) (next a) Q E) :
    Lockstep R (job >>= next) Q E := by
  intro fs fs' hR
  obtain ⟨r, gs, gs', actions, hrun, hrun', hend⟩ := h fs fs' hR
  cases r with
  | error e =>
    -- the first job stops on both sides, so that the second is not run
    refine ⟨.error e, gs, gs', actions, fun report => ?_, fun report => ?_, hend⟩
    · rw [Job.run_bind, hrun]
    · rw [Job.run_bind, hrun']
  | ok a =>
    obtain ⟨r₂, hs, hs', actions₂, hrun₂, hrun₂', hend₂⟩ := hnext a gs gs' hend
    refine ⟨r₂, hs, hs', actions ++ actions₂, fun report => ?_, fun report => ?_, hend₂⟩
    · rw [Job.run_bind, hrun, ← List.append_assoc]
      exact hrun₂ _
    · rw [Job.run_bind, hrun', ← List.append_assoc]
      exact hrun₂' _

/-- A job that only asks is in lockstep if it gets the same answer. -/
theorem asks {ε : Type} {job : Job α} (answer : FileSystem → Except ε α) {reason : ε → Stop}
    (hrun : ∀ p, ExceptT.run job p = ((answer p.fs).mapError reason, p))
    (hsame : ∀ fs fs', R fs fs' → answer fs' = answer fs) (hE : ∀ fs fs', R fs fs' → E fs fs') :
    Lockstep R job (fun a fs fs' => R fs fs' ∧ answer fs = .ok a) E := by
  intro fs fs' hR
  refine ⟨(answer fs).mapError reason, fs, fs', [], fun report => ?_, fun report => ?_, ?_⟩
  · simp [hrun]
  · simp [hrun, hsame fs fs' hR]
  · rcases hanswer : answer fs with e | a
    · exact hE fs fs' hR
    · exact ⟨hR, hanswer⟩

/-- A job that changes the files, and ends as it does, is in lockstep if it changes them alike. -/
theorem updates {ε : Type} {job : Job Unit} {Q : Unit → Relation}
    (update : FileSystem → Except ε FileSystem) (reason : ε → Stop) (ending : Except Stop Unit)
    (hdone : ∀ p gs, update p.fs = .ok gs → ExceptT.run job p = (ending, { p with fs := gs }))
    (hfailed : ∀ p e, update p.fs = .error e → ExceptT.run job p = (.error (reason e), p))
    (hsame : ∀ fs fs', R fs fs' → Alike fs fs' (update fs) (update fs'))
    (hQ : ∀ fs fs' gs gs', R fs fs' → update fs = .ok gs → update fs' = .ok gs' →
      StillAgree fs fs' gs gs' → Related Q E ending gs gs') (hE : ∀ fs fs', R fs fs' → E fs fs') :
    Lockstep R job Q E := by
  intro fs fs' hR
  have halike := hsame fs fs' hR
  generalize hw : update fs = r at halike
  generalize hw' : update fs' = r' at halike
  cases halike with
  | failed e =>
    refine ⟨.error (reason e), fs, fs', [], fun report => ?_, fun report => ?_, hE fs fs' hR⟩
    · rw [hfailed _ e hw, List.append_nil]
    · rw [hfailed _ e hw', List.append_nil]
  | @done gs gs' ha =>
    refine ⟨ending, gs, gs', [], fun report => ?_, fun report => ?_, hQ fs fs' gs gs' hR hw hw' ha⟩
    · rw [hdone _ gs hw, List.append_nil]
    · rw [hdone _ gs' hw', List.append_nil]

/-- A job in lockstep is one on files that are related more closely, and leaves files that are related
less closely. -/
theorem weaken {job : Job α} {R' : Relation} {Q' : α → Relation} (h : Lockstep R job Q E)
    (hR : ∀ fs fs', R' fs fs' → R fs fs') (hQ : ∀ a fs fs', Q a fs fs' → Q' a fs fs') :
    Lockstep R' job Q' E := by
  intro fs fs' hR'
  obtain ⟨r, gs, gs', actions, hrun, hrun', hend⟩ := h fs fs' (hR fs fs' hR')
  refine ⟨r, gs, gs', actions, hrun, hrun', ?_⟩
  cases r with
  | error e => exact hend
  | ok a => exact hQ a gs gs' hend

theorem record {Q : Unit → Relation} (path : Text) (outcome : Outcome) (detail : Text)
    (hQ : ∀ fs fs', R fs fs' → Q () fs fs') : Lockstep R (Job.record path outcome detail) Q E := by
  intro fs fs' hR
  exact ⟨.ok (), fs, fs', [⟨path, outcome, detail⟩], fun _ => rfl, fun _ => rfl, hQ fs fs' hR⟩

theorem stop (reason : Stop) (hE : ∀ fs fs', R fs fs' → E fs fs') :
    Lockstep R (Job.stop reason : Job α) Q E := by
  intro fs fs' hR
  refine ⟨.error reason, fs, fs', [], fun report => ?_, fun report => ?_, hE fs fs' hR⟩
  · rw [List.append_nil]
    rfl
  · rw [List.append_nil]
    rfl

/-- What is known of the files may be used of the job. -/
theorem of_fact {job : Job α} (fact : Prop) (hfact : ∀ fs fs', R fs fs' → fact)
    (h : fact → Lockstep R job Q E) : Lockstep R job Q E :=
  fun fs fs' hR => h (hfact fs fs' hR) fs fs' hR

/-- A step whose job is in lockstep records the same actions, and stops the run for the same reason. -/
theorem run_step {step : Step} (h : Lockstep R step.job (fun _ => R) R) {fs fs' : FileSystem}
    (hR : R fs fs') : ∃ gs gs' actions x,
      (∀ report, step.run ⟨fs, report⟩ = (⟨gs, report ++ actions⟩, x))
        ∧ (∀ report, step.run ⟨fs', report⟩ = (⟨gs', report ++ actions⟩, x)) ∧ R gs gs' := by
  obtain ⟨r, gs, gs', actions, hrun, hrun', hend⟩ := h fs fs' hR
  unfold Step.run
  simp only [hrun, hrun']
  rcases r with (t | e) | _
  · refine ⟨gs, gs', actions ++ [⟨step.name, .failed, t.message⟩], none, ?_, ?_, hend⟩
    · simp [Progress.record]
    · simp [Progress.record]
  · exact ⟨gs, gs', actions, some e, fun _ => rfl, fun _ => rfl, hend⟩
  · exact ⟨gs, gs', actions, none, fun _ => rfl, fun _ => rfl, hend⟩

end Lockstep

/-! ## The files of the template -/

/-- The files of the template are the same: what is a file in one tree is one in the other, with the
same content. -/
structure SameSources (s : Settings) (fs fs' : FileSystem) : Prop where
  isFile : ∀ name ∈ templateFiles,
    fs'.isFile (s.template.along name) = fs.isFile (s.template.along name)
  lookup : ∀ name ∈ templateFiles, fs.isFile (s.template.along name) = .ok true →
    fs'.lookup .follow (s.template.along name) = fs.lookup .follow (s.template.along name)

section

variable {s : Settings} {year : Int} {dir : Location} {names : List Text}
  {fs fs₁ fs₂ fs₃ fs' : FileSystem}

theorem SameSources.refl (s : Settings) (fs : FileSystem) : SameSources s fs fs :=
  ⟨fun _ _ => rfl, fun _ _ _ => rfl⟩

theorem SameSources.symm (h : SameSources s fs fs') : SameSources s fs' fs := by
  refine ⟨fun name hn => (h.isFile name hn).symm, fun name hn hf => ?_⟩
  rw [h.isFile name hn] at hf
  exact (h.lookup name hn hf).symm

theorem SameSources.trans (h : SameSources s fs₁ fs₂) (h' : SameSources s fs₂ fs₃) :
    SameSources s fs₁ fs₃ := by
  refine ⟨fun name hn => (h'.isFile name hn).trans (h.isFile name hn), fun name hn hf => ?_⟩
  have hf₂ := (h.isFile name hn).trans hf
  exact (h'.lookup name hn hf₂).trans (h.lookup name hn hf)

/-- Without a template the look-up of its files fails. -/
theorem fault_of_no_template {source : Text} (hs : source ∈ templateFiles)
    (hno : ∀ other, ¬fs.Leads s.template other .directory) :
    ∃ e, fs.lookup .follow (s.template.along source) = .fault e := by
  have hsource := isRelative_of_templateFiles source hs
  rcases lookup_onward fs s.template with ⟨other, -, hl, -⟩ | ⟨-, hfault⟩
  · exact absurd hl (hno other)
  · rw [hsource.along_eq]
    exact hfault .follow _ hsource.plain.not_blank

/-- **What changes in territories is no file of the template**, if no new directory can be the
template. -/
theorem sameSources_of_confined (hp : Plain s fs) (hd : fs.Leads s.target dir .directory)
    (hn : names ⊆ territories) (h : Confined s dir names fs fs')
    (hk : TemplateStays s fs fs') : SameSources s fs fs' := by
  by_cases ht : ∃ other, fs.Leads s.template other .directory
  · obtain ⟨other, hl⟩ := ht
    have hl' := hl.directory hp.tree h.grows.keepsWays
    have hapart : other ≠ dir := fun heq => hp.apart dir hd (heq ▸ hl)
    have hlook := fun source hs => @lookup_source_of_within s dir names fs fs' other
      (hp.rooted_template hl) (h.plain.rooted_template hl') hapart h.within hn source hs .follow
    exact ⟨fun name hs => leadsTo_congr (hlook name hs) _, fun name hs _ => hlook name hs⟩
  · -- the template is missing still, and its files with it
    have hback := Or.resolve_left hk ht
    have hno := not_exists.mp ht
    have hno' := fun other hl => hno other (Leads.directory h.plain.tree hback hl)
    refine ⟨fun name hs => ?_, fun name hs hf => absurd (exists_template_of_isFile hs hf) ht⟩
    obtain ⟨e, he⟩ := fault_of_no_template hs hno
    obtain ⟨e', he'⟩ := fault_of_no_template hs hno'
    exact isFile_of_faults h.grows.keepsWays hback he he'

/-- Steps change no file of the template. -/
theorem sameSources_of_chain {some_ : List Step} {report : Report} {x : Option Toml.Excess}
    (h : Chain s year some_ fs fs' report x) (hp : Plain s fs)
    (hd : fs.Leads s.target dir .directory) : SameSources s fs fs' := by
  refine (h.preserves (R := fun fs fs' => Plain s fs → fs.Leads s.target dir .directory →
    Plain s fs' ∧ fs'.Leads s.target dir .directory ∧ SameSources s fs fs') ?_ ?_ ?_ hp hd).2.2
  · exact fun fs hp hd => ⟨hp, hd, .refl s fs⟩
  · intro fs₁ fs₂ fs₃ h h' hp hd
    obtain ⟨hp₂, hd₂, hsame⟩ := h hp hd
    obtain ⟨hp₃, hd₃, hsame'⟩ := h' hp₂ hd₂
    exact ⟨hp₃, hd₃, hsame.trans hsame'⟩
  · intro step _ fs fs' actions x hends hp hd
    have hconfined := confined_of_step hp hd hends
    exact ⟨hconfined.plain, hconfined.leads, sameSources_of_confined hp hd
      (subset_territories hends.name_mem) hconfined (templateStays_of_step hp.tree hends)⟩

end

/-! ## Trees that agree on a territory -/

/-- Two trees with the same crate directory agree on the territory of a step and on the files of the
template. -/
structure Twin (s : Settings) (dir : Location) (step : Text) (fs fs' : FileSystem) : Prop where
  plain : Plain s fs
  plain' : Plain s fs'
  leads : fs.Leads s.target dir .directory
  leads' : fs'.Leads s.target dir .directory
  agree : ∀ name ∈ territory step, fs.AgreeAlong fs' dir (namesOf name)
  sources : SameSources s fs fs'

section

variable {s : Settings} {dir : Location} {step name : Text} {fs fs' gs gs' : FileSystem}

/-- Twins look up in the territory what is there in both. -/
theorem Twin.lookup (h : Twin s dir step fs fs') (hstep : step ∈ stepNames)
    (hn : name ∈ territory step) (purpose : Purpose) :
    fs'.lookup purpose (s.target.along name) = fs.lookup purpose (s.target.along name) := by
  have hname := isRelative_of_territories name (subset_territories hstep hn)
  rw [hname.along_eq]
  exact (h.plain.rooted h.leads).lookup_congr (h.plain'.rooted h.leads') hname.plain (h.agree name hn)
    purpose

/-- Twins stay twins if territories change on both sides, and what agreed agrees still. -/
theorem Twin.change (h : Twin s dir step fs fs') {names : List Text} (hn : names ⊆ territories)
    (hc : Confined s dir names fs gs) (hc' : Confined s dir names fs' gs')
    (hk : TemplateStays s fs gs) (hk' : TemplateStays s fs' gs') (ha : StillAgree fs fs' gs gs') :
    Twin s dir step gs gs' := by
  have hsame := sameSources_of_confined h.plain h.leads hn hc hk
  have hsame' := sameSources_of_confined h.plain' h.leads' hn hc' hk'
  exact ⟨hc.plain, hc'.plain, hc.leads, hc'.leads, fun name hname => ha.along (h.agree name hname),
    hsame.symm.trans (h.sources.trans hsame')⟩

/-- Twins stay twins if the same file is filled on both sides. -/
theorem Twin.fill (h : Twin s dir step fs fs') (hstep : step ∈ stepNames)
    (hn : name ∈ territory step) {content content' : Octets} {loc loc' : Location}
    (hf : fs.Fills (s.target.along name) content gs loc)
    (hf' : fs'.Fills (s.target.along name) content' gs' loc') (ha : StillAgree fs fs' gs gs') :
    Twin s dir step gs gs' := by
  have hterritory := subset_territories hstep hn
  exact h.change (by simpa using hterritory) (confined_of_fills h.plain h.leads hterritory hf)
    (confined_of_fills h.plain' h.leads' hterritory hf') (Or.inr (Touched.of_fills hf).keepsWays)
    (Or.inr (Touched.of_fills hf').keepsWays) ha

/-! ## Operations on twins -/

theorem lockstep_isFile_source {source : Text} (hs : source ∈ templateFiles) {R : Relation}
    (hR : ∀ fs fs', R fs fs' → Twin s dir step fs fs') :
    Lockstep R (Job.ask fun fs => fs.isFile (s.template.along source))
      (fun b fs fs' => R fs fs' ∧ fs.isFile (s.template.along source) = .ok b) (Twin s dir step) :=
  .asks _ (run_ask_eq _) (fun fs fs' h => (hR fs fs' h).sources.isFile source hs) hR

theorem lockstep_exists (hstep : step ∈ stepNames) (hn : name ∈ territory step) {R : Relation}
    (hR : ∀ fs fs', R fs fs' → Twin s dir step fs fs') :
    Lockstep R (Job.ask fun fs => fs.exists? (s.target.along name)) (fun _ => R)
      (Twin s dir step) := by
  refine (Lockstep.asks _ (run_ask_eq _) (fun fs fs' h => ?_) hR).weaken (fun _ _ h => h)
    fun _ _ _ h => h.1
  exact leadsTo_congr ((hR fs fs' h).lookup hstep hn .follow) _

theorem lockstep_readText (hstep : step ∈ stepNames) (hn : name ∈ territory step) {R : Relation}
    (hR : ∀ fs fs', R fs fs' → Twin s dir step fs fs') :
    Lockstep R (Job.readText (s.target.along name)) (fun _ => R) (Twin s dir step) := by
  refine (Lockstep.asks (fun fs => fs.textOf _) (run_readText_eq _) (fun fs fs' h => ?_) hR).weaken
    (fun _ _ h => h) fun _ _ _ h => h.1
  exact textOf_congr ((hR fs fs' h).lookup hstep hn .follow)

/-- A file of the template that is one is read alike. -/
theorem lockstep_readText_source {source : Text} (hs : source ∈ templateFiles) {R : Relation}
    (hR : ∀ fs fs', R fs fs' → Twin s dir step fs fs')
    (hfile : ∀ fs fs', R fs fs' → fs.isFile (s.template.along source) = .ok true) :
    Lockstep R (Job.readText (s.template.along source)) (fun _ => Twin s dir step)
      (Twin s dir step) := by
  refine (Lockstep.asks (fun fs => fs.textOf _) (run_readText_eq _) (fun fs fs' h => ?_) hR).weaken
    (fun _ _ h => h) fun _ fs fs' h => hR fs fs' h.1
  exact textOf_congr ((hR fs fs' h).sources.lookup source hs (hfile fs fs' h))

/-- A text is written alike, also one that has no octets, which empties the file on both sides. -/
theorem lockstep_writeText (hstep : step ∈ stepNames) (hn : name ∈ territory step) (t : RawText) :
    Lockstep (Twin s dir step) (Job.writeText (s.target.along name) t) (fun _ => Twin s dir step)
      (Twin s dir step) := by
  let ending : Except Stop Unit :=
    (t.encode.map fun _ => ()).mapError fun u => .trouble (.notEncodable u)
  refine .updates (fun fs => fs.write (s.target.along name) t.written) (fun e => .trouble (.system e))
    ending (fun p gs hw => ?_) (fun p e hw => ?_)
    (fun fs fs' h => write_alike (h.lookup hstep hn .write) _) ?_ fun _ _ h => h
  · rw [Job.run_writeText, hw]
    simp only [ending]
    rcases t.encode with u | octets
    · rfl
    · rfl
  · rw [Job.run_writeText, hw]
  · intro fs fs' gs gs' h hw hw' ha
    obtain ⟨loc, hfill⟩ := fills_of_write h.plain.tree hw
    obtain ⟨loc', hfill'⟩ := fills_of_write h.plain'.tree hw'
    have htwin := h.fill hstep hn hfill hfill' ha
    rcases ending with reason | _
    · exact htwin
    · exact htwin

/-- Copying a file of the template that is one. -/
theorem lockstep_copyFile {c : Text × Text} (hc : c ∈ copies) :
    Lockstep (fun fs fs' => Twin s dir c.2 fs fs' ∧ fs.isFile (s.template.along c.1) = .ok true)
      (Job.copyFile (s.template.along c.1) (s.target.along c.2)) (fun _ => Twin s dir c.2)
      (Twin s dir c.2) := by
  have hstep := mem_stepNames_of_copies hc
  have hn := mem_territory_of_copies hc
  refine .updates (fun fs => fs.copy (s.template.along c.1) (s.target.along c.2))
    (fun e => .trouble (.copy e)) (.ok ()) (fun p gs hw => ?_) (fun p e hw => ?_) ?_ ?_
    fun _ _ h => h.1
  · rw [Job.run_copyFile, hw]
  · rw [Job.run_copyFile, hw]
  · rintro fs fs' ⟨h, hs⟩
    exact copy_alike (h.sources.lookup c.1 (mem_templateFiles_of_copies hc) hs) (h.lookup hstep hn)
  · rintro fs fs' gs gs' ⟨h, -⟩ hw hw' ha
    obtain ⟨content, loc, -, hfill⟩ := fills_of_copy h.plain.tree hw
    obtain ⟨content', loc', -, hfill'⟩ := fills_of_copy h.plain'.tree hw'
    exact h.fill hstep hn hfill hfill' ha

/-- Making the directories above a file that is copied, if there is one to be copied. -/
theorem lockstep_makeDirectories {c : Text × Text} (hc : c ∈ copies) :
    Lockstep (fun fs fs' => Twin s dir c.2 fs fs' ∧ fs.isFile (s.template.along c.1) = .ok true)
      (Job.makeDirectories (s.target.along c.2).parent)
      (fun _ fs fs' => Twin s dir c.2 fs fs' ∧ fs.isFile (s.template.along c.1) = .ok true)
      (Twin s dir c.2) := by
  rintro fs fs' ⟨h, hs⟩
  -- the source is a file on both sides, so that the template is none of the directories to be made
  have hsource := mem_templateFiles_of_copies hc
  have hs' := (h.sources.isFile c.1 hsource).trans hs
  have hrel := isRelative_of_crateFiles _ (mem_crateFiles_of_copies hc)
  have hself := mem_territory_of_copies hc
  have hmade := made_of_copies hc h.plain.tree h.leads
  have hmade' := made_of_copies hc h.plain'.tree h.leads'
  have halike := makeDirectories_alike (h.plain.rooted h.leads) (h.plain'.rooted h.leads')
    (fun part hp => hrel.plain.each part (List.dropLast_subset _ hp))
    (fun some_ hne hpre => h.agree c.2 hself some_ hne (hpre.trans (List.dropLast_prefix _)))
  rw [← hrel.parent_along] at halike
  rcases hm : fs.makeDirectories (s.target.along c.2).parent with ⟨gs, outcome⟩
  rcases hm' : fs'.makeDirectories (s.target.along c.2).parent with ⟨gs', outcome'⟩
  rw [hm] at hmade
  rw [hm'] at hmade'
  rw [hm, hm'] at halike
  obtain ⟨houtcome, ha⟩ := halike
  obtain rfl : outcome' = outcome := houtcome
  have hdirs := List.Subset.trans (directories_subset_territory hc)
    (subset_territories (mem_stepNames_of_copies hc))
  have hconfined := confined_of_made hc h.plain h.leads hs hmade
  have htemplate := exists_template_of_isFile hsource hs
  have htwin := h.change hdirs hconfined (confined_of_made hc h.plain' h.leads' hs' hmade')
    (Or.inl htemplate) (Or.inl (exists_template_of_isFile hsource hs')) ha
  refine ⟨outcome'.mapError fun e => .trouble (.system e), gs, gs', [], fun report => ?_,
    fun report => ?_, ?_⟩
  · simp [Job.run_makeDirectories, hm]
  · simp [Job.run_makeDirectories, hm']
  · cases outcome' with
    | error e => exact htwin
    | ok u =>
      have hsame := sameSources_of_confined h.plain h.leads hdirs hconfined (Or.inl htemplate)
      exact ⟨htwin, (hsame.isFile c.1 hsource).trans hs⟩

/-! ## Steps in lockstep -/

theorem lockstep_of_copy {c : Text × Text} (hc : c ∈ copies) :
    Lockstep (Twin s dir c.2) (copyStep s c.1 c.2) (fun _ => Twin s dir c.2) (Twin s dir c.2) := by
  have hstep := mem_stepNames_of_copies hc
  have hn := mem_territory_of_copies hc
  unfold copyStep
  refine .bind (lockstep_isFile_source (mem_templateFiles_of_copies hc) fun _ _ h => h)
    fun isThere => ?_
  cases isThere with
  | false => exact .record _ _ _ fun _ _ h => h.1
  | true =>
    refine .bind (lockstep_exists hstep hn fun _ _ h => h.1) fun existed => ?_
    split_ifs
    · exact .record _ _ _ fun _ _ h => h.1
    · refine .bind (lockstep_makeDirectories hc) fun _ => ?_
      exact .bind (lockstep_copyFile hc) fun _ => .record _ _ _ fun _ _ h => h

theorem lockstep_of_readme :
    Lockstep (Twin s dir readmeFile) (readmeStep s) (fun _ => Twin s dir readmeFile)
      (Twin s dir readmeFile) := by
  have hstep : readmeFile ∈ stepNames := by decide
  have hn : readmeFile ∈ territory readmeFile := by decide
  unfold readmeStep
  refine .bind (lockstep_exists hstep hn fun _ _ h => h) fun existed => ?_
  cases existed with
  | false => exact .bind (lockstep_writeText hstep hn _) fun _ => .record _ _ _ fun _ _ h => h
  | true =>
    refine .bind (lockstep_readText hstep hn fun _ _ h => h) fun t => ?_
    rcases Patch.prependOnce t readmePointer with _ | updated
    · exact .record _ _ _ fun _ _ h => h
    · exact .bind (lockstep_writeText hstep hn _) fun _ => .record _ _ _ fun _ _ h => h

theorem lockstep_of_header :
    Lockstep (Twin s dir libraryRoot) (headerStep s) (fun _ => Twin s dir libraryRoot)
      (Twin s dir libraryRoot) := by
  have hstep : libraryRoot ∈ stepNames := by decide
  have hsource : headerTemplate ∈ templateFiles := by decide
  have hroots : ∀ name ∈ [libraryRoot, programRoot], name ∈ territory libraryRoot := by decide
  unfold headerStep
  refine .bind (.asks (rootSource s) (run_sourceRoot_eq s) (fun fs fs' h =>
    rootSource_congr fun name hn => h.lookup hstep (hroots name hn) .follow) fun _ _ h => h)
    fun root => ?_
  rcases root with _ | name
  · exact .record _ _ _ fun _ _ h => h.1
  · refine .bind (lockstep_isFile_source hsource fun _ _ h => h.1) fun isThere => ?_
    cases isThere with
    | false => exact .record _ _ _ fun _ _ h => h.1.1
    | true =>
      -- which of the two files is the root is known of the trees only
      refine .of_fact (name ∈ [libraryRoot, programRoot]) (fun fs fs' h => rootSource_mem h.1.2)
        fun hname => ?_
      refine .bind (lockstep_readText hstep (hroots name hname) fun _ _ h => h.1.1) fun existing => ?_
      refine .bind (lockstep_readText_source hsource (fun _ _ h => h.1.1) fun _ _ h => h.2)
        fun header => ?_
      rcases Patch.appendOnce existing header with _ | updated
      · exact .record _ _ _ fun _ _ h => h
      · exact .bind (lockstep_writeText hstep (hroots name hname) _) fun _ =>
          .record _ _ _ fun _ _ h => h

theorem lockstep_of_manifest (mode : LicenseMode) :
    Lockstep (Twin s dir licenseFile) (manifestStep s mode) (fun _ => Twin s dir licenseFile)
      (Twin s dir licenseFile) := by
  have hstep : licenseFile ∈ stepNames := by decide
  have hn : manifestFile ∈ territory licenseFile := by decide
  unfold manifestStep
  refine .bind (lockstep_readText hstep hn fun _ _ h => h) fun manifest => ?_
  rcases Manifest.setLicense mode manifest with (f | e) | _ | updated
  · exact .record _ _ _ fun _ _ h => h
  · exact .stop _ fun _ _ h => h
  · exact .record _ _ _ fun _ _ h => h
  · exact .bind (lockstep_writeText hstep hn _) fun _ => .record _ _ _ fun _ _ h => h

theorem lockstep_of_license (year : Int) :
    Lockstep (Twin s dir licenseFile) (licenseStep s year) (fun _ => Twin s dir licenseFile)
      (Twin s dir licenseFile) := by
  have hstep : licenseFile ∈ stepNames := by decide
  have hn : licenseFile ∈ territory licenseFile := by decide
  unfold licenseStep
  rcases s.license with _ | license
  · exact .record _ _ _ fun _ _ h => h
  · refine .bind (lockstep_exists hstep hn fun _ _ h => h) fun existed => ?_
    split_ifs
    · exact .record _ _ _ fun _ _ h => h
    · refine .bind (lockstep_writeText hstep hn _) fun _ => ?_
      exact .bind (.record _ _ _ fun _ _ h => h) fun _ => lockstep_of_manifest license.mode

/-- **Every step is run in lockstep** on trees that agree on its territory. -/
theorem lockstep_of_step {year : Int} {step : Step} (h : step ∈ steps s year) :
    Lockstep (Twin s dir step.name) step.job (fun _ => Twin s dir step.name)
      (Twin s dir step.name) := by
  rw [steps_eq, List.mem_append, List.mem_map] at h
  simp only [List.mem_cons, List.not_mem_nil, or_false] at h
  rcases h with ⟨c, hc, rfl⟩ | rfl | rfl | rfl
  · exact lockstep_of_copy hc
  · exact lockstep_of_readme
  · exact lockstep_of_header
  · exact lockstep_of_license year

end

end CrateSync.Sync
