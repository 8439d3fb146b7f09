/-
# The second run

What a run leaves is settled: a file that it was to fill exists or cannot be made, and what it was to
patch holds the patch or cannot be read (`Settled`).  A step that begins with settled files and has no
leave to overwrite leaves them as they are (`Idle`), and so does a run.

* `settled_of_chain` : a run leaves settled files;
* `second_run_changes_nothing` : without leave to overwrite, the next run does nothing.
-/
import CrateSync.Proofs.Patch
import CrateSync.Proofs.Sync.Plain

namespace CrateSync.Sync

open FileSystem

/-! ## Settled files -/

/-- A file that is to be copied has no source, exists or cannot be looked up, or a file stands where a
directory above it would have to be. -/
def CopySettled (s : Settings) (dir : Location) (c : Text × Text) (fs : FileSystem) : Prop :=
  (∀ content, fs.read (s.template.along c.1) ≠ .ok content)
    ∨ fs.exists? (s.target.along c.2) ≠ .ok false
    ∨ ∃ some_ content, some_ ≠ [] ∧ some_ <+: (namesOf c.2).dropLast
      ∧ fs.node? (dir ++ some_) = some (.file content)

/-- The readme points to the instructions, if it can be read, and exists if it can be looked up. -/
def ReadmeSettled (s : Settings) (fs : FileSystem) : Prop :=
  fs.exists? (s.target.along readmeFile) ≠ .ok false
    ∧ ∀ t, fs.textOf (s.target.along readmeFile) = .ok t → Patch.prependOnce t readmePointer = none

/-- The root source file holds the header, if both can be read. -/
def HeaderSettled (s : Settings) (fs : FileSystem) : Prop :=
  ∀ name existing header, rootSource s fs = .ok (some name) →
    fs.textOf (s.target.along name) = .ok existing →
    fs.textOf (s.template.along headerTemplate) = .ok header →
    Patch.appendOnce existing header = none

/-- The notice exists or cannot be looked up, if there is to be one. -/
def LicenseSettled (s : Settings) (fs : FileSystem) : Prop :=
  s.license = none ∨ fs.exists? (s.target.along licenseFile) ≠ .ok false

/-! ## What a step leaves is settled -/

section

variable {s : Settings} {year : Int} {dir : Location} {fs fs' : FileSystem}

/-- A path that leads somewhere exists. -/
theorem exists_ne_false_of_leads {p : Path} {loc : Location} {node : Node}
    (h : fs.Leads p loc node) : fs.exists? p ≠ .ok false :=
  fun he => not_leads_of_exists he loc node h

/-- What exists or cannot be looked up stays so as the tree grows. -/
theorem exists_ne_false_of_grows {names : List Text} (hr : fs.Rooted s.target dir)
    (hr' : fs'.Rooted s.target dir) (hg : fs.Grows fs') (hn : ArePlain names)
    (h : fs.exists? (s.target.onward names) ≠ .ok false) :
    fs'.exists? (s.target.onward names) ≠ .ok false := by
  intro he
  obtain ⟨ho, hnone⟩ := hr'.missing_of_exists hn he
  rw [hr.exists_eq hn ho, hg.vacant hnone] at h
  exact h rfl

/-- A file that does not exist can be filled in the crate itself. -/
theorem write_of_missing {name : Text} (hp : Plain s fs) (hd : fs.Leads s.target dir .directory)
    (hname : IsRelative name) (hlast : (namesOf name).dropLast = [])
    (h : fs.exists? (s.target.along name) = .ok false) (content : Octets) :
    ∃ fs', fs.write (s.target.along name) content = .ok fs' := by
  rw [hname.along_eq] at h ⊢
  obtain ⟨ho, hnone⟩ := (hp.rooted hd).missing_of_exists hname.plain h
  refine (hp.rooted hd).write_of_missing hname.plain ho hnone ?_ content
  rw [hlast, List.append_nil]
  exact hd.stands hp.tree

/-- A file that does not exist can be copied, once the directories above it are made. -/
theorem copy_of_missing {c : Text × Text} (hc : c ∈ copies) {fs₁ : FileSystem} (hp : Plain s fs)
    (hd : fs.Leads s.target dir .directory)
    (hs : fs.isFile (s.template.along c.1) = .ok true)
    (h : fs.exists? (s.target.along c.2) = .ok false)
    (hm : fs.makeDirectories (s.target.along c.2).parent = (fs₁, .ok ())) :
    ∃ fs₂, fs₁.copy (s.template.along c.1) (s.target.along c.2) = .ok fs₂ := by
  have hin := mem_crateFiles_of_copies hc
  have hrel := isRelative_of_crateFiles _ hin
  have hmade := made_of_copies hc hp.tree hd
  rw [hm] at hmade
  have hconfined := confined_of_made hc hp hd hs hmade
  have hrooted := hconfined.plain.rooted hconfined.leads
  have habsent := not_leads_of_made hin hp.tree hmade h
  -- the source is read as before, and the destination is no node yet
  obtain ⟨loc, content, hl⟩ := isFile_iff.mp hs
  have hread := (hconfined.sources _ (mem_templateFiles_of_copies hc) content).mpr
    (read_eq_ok.mpr ⟨loc, hl⟩)
  have hother : fs₁.sameNode (s.template.along c.1) (s.target.along c.2) = false := by
    unfold sameNode
    rcases hstatus : fs₁.status (s.target.along c.2) with e | ⟨place, node⟩
    · rcases fs₁.status (s.template.along c.1) with _ | _ <;> rfl
    · exact absurd (status_eq_ok.mp hstatus) (habsent place node)
  obtain ⟨fs₂, hw⟩ : ∃ fs₂, fs₁.write (s.target.along c.2) content = .ok fs₂ := by
    rw [hrel.along_eq] at h habsent ⊢
    obtain ⟨ho, -⟩ := (hp.rooted hd).missing_of_exists hrel.plain h
    have hnone : fs₁.node? (dir ++ namesOf c.2) = none := by
      rcases hnode : fs₁.node? (dir ++ namesOf c.2) with _ | node
      · rfl
      · exact absurd ((hrooted.leads_iff hrel.plain).mpr ⟨ho, rfl, hnode⟩) (habsent _ node)
    exact hrooted.write_of_missing hrel.plain ho hnone (node_of_made hc hrooted hmade) content
  refine ⟨fs₂, ?_⟩
  rw [copy, hother, if_neg (by simp), hread]
  simp only [hw]

/-- What copying a file leaves is settled. -/
theorem settled_of_copy {c : Text × Text} {action : Action} (hc : c ∈ copies) (hp : Plain s fs)
    (hd : fs.Leads s.target dir .directory) (h : CopyEnding s c.1 c.2 fs fs' action) :
    CopySettled s dir c fs' := by
  have hrel := isRelative_of_crateFiles _ (mem_crateFiles_of_copies hc)
  have hmade := made_of_copies hc hp.tree hd
  have hunread : fs.isFile (s.template.along c.1) ≠ .ok true →
      ∀ content, fs.read (s.template.along c.1) ≠ .ok content := by
    intro hs content hr
    obtain ⟨loc, hl⟩ := read_eq_ok.mp hr
    exact hs (isFile_iff.mpr ⟨loc, content, hl⟩)
  cases h with
  | unasked e hs => exact Or.inl (hunread (by simp [hs]))
  | noSource hs => exact Or.inl (hunread (by simp [hs]))
  | unseen e hs h => exact Or.inr (Or.inl (by simp [h]))
  | kept hs h hf => exact Or.inr (Or.inl (by simp [h]))
  | noDirectory existed _ e hs h hf hm =>
    rw [hm] at hmade
    cases hmade with
    | failed e some_ hne hpre hobs =>
      -- what is in the way is a file
      have hlast : (namesOf c.2).dropLast <+: namesOf c.2 := List.dropLast_prefix _
      have hplain := hrel.plain.shorter hne (hpre.trans hlast)
      have ho := not_isOverlong_of_leadsTo h
      rw [hrel.along_eq] at ho
      obtain ⟨fewer, content, hfewer, hin, hnode⟩ := (hp.rooted hd).file_of_obstructed hplain
        (hrel.plain.not_isOverlong (hpre.trans hlast) ho) hobs
      exact Or.inr (Or.inr ⟨fewer, content, hfewer, hin.trans hpre, hnode⟩)
  | notCopied existed fs₁ e hs h hf hm hcopy =>
    rw [hm] at hmade
    cases existed with
    | true =>
      have hconfined := confined_of_made hc hp hd hs hmade
      refine Or.inr (Or.inl ?_)
      rw [hrel.along_eq] at h ⊢
      exact exists_ne_false_of_grows (hp.rooted hd) (hconfined.plain.rooted hconfined.leads)
        hconfined.grows hrel.plain (by simp [h])
    | false =>
      -- once the directories are made, nothing keeps a new file from being copied
      obtain ⟨fs₂, hok⟩ := copy_of_missing hc hp hd hs h hm
      rw [hok] at hcopy
      exact absurd hcopy (by simp)
  | copied existed fs₁ _ hs h hf hm hcopy =>
    rw [hm] at hmade
    have htree := (confined_of_made hc hp hd hs hmade).plain.tree
    obtain ⟨content, loc, -, hfill⟩ := fills_of_copy htree hcopy
    exact Or.inr (Or.inl (exists_ne_false_of_leads hfill.leads))

/-- What pointing out the instructions leaves is settled. -/
theorem settled_of_readme {action : Action} (hp : Plain s fs)
    (hd : fs.Leads s.target dir .directory) (h : ReadmeEnding s fs fs' action) :
    ReadmeSettled s fs' := by
  have hrel : IsRelative readmeFile := by decide
  have hwritten : ∀ {t : Text}, fs.write (s.target.along readmeFile) t.encode = .ok fs' →
      Patch.prependOnce t readmePointer = none → ReadmeSettled s fs' := by
    intro t hw hp'
    obtain ⟨loc, hfill⟩ := fills_of_write hp.tree hw
    refine ⟨exists_ne_false_of_leads hfill.leads, fun t' ht' => ?_⟩
    rw [hfill.textOf] at ht'
    rw [← Except.ok.inj ht', hp']
  have hread : ∀ {t : Text}, fs.textOf (s.target.along readmeFile) = .ok t →
      ∃ loc content, fs.Leads (s.target.along readmeFile) loc (.file content) := by
    intro t ht
    exact isFile_iff.mp (isFile_of_textOf ht)
  cases h with
  | unseen e h =>
    refine ⟨by simp [h], fun t ht => ?_⟩
    obtain ⟨loc, content, hl⟩ := hread ht
    rw [exists?, leadsTo_of_leads hl] at h
    exact absurd h (by simp)
  | notMade e h hw =>
    obtain ⟨fs₁, hok⟩ := write_of_missing hp hd hrel (by decide) h
      (readmePointer ++ ['\n'] : Text).encode
    rw [hok] at hw
    exact absurd hw (by simp)
  | made _ h hw =>
    refine hwritten hw ?_
    rw [Patch.prependOnce_eq_none]
    exact (List.prefix_append _ _).isInfix
  | unread t h hr => exact ⟨by simp [h], fun t ht => absurd (hr.symm.trans ht) (by simp)⟩
  | linked t hr hp' =>
    obtain ⟨loc, content, hl⟩ := hread hr
    refine ⟨exists_ne_false_of_leads hl, fun t' ht' => ?_⟩
    rw [hr] at ht'
    rw [← Except.ok.inj ht', hp']
  | notWritten t updated e hr hp' hw =>
    obtain ⟨loc, content, hl⟩ := hread hr
    exact absurd hw (write_ne_error (hp.rooted hd) hrel hl)
  | patched t updated _ hr hp' hw => exact hwritten hw (Patch.prependOnce_updated hp')

/-- The root source file is the same after it was filled. -/
theorem rootSource_of_fills {name other : Text} {content : Octets} {loc : Location}
    (hp : Plain s fs) (hd : fs.Leads s.target dir .directory)
    (h : rootSource s fs = .ok (some name)) (hfill : fs.Fills (s.target.along name) content fs' loc)
    (h' : rootSource s fs' = .ok (some other)) : other = name := by
  have hfile : fs'.isFile (s.target.along name) = .ok true :=
    isFile_iff.mpr ⟨loc, content, hfill.leads⟩
  rcases rootSource_eq_some.mp h with ⟨rfl, -⟩ | ⟨rfl, hlib, -⟩
  · rcases rootSource_eq_some.mp h' with ⟨rfl, -⟩ | ⟨-, hlib', -⟩
    · rfl
    · rw [hfile] at hlib'
      exact absurd hlib' (by simp)
  · -- the source file of a library, which is missing, stays so
    have hconfined := confined_of_fills hp hd (by decide) hfill
    have hlook := hconfined.lookup_eq hp hd (isRelative_of_crateFiles libraryRoot (by decide))
      (by decide) .follow
    rcases rootSource_eq_some.mp h' with ⟨-, hlib'⟩ | ⟨rfl, -⟩
    · rw [isFile, leadsTo_congr hlook, ← isFile, hlib] at hlib'
      exact absurd hlib' (by simp)
    · rfl

/-- What appending the header leaves is settled. -/
theorem settled_of_header {action : Action} (hp : Plain s fs)
    (hd : fs.Leads s.target dir .directory) (h : HeaderEnding s fs fs' action) :
    HeaderSettled s fs' := by
  cases h with
  | unasked e h => exact fun _ _ _ h' => absurd (h.symm.trans h') (by simp)
  | noRoot h => exact fun _ _ _ h' => absurd (h.symm.trans h') (by simp)
  | unseen name e h hh =>
    intro _ _ header _ _ hh'
    rw [isFile_of_textOf hh'] at hh
    exact absurd hh (by simp)
  | noHeader name h hh =>
    intro _ _ header _ _ hh'
    rw [isFile_of_textOf hh'] at hh
    exact absurd hh (by simp)
  | unread name t h hr =>
    intro name' existing _ h' hr' _
    obtain rfl : name = name' := by simpa using h.symm.trans h'
    exact absurd (hr.symm.trans hr') (by simp)
  | headerUnread name existing t h hr hh =>
    exact fun _ _ _ _ _ hh' => absurd (hh.symm.trans hh') (by simp)
  | present name existing header h hr hh hpatch =>
    intro name' existing' header' h' hr' hh'
    obtain rfl : name = name' := by simpa using h.symm.trans h'
    obtain rfl : existing = existing' := by simpa using hr.symm.trans hr'
    obtain rfl : header = header' := by simpa using hh.symm.trans hh'
    exact hpatch
  | notWritten name existing header updated e h hr hh hpatch hw =>
    have hrel := isRelative_of_crateFiles name (rootSource_mem_crateFiles h)
    obtain ⟨loc, hl⟩ := textOf_iff_leads.mp hr
    exact absurd hw (write_ne_error (hp.rooted hd) hrel hl)
  | appended name existing header updated _ h hr hh hpatch hw =>
    intro name' existing' header' h' hr' hh'
    obtain ⟨loc, hfill⟩ := fills_of_write hp.tree hw
    -- the same file is found again, and the header is read as before
    obtain rfl := rootSource_of_fills hp hd h hfill h'
    have hconfined := confined_of_fills hp hd
      (@subset_territories libraryRoot (by decide) _ (rootSource_mem h)) hfill
    rw [hfill.textOf] at hr'
    obtain rfl := Except.ok.inj hr'
    rw [(hconfined.textOf_source (by decide)).mpr hh] at hh'
    obtain rfl := Except.ok.inj hh'
    exact Patch.appendOnce_updated hpatch

/-- What writing the notice leaves is settled. -/
theorem settled_of_license {actions : List Action} {x : Option Toml.Excess} (hp : Plain s fs)
    (hd : fs.Leads s.target dir .directory) (h : LicenseEnding s year fs fs' actions x) :
    LicenseSettled s fs' := by
  have hrel : IsRelative licenseFile := by decide
  cases h with
  | unlicensed h => exact Or.inl h
  | unseen license e h he => exact Or.inr (by simp [he])
  | kept license h he hf => exact Or.inr (by simp [he])
  | notWritten license existed e h he hf hw =>
    cases existed with
    | true => exact Or.inr (by simp [he])
    | false =>
      obtain ⟨fs₁, hok⟩ := write_of_missing hp hd hrel (by decide) he (license.notice year).written
      rw [hok] at hw
      exact absurd hw (by simp)
  | emptied license existed u _ h he hf hu hw =>
    obtain ⟨loc, hfill⟩ := fills_of_write hp.tree hw
    exact Or.inr (exists_ne_false_of_leads hfill.leads)
  | written license existed octets fs₁ fs₂ actions x h he hf hwords hw hm =>
    obtain ⟨loc, hfill⟩ := fills_of_write hp.tree hw
    have htouched := touched_of_manifest hfill.tree hm
    obtain ⟨content, hl⟩ := hfill.leads.file hfill.tree htouched.grows
    exact Or.inr (exists_ne_false_of_leads hl)

end

/-! ## What a run leaves is settled -/

/-- What every step was to fill or to patch is settled. -/
structure Settled (s : Settings) (dir : Location) (fs : FileSystem) : Prop where
  copies : ∀ c ∈ copies, CopySettled s dir c fs
  readme : ReadmeSettled s fs
  header : HeaderSettled s fs
  license : LicenseSettled s fs

section

variable {s : Settings} {year : Int} {dir : Location} {fs fs' : FileSystem}

theorem CopySettled.later {c : Text × Text} (h : CopySettled s dir c fs)
    (hlook : fs'.lookup .follow (s.target.along c.2) = fs.lookup .follow (s.target.along c.2))
    (hsource : ∀ content, fs'.read (s.template.along c.1) = .ok content →
      fs.read (s.template.along c.1) = .ok content) (hg : fs.Grows fs') :
    CopySettled s dir c fs' := by
  rcases h with hno | hex | ⟨some_, content, hne, hpre, hnode⟩
  · exact Or.inl fun content hr => hno content (hsource content hr)
  · refine Or.inr (Or.inl ?_)
    rwa [exists?, leadsTo_congr hlook]
  · obtain ⟨content', hnode'⟩ := hg.file hnode
    exact Or.inr (Or.inr ⟨some_, content', hne, hpre, hnode'⟩)

theorem ReadmeSettled.later (h : ReadmeSettled s fs)
    (hlook : fs'.lookup .follow (s.target.along readmeFile)
      = fs.lookup .follow (s.target.along readmeFile)) : ReadmeSettled s fs' := by
  rw [ReadmeSettled, exists?, leadsTo_congr hlook, textOf_congr hlook]
  exact h

theorem HeaderSettled.later (h : HeaderSettled s fs)
    (hlook : ∀ name ∈ [libraryRoot, programRoot],
      fs'.lookup .follow (s.target.along name) = fs.lookup .follow (s.target.along name))
    (hsource : ∀ t, fs'.textOf (s.template.along headerTemplate) = .ok t →
      fs.textOf (s.template.along headerTemplate) = .ok t) : HeaderSettled s fs' := by
  intro name existing header hroot hr hh
  rw [rootSource_congr hlook] at hroot
  rw [textOf_congr (hlook name (rootSource_mem hroot))] at hr
  exact h name existing header hroot hr (hsource header hh)

theorem LicenseSettled.later (h : LicenseSettled s fs)
    (hlook : fs'.lookup .follow (s.target.along licenseFile)
      = fs.lookup .follow (s.target.along licenseFile)) : LicenseSettled s fs' := by
  refine h.imp_right fun hex => ?_
  rwa [exists?, leadsTo_congr hlook]

/-- **A run leaves settled files**: what a step leaves is settled, and the other steps do not touch
it. -/
theorem settled_of_chain {report : Report} (hp : Plain s fs) (hd : fs.Leads s.target dir .directory)
    (h : Chain s year (steps s year) fs fs' report none) : Settled s dir fs' := by
  refine ⟨fun c hc => ?copy, ?readme, ?header, ?license⟩
  -- each file is settled behind its own step, and what comes later leaves it so
  case copy =>
    have hin : c.2 ∈ stepNames := List.mem_append_left _ (List.mem_map_of_mem hc)
    obtain ⟨step, fs₁, fs₂, actions, hname, hu⟩ := undisturbed_of_name hp hd h hin
    obtain ⟨x, hends⟩ := hu.ends
    obtain ⟨action, hcopy, -⟩ := hends.copy_of_name hc hname
    have hself : c.2 ∈ territory step.name := by
      rw [hname, territory_of_copies c hc]
      simp
    have hsettled := settled_of_copy hc hu.before.plain hu.before.leads hcopy
    exact hsettled.later (hu.lookup_after hself .follow)
      (fun content => (hu.after.sources _ (mem_templateFiles_of_copies hc) content).mp) hu.after.grows
  case readme =>
    obtain ⟨step, fs₁, fs₂, actions, hname, hu⟩ :=
      undisturbed_of_name hp hd h (by decide : readmeFile ∈ stepNames)
    obtain ⟨x, hends⟩ := hu.ends
    obtain ⟨action, hreadme, -⟩ := hends.readme_of_name hname
    have hself : readmeFile ∈ territory step.name := by
      rw [hname]
      decide
    have hsettled := settled_of_readme hu.before.plain hu.before.leads hreadme
    exact hsettled.later (hu.lookup_after hself .follow)
  case header =>
    obtain ⟨step, fs₁, fs₂, actions, hname, hu⟩ :=
      undisturbed_of_name hp hd h (by decide : libraryRoot ∈ stepNames)
    obtain ⟨x, hends⟩ := hu.ends
    obtain ⟨action, hheader, -⟩ := hends.header_of_name hname
    have hself : ∀ name ∈ [libraryRoot, programRoot], name ∈ territory step.name := by
      rw [hname]
      exact fun _ hn => hn
    have hsettled := settled_of_header hu.before.plain hu.before.leads hheader
    exact hsettled.later (fun name hn => hu.lookup_after (hself name hn) .follow)
      fun t => (hu.after.textOf_source (by decide)).mp
  case license =>
    obtain ⟨step, fs₁, fs₂, actions, hname, hu⟩ :=
      undisturbed_of_name hp hd h (by decide : licenseFile ∈ stepNames)
    obtain ⟨x, hends⟩ := hu.ends
    have hlicense := hends.license_of_name hname
    have hself : licenseFile ∈ territory step.name := by
      rw [hname]
      decide
    have hsettled := settled_of_license hu.before.plain hu.before.leads hlicense
    exact hsettled.later (hu.lookup_after hself .follow)

end

/-! ## Files that are settled stay as they are -/

/-- The outcomes of what was done to a file. -/
def doneOutcomes : List Outcome := [.created, .overwritten, .updated]

/-- However a step ends that begins with these files, it leaves them as they are and records nothing as
done. -/
def Idle (s : Settings) (year : Int) (fs : FileSystem) : Prop :=
  ∀ step fs' actions x, StepEnding s year step fs fs' actions x →
    fs' = fs ∧ x = none ∧ ∀ action ∈ actions, action.outcome ∉ doneOutcomes

/-- Steps that leave the files as they are do so one after the other. -/
theorem chain_of_idle {s : Settings} {year : Int} {some_ : List Step} {fs fs' : FileSystem}
    {report : Report} {x : Option Toml.Excess} (hidle : Idle s year fs)
    (h : Chain s year some_ fs fs' report x) :
    fs' = fs ∧ x = none ∧ ∀ action ∈ report, action.outcome ∉ doneOutcomes := by
  induction h with
  | done fs => exact ⟨rfl, rfl, by simp⟩
  | next he _ ih =>
    obtain ⟨rfl, -, hdone⟩ := hidle _ _ _ _ he
    obtain ⟨rfl, rfl, hrest⟩ := ih hidle
    exact ⟨rfl, rfl, fun action ha => (List.mem_append.mp ha).elim (hdone action) (hrest action)⟩
  | stopped he => exact absurd (hidle _ _ _ _ he).2.1 (by simp)

section

variable {s : Settings} {year : Int} {dir : Location} {fs fs' : FileSystem}

/-- No directory can be made along names where a file is in the way. -/
theorem not_made_of_file {c : Text × Text} (hc : c ∈ copies) {fs₁ : FileSystem}
    (hr : fs₁.Rooted s.target dir) (hg : fs.Grows fs₁)
    (hm : fs.Made s.target (namesOf c.2).dropLast (fs₁, .ok ())) {some_ : List Text}
    {content : Octets} (hpre : some_ <+: (namesOf c.2).dropLast)
    (hf : fs.node? (dir ++ some_) = some (.file content)) : False := by
  obtain ⟨content', hf'⟩ := hg.file hf
  obtain ⟨more, hmore⟩ := hpre
  have hnode := node_of_made hc hr hm
  rw [← hmore, ← List.append_assoc] at hnode
  exact hr.tree.no_directory_below hf' more hnode

/-- A file that is settled is not copied without leave to overwrite. -/
theorem idle_of_copy {c : Text × Text} {action : Action} (hc : c ∈ copies) (hf : s.force = false)
    (hp : Plain s fs) (hd : fs.Leads s.target dir .directory) (hs : CopySettled s dir c fs)
    (h : CopyEnding s c.1 c.2 fs fs' action) :
    fs' = fs ∧ action.outcome ∉ doneOutcomes := by
  have hmade := made_of_copies hc hp.tree hd
  -- the directories could only be made for a file that is not settled
  have hnot : ∀ {existed : Bool} {fs₁ : FileSystem},
      fs.isFile (s.template.along c.1) = .ok true →
      fs.exists? (s.target.along c.2) = .ok existed → (existed = true → s.force = true) →
      fs.makeDirectories (s.target.along c.2).parent ≠ (fs₁, .ok ()) := by
    intro existed fs₁ hsource he hforce hm
    rw [hm] at hmade
    rcases hs with hno | hex | ⟨some_, content, hne, hpre, hnode⟩
    · obtain ⟨loc, content, hl⟩ := isFile_iff.mp hsource
      exact hno content (read_eq_ok.mpr ⟨loc, hl⟩)
    · cases existed with
      | true => exact absurd ((hforce rfl).symm.trans hf) (by simp)
      | false => exact hex he
    · have hconfined := confined_of_made hc hp hd hsource hmade
      exact not_made_of_file hc (hconfined.plain.rooted hconfined.leads) hconfined.grows hmade hpre
        hnode
  cases h with
  | unasked | noSource | unseen | kept => exact ⟨rfl, by simp [doneOutcomes]⟩
  | noDirectory existed _ e hsource he hforce hm =>
    rw [hm] at hmade
    cases hmade with
    | failed e some_ hne hpre hobs => exact ⟨rfl, by simp [doneOutcomes]⟩
  | notCopied existed _ e hsource he hforce hm hcopy => exact absurd hm (hnot hsource he hforce)
  | copied existed _ _ hsource he hforce hm hcopy => exact absurd hm (hnot hsource he hforce)

/-- The readme is not patched if it is settled. -/
theorem idle_of_readme {action : Action} (hs : ReadmeSettled s fs)
    (h : ReadmeEnding s fs fs' action) : fs' = fs ∧ action.outcome ∉ doneOutcomes := by
  cases h with
  | made _ he hw => exact absurd he hs.1
  | patched t updated _ hr hp hw => exact absurd ((hs.2 t hr).symm.trans hp) (by simp)
  | unseen | notMade | unread | linked | notWritten => exact ⟨rfl, by simp [doneOutcomes]⟩

/-- The header is not appended if it is settled. -/
theorem idle_of_header {action : Action} (hs : HeaderSettled s fs)
    (h : HeaderEnding s fs fs' action) : fs' = fs ∧ action.outcome ∉ doneOutcomes := by
  cases h with
  | appended name existing header updated _ h hr hh hp hw =>
    exact absurd ((hs name existing header h hr hh).symm.trans hp) (by simp)
  | unasked | noRoot | unseen | noHeader | unread | headerUnread | present | notWritten =>
    exact ⟨rfl, by simp [doneOutcomes]⟩

/-- The notice is not written without leave to overwrite if it is settled. -/
theorem idle_of_license {actions : List Action} {x : Option Toml.Excess} (hf : s.force = false)
    (hs : LicenseSettled s fs) (h : LicenseEnding s year fs fs' actions x) :
    fs' = fs ∧ x = none ∧ ∀ action ∈ actions, action.outcome ∉ doneOutcomes := by
  cases h with
  | emptied license existed _ _ h he hforce | written license existed _ _ _ _ _ h he hforce =>
    rcases hs with hnone | hex
    · exact absurd (hnone.symm.trans h) (by simp)
    · cases existed with
      | true => exact absurd ((hforce rfl).symm.trans hf) (by simp)
      | false => exact absurd he hex
  | unlicensed | unseen | kept | notWritten => exact ⟨rfl, rfl, by simp [doneOutcomes]⟩

/-- **Settled files stay as they are** without leave to overwrite. -/
theorem idle_of_settled (hf : s.force = false) (hp : Plain s fs)
    (hd : fs.Leads s.target dir .directory) (hs : Settled s dir fs) : Idle s year fs := by
  intro step fs' actions x h
  cases h with
  | copy hc h =>
    obtain ⟨hsame, hdone⟩ := idle_of_copy hc hf hp hd (hs.copies _ hc) h
    exact ⟨hsame, rfl, by simpa using hdone⟩
  | readme h =>
    obtain ⟨hsame, hdone⟩ := idle_of_readme hs.readme h
    exact ⟨hsame, rfl, by simpa using hdone⟩
  | header h =>
    obtain ⟨hsame, hdone⟩ := idle_of_header hs.header h
    exact ⟨hsame, rfl, by simpa using hdone⟩
  | license h => exact idle_of_license hf hs.license h

end

/-! ## The second run -/

/-- **After a run the next one does nothing without leave to overwrite**: it gives a report, in which
nothing was created, overwritten or updated, and leaves the files as they are. -/
theorem second_run_changes_nothing {s : Settings} {year : Int} {fs fs' : FileSystem} {report : Report}
    (hp : Plain s fs) (h : run s year fs = (fs', .ok report)) (year' : Int) :
    ∃ report', run { s with force := false } year' fs' = (fs', .ok report')
      ∧ ∀ action ∈ report', action.outcome ∉ doneOutcomes := by
  have hends := run_cases s year fs
  rw [h] at hends
  cases hends with
  | reported _ _ hmanifest hchain =>
    obtain ⟨dir, hd⟩ := hasCrate_of_isFile (by decide) hmanifest
    have hsettled := settled_of_chain hp hd hchain
    have hconfined := confined_of_chain (fun step _ hin => subset_territories hin) hchain hp hd
    have hplain : Plain { s with force := false } fs' :=
      ⟨hconfined.plain.tree, hconfined.plain.crate, hconfined.plain.template, hconfined.plain.apart⟩
    have hidle := @idle_of_settled { s with force := false } year' dir fs' rfl hplain hconfined.leads
      ⟨hsettled.copies, hsettled.readme, hsettled.header, hsettled.license⟩
    have hstill : fs'.isFile (s.target.along manifestFile) = .ok true := by
      obtain ⟨loc, content, hl⟩ := isFile_iff.mp hmanifest
      obtain ⟨content', hl'⟩ := hl.file hp.tree hconfined.grows
      exact isFile_iff.mpr ⟨loc, content', hl'⟩
    -- the manifest may be another by now, but it is a file still
    have hsecond := run_cases { s with force := false } year' fs'
    generalize run { s with force := false } year' fs' = result at hsecond
    cases hsecond with
    | unseen e hno => exact absurd (hno.symm.trans hstill) (by simp)
    | refused hno => exact absurd (hno.symm.trans hstill) (by simp)
    | reported fs'' report' _ hc =>
      obtain ⟨rfl, -, hdone⟩ := chain_of_idle hidle hc
      exact ⟨report', rfl, hdone⟩
    | stopped fs'' report' e _ hc => exact absurd (chain_of_idle hidle hc).2.1 (by simp)

/-- The second run for a crate with a readme and a source file, whose formatting options were
overwritten by the first. -/
theorem second_run_of_overwritten_options :
    let fs : FileSystem := ⟨[(["crate"], .directory), (["crate", "Cargo.toml"], .file []),
      (["crate", "README.md"], .file [35]), (["crate", "rustfmt.toml"], .file [35]),
      (["crate", "src"], .directory), (["crate", "src", "lib.rs"], .file [35]),
      (["template"], .directory), (["template", "rustfmt.toml"], .file []),
      (["template", "src"], .directory), (["template", "src", "header.rs"], .file [47, 47])], []⟩
    let s : Settings := ⟨.ofText "/crate", .ofText "/template", true, none⟩
    ∃ report', run { s with force := false } 2025 (run s 2024 fs).1 = ((run s 2024 fs).1, .ok report')
      ∧ ∀ action ∈ report', action.outcome ∉ doneOutcomes := by
  intro fs s
  have hp : Plain s fs :=
    plain_of_entries (isTree_of_entries (by decide) (by decide)) (by decide) (by decide)
  have hreport : (run s 2024 fs).2.toOption.any (fun _ => true) = true := by decide +kernel
  obtain ⟨fs', report, hrun, -⟩ := exists_report_of_any hreport
  rw [hrun]
  exact second_run_changes_nothing hp hrun 2025

end CrateSync.Sync
