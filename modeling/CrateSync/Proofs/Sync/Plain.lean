/-
# Runs without links

Where no link lies below the crate or below the template, and the two are different directories, each
step keeps to a territory of its own: the places of a few names in the crate.  It reads nothing in the
territory of another step, so that the other steps of a run leave alone what it looks at.

* `confined_of_step` : a step changes its territory alone, and no file of the template;
* `undisturbed_of_action` : every action of a run is one of a step among others that leave its
  territory alone.
-/
import CrateSync.Proofs.FileSystem.LinkFree
import CrateSync.Proofs.Sync.Footprint

namespace CrateSync.Sync

open FileSystem

/-! ## Crates and templates without links -/

/-- A tree in which no link lies below the crate or below the template, which are not the same
directory. -/
structure Plain (s : Settings) (fs : FileSystem) : Prop where
  tree : fs.IsTree
  crate : ∀ dir, fs.Leads s.target dir .directory → fs.LinkFree dir
  template : ∀ dir, fs.Leads s.template dir .directory → fs.LinkFree dir
  apart : ∀ dir, fs.Leads s.target dir .directory → ¬fs.Leads s.template dir .directory

section

variable {s : Settings} {fs fs' : FileSystem} {dir : Location}

theorem Plain.rooted (h : Plain s fs) (hd : fs.Leads s.target dir .directory) :
    fs.Rooted s.target dir :=
  ⟨h.tree, hd, h.crate dir hd⟩

theorem Plain.rooted_template (h : Plain s fs) (hd : fs.Leads s.template dir .directory) :
    fs.Rooted s.template dir :=
  ⟨h.tree, hd, h.template dir hd⟩

end

/-- A tree without any links is such a tree, if the two paths do not end at one place. -/
theorem plain_of_entries {s : Settings} {fs : FileSystem} (ht : fs.IsTree)
    (hl : ∀ entry ∈ fs.entries, entry.2.isFile = true ∨ entry.2 = .directory)
    (ha : (fs.lookup .follow s.target).location? ≠ (fs.lookup .follow s.template).location?) :
    Plain s fs :=
  ⟨ht, fun dir _ => linkFree_of_entries hl dir, fun dir _ => linkFree_of_entries hl dir,
    fun _ hd hd' => ha (hd.location.trans hd'.location.symm)⟩

/-! ## Territories -/

/-- The names of the steps. -/
def stepNames : List Text :=
  copies.map Prod.snd ++ [readmeFile, libraryRoot, licenseFile]

/-- The names of all that a step may change or make. -/
def territory (step : Text) : List Text :=
  if step = libraryRoot then [libraryRoot, programRoot]
  else if step = licenseFile then [licenseFile, manifestFile]
  else step :: directoriesOf step

/-- The names of all that the other steps may change or make. -/
def otherTerritory (step : Text) : List Text :=
  (stepNames.filter fun other => other != step).flatMap territory

/-- The names of all that any step may change or make. -/
def territories : List Text :=
  stepNames.flatMap territory

theorem subset_territories {step : Text} (h : step ∈ stepNames) : territory step ⊆ territories :=
  fun _ hn => List.mem_flatMap.mpr ⟨step, h, hn⟩

theorem isRelative_of_territories : ∀ name ∈ territories, IsRelative name := by
  decide

/-- No step changes or makes anything along the names in the territory of another. -/
theorem not_mem_otherTerritory : ∀ step ∈ stepNames, ∀ name ∈ territory step,
    ∀ some_ ∈ (namesOf name).inits, some_ ≠ [] → ∀ other ∈ otherTerritory step,
      namesOf other ≠ some_ := by
  decide +kernel

/-- A place in a territory that ends like a place in a template has all names in common with it. -/
theorem territory_apart_from_template : ∀ name ∈ territories,
    ∀ source ∈ templateFiles, ∀ some_ ∈ (namesOf source).inits,
      (namesOf name).getLast? = some_.getLast? → namesOf name = some_ := by
  decide +kernel

theorem StepEnding.name_mem {s : Settings} {year : Int} {step : Step} {fs fs' : FileSystem}
    {actions : List Action} {x : Option Toml.Excess}
    (h : StepEnding s year step fs fs' actions x) : step.name ∈ stepNames := by
  cases h with
  | copy hc h => exact List.mem_append_left _ (List.mem_map_of_mem (f := Prod.snd) hc)
  | readme h =>
    have : readmeFile ∈ stepNames := by decide
    exact this
  | header h =>
    have : libraryRoot ∈ stepNames := by decide
    exact this
  | license h =>
    have : licenseFile ∈ stepNames := by decide
    exact this

/-! ## What a step changes -/

/-- Between two states of the files nothing changed but what some names lead to in the crate, and the
crate and the files of the template are as they were. -/
structure Confined (s : Settings) (dir : Location) (names : List Text) (fs fs' : FileSystem) :
    Prop where
  plain : Plain s fs'
  leads : fs'.Leads s.target dir .directory
  grows : fs.Grows fs'
  within : ∀ loc, fs'.node? loc ≠ fs.node? loc → ∃ name ∈ names, loc = dir ++ namesOf name
  sources : ∀ name ∈ templateFiles, ∀ content,
    fs'.read (s.template.along name) = .ok content ↔ fs.read (s.template.along name) = .ok content

section

variable {s : Settings} {dir : Location} {names names' : List Text} {fs fs₁ fs₂ fs₃ fs' : FileSystem}

theorem Confined.refl (hp : Plain s fs) (hd : fs.Leads s.target dir .directory) :
    Confined s dir names fs fs :=
  ⟨hp, hd, .refl fs, fun _ h => absurd rfl h, fun _ _ _ => Iff.rfl⟩

theorem Confined.trans (h : Confined s dir names fs₁ fs₂) (h' : Confined s dir names fs₂ fs₃) :
    Confined s dir names fs₁ fs₃ := by
  refine ⟨h'.plain, h'.leads, h.grows.trans h'.grows, fun loc hloc => ?_, fun name hn content => ?_⟩
  · by_cases hlast : fs₃.node? loc = fs₂.node? loc
    · exact h.within loc (hlast ▸ hloc)
    · exact h'.within loc hlast
  · rw [h'.sources name hn, h.sources name hn]

theorem Confined.mono (h : Confined s dir names fs fs') (hn : names ⊆ names') :
    Confined s dir names' fs fs' := by
  refine ⟨h.plain, h.leads, h.grows, fun loc hloc => ?_, h.sources⟩
  obtain ⟨name, hname, rfl⟩ := h.within loc hloc
  exact ⟨name, hn hname, rfl⟩

/-- The files of the template have the texts that they had. -/
theorem Confined.textOf_source (h : Confined s dir names fs fs') {name t : Text}
    (hn : name ∈ templateFiles) :
    fs'.textOf (s.template.along name) = .ok t ↔ fs.textOf (s.template.along name) = .ok t := by
  rw [textOf_eq_ok, textOf_eq_ok]
  exact h.sources name hn t.encode

/-- A place in a template lies in no territory, since the template is not the crate. -/
theorem not_within_template {other : Location} (ha : other ≠ dir) {source : Text}
    (hs : source ∈ templateFiles) {some_ : List Text} (hpre : some_ <+: namesOf source)
    (hne : some_ ≠ []) {name : Text} (hn : name ∈ territories) :
    other ++ some_ ≠ dir ++ namesOf name := by
  intro heq
  have hnames := (isRelative_of_territories name hn).plain.ne_nil
  have hlast : (namesOf name).getLast? = some_.getLast? := by
    have := congrArg List.getLast? heq
    rw [List.getLast?_append_of_ne_nil _ hne, List.getLast?_append_of_ne_nil _ hnames] at this
    exact this.symm
  have hsame := territory_apart_from_template name hn source hs some_
    ((List.mem_inits _ _).mpr hpre) hlast
  rw [hsame] at heq
  exact ha (List.append_cancel_right heq)

/-- Where files and directories alone were touched, every link is as it was. -/
theorem Touched.link {mayChange mayAdd mayMake : List Text}
    (h : Touched s mayChange mayAdd mayMake fs fs') {loc : Location} {target : Text}
    (hl : fs'.node? loc = some (.link target)) : fs.node? loc = some (.link target) := by
  by_contra hne
  rcases h.changed loc (by rw [hl]; exact fun heq => hne heq.symm) with ⟨_, _, _, hf⟩
    | ⟨-, ⟨_, _, _, hf⟩ | ⟨_, _, hf⟩⟩
  · exact absurd (hl.symm.trans (hf.stands h.tree)) (by simp)
  · exact absurd (hl.symm.trans (hf.stands h.tree)) (by simp)
  · exact absurd (hl.symm.trans (hf.stands h.tree)) (by simp)

theorem Touched.rooted {mayChange mayAdd mayMake : List Text} (hr : fs.Rooted s.target dir)
    (h : Touched s mayChange mayAdd mayMake fs fs') : fs'.Rooted s.target dir :=
  ⟨h.tree, hr.leads.directory hr.tree h.grows.keepsWays,
    fun loc target hpre hl => hr.linkFree loc target hpre (h.link hl)⟩

/-- Below a crate without links, what is touched is where its name says. -/
theorem Touched.within (h : Touched s names names names fs fs') (hr : fs'.Rooted s.target dir)
    (hn : names ⊆ territories) (loc : Location) (hloc : fs'.node? loc ≠ fs.node? loc) :
    ∃ name ∈ names, loc = dir ++ namesOf name := by
  have hplace : ∀ name ∈ names, ∀ node, fs'.Leads (s.target.along name) loc node →
      loc = dir ++ namesOf name := by
    intro name hname node hl
    have hrel := isRelative_of_territories name (hn hname)
    rw [hrel.along_eq] at hl
    exact ((hr.leads_iff hrel.plain).mp hl).2.1
  rcases h.changed loc hloc with ⟨name, hname, content, hl⟩
    | ⟨-, ⟨name, hname, content, hl⟩ | ⟨name, hname, hl⟩⟩
  · exact ⟨name, hname, hplace name hname _ hl⟩
  · exact ⟨name, hname, hplace name hname _ hl⟩
  · exact ⟨name, hname, hplace name hname _ hl⟩

/-- The nodes along a name are the same where nothing has changed along it. -/
theorem agreeAlong_of_within
    (hwithin : ∀ loc, fs'.node? loc ≠ fs.node? loc → ∃ other ∈ names, loc = dir ++ namesOf other)
    {name : Text}
    (hn : ∀ some_ ∈ (namesOf name).inits, some_ ≠ [] → ∀ other ∈ names, namesOf other ≠ some_) :
    fs.AgreeAlong fs' dir (namesOf name) := by
  intro some_ hne hpre
  by_contra hchanged
  obtain ⟨other, hother, hloc⟩ := hwithin _ hchanged
  have hin := (List.mem_inits _ _).mpr hpre
  exact hn some_ hin hne other hother (List.append_cancel_left hloc).symm

/-- A look-up in a crate without links is the same where nothing has changed along its names. -/
theorem lookup_eq_of_within (hr : fs.Rooted s.target dir) (hr' : fs'.Rooted s.target dir)
    (hwithin : ∀ loc, fs'.node? loc ≠ fs.node? loc → ∃ other ∈ names, loc = dir ++ namesOf other)
    {name : Text} (hname : IsRelative name)
    (hn : ∀ some_ ∈ (namesOf name).inits, some_ ≠ [] → ∀ other ∈ names, namesOf other ≠ some_)
    (purpose : Purpose) :
    fs'.lookup purpose (s.target.along name) = fs.lookup purpose (s.target.along name) := by
  rw [hname.along_eq]
  exact hr.lookup_congr hr' hname.plain (agreeAlong_of_within hwithin hn) _

/-- A file of the template is one in a directory. -/
theorem exists_template_of_isFile {source : Text} (hs : source ∈ templateFiles)
    (h : fs.isFile (s.template.along source) = .ok true) :
    ∃ other, fs.Leads s.template other .directory := by
  obtain ⟨loc, content, hl⟩ := isFile_iff.mp h
  have hsource := isRelative_of_templateFiles source hs
  rw [hsource.along_eq] at hl
  exact exists_leads_directory hsource.plain.not_blank hl.location

/-- Without a template none of its files can be read. -/
theorem read_of_no_template {source : Text} (hs : source ∈ templateFiles)
    (hno : ∀ other, ¬fs.Leads s.template other .directory) (content : Octets) :
    fs.read (s.template.along source) ≠ .ok content := by
  intro hread
  obtain ⟨loc, hl⟩ := read_eq_ok.mp hread
  obtain ⟨other, ho⟩ := exists_template_of_isFile hs (isFile_iff.mpr ⟨loc, content, hl⟩)
  exact hno other ho

/-- A look-up in the template is the same where only territories have changed, since the template is not
the crate. -/
theorem lookup_source_of_within {other : Location} (hr : fs.Rooted s.template other)
    (hr' : fs'.Rooted s.template other) (ha : other ≠ dir)
    (hwithin : ∀ loc, fs'.node? loc ≠ fs.node? loc → ∃ name ∈ names, loc = dir ++ namesOf name)
    (hn : names ⊆ territories) {source : Text} (hs : source ∈ templateFiles) (purpose : Purpose) :
    fs'.lookup purpose (s.template.along source) = fs.lookup purpose (s.template.along source) := by
  have hsource := isRelative_of_templateFiles source hs
  rw [hsource.along_eq]
  refine hr.lookup_congr hr' hsource.plain (fun some_ hne hpre => ?_) purpose
  by_contra hchanged
  obtain ⟨name, hname, hloc⟩ := hwithin _ hchanged
  exact not_within_template ha hs hpre hne (hn hname) hloc

/-- No new directory can be the template: it is one already, or no directory was made. -/
def TemplateStays (s : Settings) (fs fs' : FileSystem) : Prop :=
  (∃ other, fs.Leads s.template other .directory) ∨ fs'.KeepsWays fs

/-- What was touched in the territories alone is confined, if no new directory can be the template. -/
theorem confined_of_touched (hp : Plain s fs) (hd : fs.Leads s.target dir .directory)
    (h : Touched s names names names fs fs') (hn : names ⊆ territories)
    (hk : TemplateStays s fs fs') : Confined s dir names fs fs' := by
  have hrooted := h.rooted (hp.rooted hd)
  have hwithin := h.within hrooted hn
  have htemplate : ∀ other, fs'.Leads s.template other .directory →
      fs.Leads s.template other .directory := by
    intro other hl
    rcases hk with ⟨other', hl'⟩ | hk
    · -- a template that was there before is the one that is there now
      obtain ⟨rfl, -⟩ := hl.unique (hl'.directory hp.tree h.grows.keepsWays)
      exact hl'
    · exact hl.directory h.tree hk
  have hplain : Plain s fs' := by
    refine ⟨h.tree, fun dir' hl => ?_, fun other hl => ?_, fun dir' hl hl' => ?_⟩
    · obtain ⟨rfl, -⟩ := hl.unique hrooted.leads
      exact hrooted.linkFree
    · exact fun loc target hpre hlink =>
        hp.template other (htemplate other hl) loc target hpre (h.link hlink)
    · obtain ⟨rfl, -⟩ := hl.unique hrooted.leads
      exact hp.apart dir' hd (htemplate dir' hl')
  refine ⟨hplain, hrooted.leads, h.grows, hwithin, fun source hs content => ?_⟩
  by_cases ht : ∃ other, fs.Leads s.template other .directory
  · obtain ⟨other, hl⟩ := ht
    have hl' := hl.directory hp.tree h.grows.keepsWays
    have hapart : other ≠ dir := fun heq => hp.apart dir hd (heq ▸ hl)
    rw [read_congr (lookup_source_of_within (hp.rooted_template hl) (hplain.rooted_template hl')
      hapart hwithin hn hs .follow)]
  · have hno := not_exists.mp ht
    have hno' := fun other hl => hno other (htemplate other hl)
    exact ⟨fun hr => absurd hr (read_of_no_template hs hno' content),
      fun hr => absurd hr (read_of_no_template hs hno content)⟩

end

/-- Where no directory was made, none has to be unmade on the way back. -/
theorem Touched.keepsWays {s : Settings} {mayChange mayAdd : List Text} {fs fs' : FileSystem}
    (h : Touched s mayChange mayAdd [] fs fs') : fs'.KeepsWays fs := by
  refine ⟨h.grows.cwd.symm, fun loc node hn hf => ?_⟩
  by_contra hne
  rcases h.changed loc (by rw [hn]; exact fun heq => hne heq.symm) with ⟨_, _, _, hl⟩
    | ⟨-, ⟨_, _, _, hl⟩ | ⟨_, hmem, _⟩⟩
  · rw [hl.stands h.tree] at hn
    obtain rfl := Option.some.inj hn
    exact absurd hf (by simp [Node.isFile])
  · rw [hl.stands h.tree] at hn
    obtain rfl := Option.some.inj hn
    exact absurd hf (by simp [Node.isFile])
  · exact absurd hmem (by simp)

/-- Filling a file changes that file alone. -/
theorem confined_of_fills {s : Settings} {dir loc : Location} {fs fs' : FileSystem} {name : Text}
    {content : Octets} (hp : Plain s fs) (hd : fs.Leads s.target dir .directory)
    (hn : name ∈ territories)
    (h : fs.Fills (s.target.along name) content fs' loc) : Confined s dir [name] fs fs' := by
  have htouched := Touched.of_fills h
  exact confined_of_touched hp hd (htouched.mono (by simp) (by simp) (by simp))
    (by simpa using hn) (Or.inr htouched.keepsWays)

/-- Making the manifest agree with the license changes the manifest alone. -/
theorem confined_of_manifest {s : Settings} {dir : Location} {mode : LicenseMode}
    {fs fs' : FileSystem} {actions : List Action} {x : Option Toml.Excess} (hp : Plain s fs)
    (hd : fs.Leads s.target dir .directory) (h : ManifestEnding s mode fs fs' actions x) :
    Confined s dir [manifestFile] fs fs' := by
  have htouched := touched_of_manifest hp.tree h
  exact confined_of_touched hp hd (htouched.mono (fun _ hn => hn) (by simp) (by simp)) (by decide)
    (Or.inr htouched.keepsWays)

/-- A file of a crate without links can be filled anew. -/
theorem write_ne_error {s : Settings} {dir loc : Location} {fs : FileSystem} {name : Text}
    {old new : Octets} {e : SystemError} (hr : fs.Rooted s.target dir) (hname : IsRelative name)
    (hl : fs.Leads (s.target.along name) loc (.file old)) :
    fs.write (s.target.along name) new ≠ .error e := by
  rw [hname.along_eq] at hl ⊢
  obtain ⟨fs', hok⟩ := hr.write_of_file hname.plain hl new
  simp [hok]

/-- What was written to a file of the crate stands there, and nothing else has changed. -/
theorem node_of_write {s : Settings} {dir : Location} {fs fs' : FileSystem} {name : Text}
    {content : Octets} (hp : Plain s fs) (hd : fs.Leads s.target dir .directory)
    (hn : name ∈ territories) (h : fs.write (s.target.along name) content = .ok fs')
    (other : Location) :
    fs'.node? other
      = if other = dir ++ namesOf name then some (.file content) else fs.node? other := by
  have hname := isRelative_of_territories name hn
  obtain ⟨loc, hfill⟩ := fills_of_write hp.tree h
  have hconfined := confined_of_fills hp hd hn hfill
  have hleads := hfill.leads
  rw [hname.along_eq] at hleads
  obtain ⟨-, rfl, -⟩ := ((hconfined.plain.rooted hconfined.leads).leads_iff hname.plain).mp hleads
  exact hfill.node other

/-- A file of the crate that has a text stands where its name leads. -/
theorem node_of_textOf {s : Settings} {dir : Location} {fs : FileSystem} {name t : Text}
    (hp : Plain s fs) (hd : fs.Leads s.target dir .directory) (hn : name ∈ territories)
    (h : fs.textOf (s.target.along name) = .ok t) :
    fs.node? (dir ++ namesOf name) = some (.file t.encode) := by
  have hname := isRelative_of_territories name hn
  obtain ⟨loc, hl⟩ := textOf_iff_leads.mp h
  rw [hname.along_eq] at hl
  obtain ⟨-, rfl, hnode⟩ := ((hp.rooted hd).leads_iff hname.plain).mp hl
  exact hnode

theorem mem_templateFiles_of_copies {c : Text × Text} (h : c ∈ copies) : c.1 ∈ templateFiles :=
  List.mem_append_left _ (List.mem_map_of_mem (f := Prod.fst) h)

theorem territory_of_copies : ∀ c ∈ copies, territory c.2 = c.2 :: directoriesOf c.2 := by
  decide

theorem mem_stepNames_of_copies {c : Text × Text} (h : c ∈ copies) : c.2 ∈ stepNames :=
  List.mem_append_left _ (List.mem_map_of_mem (f := Prod.snd) h)

theorem mem_territory_of_copies {c : Text × Text} (h : c ∈ copies) : c.2 ∈ territory c.2 := by
  rw [territory_of_copies c h]
  exact List.mem_cons_self

theorem directories_subset_territory {c : Text × Text} (h : c ∈ copies) :
    directoriesOf c.2 ⊆ territory c.2 := by
  rw [territory_of_copies c h]
  exact List.subset_cons_self _ _

/-- Directories are made only if the template is a directory: else there is no file to be copied. -/
theorem templateStays_of_step {s : Settings} {year : Int} {step : Step} {fs fs' : FileSystem}
    {actions : List Action} {x : Option Toml.Excess} (ht : fs.IsTree)
    (h : StepEnding s year step fs fs' actions x) : TemplateStays s fs fs' := by
  cases h with
  | @copy sourceName name fs fs' action hc h =>
    have hsource : ∀ h : fs.isFile (s.template.along sourceName) = .ok true,
        TemplateStays s fs fs' :=
      fun h => Or.inl (exists_template_of_isFile (mem_templateFiles_of_copies hc) h)
    cases h with
    | unasked | noSource => exact Or.inr (Grows.refl fs).keepsWays
    | unseen e hs h => exact hsource hs
    | kept hs h hf => exact hsource hs
    | noDirectory existed _ e hs h hf hm => exact hsource hs
    | notCopied existed _ e hs h hf hm hc => exact hsource hs
    | copied existed _ _ hs h hf hm hc => exact hsource hs
  | readme h => exact Or.inr (touched_of_readme ht h).keepsWays
  | header h => exact Or.inr (touched_of_header ht h).keepsWays
  | license h => exact Or.inr (touched_of_license ht h).keepsWays

/-- **A step changes its territory alone**, and no file of the template. -/
theorem confined_of_step {s : Settings} {year : Int} {step : Step} {fs fs' : FileSystem}
    {actions : List Action} {x : Option Toml.Excess} {dir : Location} (hp : Plain s fs)
    (hd : fs.Leads s.target dir .directory) (h : StepEnding s year step fs fs' actions x) :
    Confined s dir (territory step.name) fs fs' := by
  have hterritory := subset_territories h.name_mem
  have htemplate := templateStays_of_step hp.tree h
  cases h with
  | @copy sourceName name fs fs' action hc h =>
    have htouched := touched_of_copy hc hp.tree ⟨dir, hd⟩ h
    have hself : [name] ⊆ territory name := by simpa using mem_territory_of_copies hc
    have hreplaceable : replaceable s [name] ⊆ territory name :=
      List.Subset.trans (replaceable_subset_self s _) hself
    exact confined_of_touched hp hd
      (htouched.mono hreplaceable hself (directories_subset_territory hc)) hterritory htemplate
  | readme h =>
    have htouched := touched_of_readme hp.tree h
    have hself : [readmeFile] ⊆ territory readmeFile := by decide
    exact confined_of_touched hp hd (htouched.mono hself (by simp) (by simp)) hterritory htemplate
  | header h =>
    have htouched := touched_of_header hp.tree h
    have hself : [libraryRoot, programRoot] ⊆ territory libraryRoot := by decide
    exact confined_of_touched hp hd (htouched.mono hself (by simp) (by simp)) hterritory htemplate
  | license h =>
    have htouched := touched_of_license hp.tree h
    have hself : [licenseFile] ⊆ territory licenseFile := by decide
    have hreplaceable : replaceable s [licenseFile] ++ [manifestFile] ⊆ territory licenseFile :=
      List.append_subset.mpr ⟨List.Subset.trans (replaceable_subset_self s _) hself, by decide⟩
    exact confined_of_touched hp hd (htouched.mono hreplaceable hself (by simp)) hterritory htemplate

/-! ## Making directories -/

section

variable {s : Settings} {dir : Location} {fs : FileSystem}

/-- The directories above a file that is copied are there once they are made. -/
theorem node_of_made {c : Text × Text} (hc : c ∈ copies) {fs₁ : FileSystem}
    (hr : fs₁.Rooted s.target dir)
    (hm : fs.Made s.target (namesOf c.2).dropLast (fs₁, .ok ())) :
    fs₁.node? (dir ++ (namesOf c.2).dropLast) = some .directory := by
  have hrel := isRelative_of_crateFiles _ (mem_crateFiles_of_copies hc)
  obtain ⟨loc, hl⟩ : ∃ loc, fs₁.Leads (s.target.onward (namesOf c.2).dropLast) loc .directory := by
    cases hm with
    | there loc h => exact ⟨loc, h⟩
    | made _ loc h => exact ⟨loc, h.leads⟩
  by_cases hne : (namesOf c.2).dropLast = []
  · rw [hne, List.append_nil]
    exact hr.leads.stands hr.tree
  · have hlast : (namesOf c.2).dropLast <+: namesOf c.2 := List.dropLast_prefix _
    obtain ⟨-, rfl, hnode⟩ := (hr.leads_iff (hrel.plain.shorter hne hlast)).mp hl
    exact hnode

/-- Making the directories above a file that is copied changes nothing else. -/
theorem confined_of_made {c : Text × Text} (hc : c ∈ copies) {fs₁ : FileSystem}
    {r : Except SystemError Unit} (hp : Plain s fs) (hd : fs.Leads s.target dir .directory)
    (hs : fs.isFile (s.template.along c.1) = .ok true)
    (hm : fs.Made s.target (namesOf c.2).dropLast (fs₁, r)) :
    Confined s dir (directoriesOf c.2) fs fs₁ := by
  have hdirs := List.Subset.trans (directories_subset_territory hc)
    (subset_territories (mem_stepNames_of_copies hc))
  have htouched := touched_of_made hc hp.tree hm
  exact confined_of_touched hp hd (htouched.mono (by simp) (by simp) (by simp)) hdirs
    (Or.inl (exists_template_of_isFile (mem_templateFiles_of_copies hc) hs))

end

/-! ## Steps between other steps -/

section

variable {s : Settings} {year : Int} {dir : Location} {fs fs' : FileSystem}

/-- Steps change their territories alone. -/
theorem confined_of_chain {some_ : List Step} {report : Report} {x : Option Toml.Excess}
    {names : List Text} (hn : ∀ step ∈ some_, step.name ∈ stepNames → territory step.name ⊆ names)
    (h : Chain s year some_ fs fs' report x) (hp : Plain s fs)
    (hd : fs.Leads s.target dir .directory) : Confined s dir names fs fs' := by
  refine h.preserves (R := fun fs fs' => Plain s fs → fs.Leads s.target dir .directory →
    Confined s dir names fs fs') ?_ ?_ ?_ hp hd
  · exact fun fs hp hd => .refl hp hd
  · intro fs₁ fs₂ fs₃ h h' hp hd
    have h₁ := h hp hd
    exact h₁.trans (h' h₁.plain h₁.leads)
  · intro step hs fs fs' actions x he hp hd
    exact (confined_of_step hp hd he).mono (hn step hs he.name_mem)

/-- A look-up in the crate is the same where nothing has changed along its names. -/
theorem Confined.lookup_eq {names : List Text} {name : Text} (h : Confined s dir names fs fs')
    (hp : Plain s fs) (hd : fs.Leads s.target dir .directory) (hname : IsRelative name)
    (hn : ∀ some_ ∈ (namesOf name).inits, some_ ≠ [] → ∀ other ∈ names, namesOf other ≠ some_)
    (purpose : Purpose) :
    fs'.lookup purpose (s.target.along name) = fs.lookup purpose (s.target.along name) :=
  lookup_eq_of_within (hp.rooted hd) (h.plain.rooted h.leads) h.within hname hn purpose

/-- What the other steps change leaves the look-ups of a step in the crate alone. -/
theorem Confined.lookup_of_other {step name : Text}
    (h : Confined s dir (otherTerritory step) fs fs') (hp : Plain s fs)
    (hd : fs.Leads s.target dir .directory) (hstep : step ∈ stepNames) (hn : name ∈ territory step)
    (purpose : Purpose) :
    fs'.lookup purpose (s.target.along name) = fs.lookup purpose (s.target.along name) :=
  h.lookup_eq hp hd (isRelative_of_territories name (subset_territories hstep hn))
    (not_mem_otherTerritory step hstep name hn) purpose

/-- What the other steps change leaves the nodes along the names of a step alone. -/
theorem Confined.agree_of_other {step name : Text}
    (h : Confined s dir (otherTerritory step) fs fs') (hstep : step ∈ stepNames)
    (hn : name ∈ territory step) : fs.AgreeAlong fs' dir (namesOf name) :=
  agreeAlong_of_within h.within (not_mem_otherTerritory step hstep name hn)

/-- What the other steps change leaves the nodes of a step alone. -/
theorem Confined.node_of_other {step name : Text}
    (h : Confined s dir (otherTerritory step) fs fs') (hstep : step ∈ stepNames)
    (hn : name ∈ territory step) :
    fs'.node? (dir ++ namesOf name) = fs.node? (dir ++ namesOf name) := by
  have hne := (isRelative_of_territories name (subset_territories hstep hn)).plain.ne_nil
  exact h.agree_of_other hstep hn _ hne (List.prefix_refl _)

/-- A step of a chain, between the steps before it and those behind it, if it does not stop them. -/
structure Amid (s : Settings) (year : Int) (some_ : List Step) (fs fs' : FileSystem) (step : Step)
    (fs₁ fs₂ : FileSystem) (actions : List Action) : Prop where
  ends : ∃ x, StepEnding s year step fs₁ fs₂ actions x
  around : ∃ before after, some_ = before ++ step :: after
    ∧ (∃ report, Chain s year before fs fs₁ report none)
    ∧ (fs' = fs₂ ∨ ∃ report x, Chain s year after fs₂ fs' report x)

theorem Amid.next {first step : Step} {rest : List Step} {fs₀ fs₁ fs₂ : FileSystem}
    {actions others : List Action} (hfirst : StepEnding s year first fs₀ fs others none)
    (h : Amid s year rest fs fs' step fs₁ fs₂ actions) :
    Amid s year (first :: rest) fs₀ fs' step fs₁ fs₂ actions := by
  obtain ⟨before, after, rfl, ⟨report, hbefore⟩, hafter⟩ := h.around
  exact ⟨h.ends, first :: before, after, rfl, ⟨_, .next hfirst hbefore⟩, hafter⟩

/-- The license is the last of some steps, if it is one of them. -/
def LicenseLast (some_ : List Step) : Prop :=
  ∀ names ∈ (some_.map Step.name).tails, names.head? = some licenseFile → names.tail = []

theorem LicenseLast.rest {first : Step} {rest : List Step} (h : LicenseLast (first :: rest)) :
    LicenseLast rest := by
  intro names hn
  refine h names ?_
  rw [List.map_cons, List.tails_cons]
  exact List.mem_cons_of_mem _ hn

/-- Every step of a chain that only the last can stop is one between others. -/
theorem Chain.amid_of_step {some_ : List Step} {report : Report} {x : Option Toml.Excess}
    (h : Chain s year some_ fs fs' report x) (hlast : LicenseLast some_) {step : Step}
    (hs : step ∈ some_) : ∃ fs₁ fs₂ actions, Amid s year some_ fs fs' step fs₁ fs₂ actions := by
  induction h with
  | done fs => exact absurd hs (by simp)
  | next he hrest ih =>
    rcases List.mem_cons.mp hs with rfl | hs
    · exact ⟨_, _, _, ⟨_, he⟩, [], _, rfl, ⟨_, .done _⟩, Or.inr ⟨_, _, hrest⟩⟩
    · obtain ⟨fs₁, fs₂, actions, hamid⟩ := ih hlast.rest hs
      exact ⟨fs₁, fs₂, actions, hamid.next he⟩
  | @stopped first rest fs fs₁ actions e he =>
    rcases List.mem_cons.mp hs with rfl | hs
    · exact ⟨_, _, _, ⟨_, he⟩, [], _, rfl, ⟨_, .done _⟩, Or.inl rfl⟩
    · -- a step that stops the others is the last, so that there is none behind it
      have hnone := hlast ((first :: rest).map Step.name) (by simp)
        (by simp [he.name_of_stop])
      obtain rfl : rest = [] := by simpa using hnone
      exact absurd hs (by simp)

/-- Every action of a chain is one of a step between others. -/
theorem Chain.amid_of_action {some_ : List Step} {report : Report} {x : Option Toml.Excess}
    (h : Chain s year some_ fs fs' report x) {action : Action} (ha : action ∈ report) :
    ∃ step fs₁ fs₂ actions, action ∈ actions ∧ Amid s year some_ fs fs' step fs₁ fs₂ actions := by
  induction h with
  | done fs => exact absurd ha (by simp)
  | next he hrest ih =>
    rcases List.mem_append.mp ha with ha | ha
    · exact ⟨_, _, _, _, ha, ⟨_, he⟩, [], _, rfl, ⟨_, .done _⟩, Or.inr ⟨_, _, hrest⟩⟩
    · obtain ⟨step, fs₁, fs₂, actions, hin, hamid⟩ := ih ha
      exact ⟨step, fs₁, fs₂, actions, hin, hamid.next he⟩
  | stopped he => exact ⟨_, _, _, _, ha, ⟨_, he⟩, [], _, rfl, ⟨_, .done _⟩, Or.inl rfl⟩

theorem names_of_steps (s : Settings) (year : Int) : (steps s year).map Step.name = stepNames := rfl

theorem licenseLast_steps (s : Settings) (year : Int) : LicenseLast (steps s year) := by
  unfold LicenseLast
  rw [names_of_steps]
  decide

/-- A step of a run, which takes the files from `fs₁` to `fs₂`, among others that leave its territory
alone. -/
structure Undisturbed (s : Settings) (year : Int) (dir : Location) (fs fs' : FileSystem) (step : Step)
    (fs₁ fs₂ : FileSystem) (actions : List Action) : Prop where
  plain : Plain s fs
  leads : fs.Leads s.target dir .directory
  ends : ∃ x, StepEnding s year step fs₁ fs₂ actions x
  before : Confined s dir (otherTerritory step.name) fs fs₁
  own : Confined s dir (territory step.name) fs₁ fs₂
  after : Confined s dir (otherTerritory step.name) fs₂ fs'

theorem nodup_stepNames : stepNames.Nodup := by
  decide

/-- Where no two steps have one name, the territories of those around a step are not its own. -/
theorem territory_subset_other {some_ before after : List Step} {step : Step}
    (hnodup : (some_.map Step.name).Nodup) (heq : some_ = before ++ step :: after) {other : Step}
    (ho : other ∈ before ++ after) (hin : other.name ∈ stepNames) :
    territory other.name ⊆ otherTerritory step.name := by
  rw [heq, List.map_append, List.map_cons, List.nodup_append, List.nodup_cons] at hnodup
  obtain ⟨-, ⟨hlater, -⟩, hearlier⟩ := hnodup
  intro name hname
  refine List.mem_flatMap.mpr ⟨other.name, List.mem_filter.mpr ⟨hin, ?_⟩, hname⟩
  rw [bne_iff_ne]
  intro heq
  rcases List.mem_append.mp ho with ho | ho
  · exact hearlier _ (List.mem_map_of_mem ho) step.name (by simp) heq
  · exact hlater (heq ▸ List.mem_map_of_mem ho)

/-- **The steps around a step leave its territory alone.** -/
theorem Amid.undisturbed {step : Step} {fs₁ fs₂ : FileSystem} {actions : List Action}
    (h : Amid s year (steps s year) fs fs' step fs₁ fs₂ actions) (hp : Plain s fs)
    (hd : fs.Leads s.target dir .directory) :
    Undisturbed s year dir fs fs' step fs₁ fs₂ actions := by
  obtain ⟨before, after, heq, ⟨report, hbefore⟩, hafter⟩ := h.around
  obtain ⟨x, hends⟩ := h.ends
  have hother := fun other => @territory_subset_other _ before after step
    ((names_of_steps s year).symm ▸ nodup_stepNames) heq other
  have h₁ := confined_of_chain (fun other ho => hother other (List.mem_append_left _ ho)) hbefore
    hp hd
  have hown := confined_of_step h₁.plain h₁.leads hends
  refine ⟨hp, hd, h.ends, h₁, hown, ?_⟩
  rcases hafter with rfl | ⟨report', x, hafter⟩
  · exact .refl hown.plain hown.leads
  · exact confined_of_chain (fun other ho => hother other (List.mem_append_right _ ho)) hafter
      hown.plain hown.leads

/-- Every step of a run is undisturbed by the others. -/
theorem undisturbed_of_name {report : Report} {x : Option Toml.Excess} (hp : Plain s fs)
    (hd : fs.Leads s.target dir .directory) (h : Chain s year (steps s year) fs fs' report x)
    {name : Text} (hname : name ∈ stepNames) :
    ∃ step fs₁ fs₂ actions, step.name = name
      ∧ Undisturbed s year dir fs fs' step fs₁ fs₂ actions := by
  rw [← names_of_steps s year] at hname
  obtain ⟨step, hstep, rfl⟩ := List.mem_map.mp hname
  obtain ⟨fs₁, fs₂, actions, hamid⟩ := h.amid_of_step (licenseLast_steps s year) hstep
  exact ⟨step, fs₁, fs₂, actions, rfl, hamid.undisturbed hp hd⟩

/-- Every action of a run is one of a step that is undisturbed by the others. -/
theorem undisturbed_of_action {report : Report} {x : Option Toml.Excess} (hp : Plain s fs)
    (hd : fs.Leads s.target dir .directory) (h : Chain s year (steps s year) fs fs' report x)
    {action : Action} (ha : action ∈ report) :
    ∃ step fs₁ fs₂ actions, action ∈ actions
      ∧ Undisturbed s year dir fs fs' step fs₁ fs₂ actions := by
  obtain ⟨step, fs₁, fs₂, actions, hin, hamid⟩ := h.amid_of_action ha
  exact ⟨step, fs₁, fs₂, actions, hin, hamid.undisturbed hp hd⟩

section

variable {step : Step} {fs₁ fs₂ : FileSystem} {actions : List Action} {name : Text}

theorem Undisturbed.name_mem (h : Undisturbed s year dir fs fs' step fs₁ fs₂ actions) :
    step.name ∈ stepNames := by
  obtain ⟨x, hends⟩ := h.ends
  exact hends.name_mem

/-- A step looks up in its territory what was there when the run began. -/
theorem Undisturbed.lookup_before (h : Undisturbed s year dir fs fs' step fs₁ fs₂ actions)
    (hn : name ∈ territory step.name) (purpose : Purpose) :
    fs₁.lookup purpose (s.target.along name) = fs.lookup purpose (s.target.along name) :=
  h.before.lookup_of_other h.plain h.leads h.name_mem hn purpose

/-- What a step leaves in its territory is there when the run ends. -/
theorem Undisturbed.lookup_after (h : Undisturbed s year dir fs fs' step fs₁ fs₂ actions)
    (hn : name ∈ territory step.name) (purpose : Purpose) :
    fs'.lookup purpose (s.target.along name) = fs₂.lookup purpose (s.target.along name) :=
  h.after.lookup_of_other h.own.plain h.own.leads h.name_mem hn purpose

theorem Undisturbed.node_before (h : Undisturbed s year dir fs fs' step fs₁ fs₂ actions)
    (hn : name ∈ territory step.name) :
    fs₁.node? (dir ++ namesOf name) = fs.node? (dir ++ namesOf name) :=
  h.before.node_of_other h.name_mem hn

theorem Undisturbed.node_after (h : Undisturbed s year dir fs fs' step fs₁ fs₂ actions)
    (hn : name ∈ territory step.name) :
    fs'.node? (dir ++ namesOf name) = fs₂.node? (dir ++ namesOf name) :=
  h.after.node_of_other h.name_mem hn

end

end

end CrateSync.Sync
