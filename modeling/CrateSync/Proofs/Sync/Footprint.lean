/-
# The footprint of a run

Which nodes a run touches, whatever links there are.  A step changes or adds only the file that the
name of one of its files leads to afterwards, and directories for the workflow; a name keeps leading
where it led, so this can be said of the end of the whole run (`Touched`).

* `touched_of_step` : the footprint of each step, as the settings allow files to be overwritten;
* `run_writes_crate_files_only` : whatever links there are, nothing is lost, and what is new or changed
  is a file or directory of the crate;
* `run_keeps_unpatched_files` : without leave to overwrite, every file stays as it is but for those
  that are patched.
-/
import Mathlib.Data.List.Infix
import CrateSync.Proofs.Sync.Chain

namespace CrateSync.Sync

open FileSystem

/-! ## The names of the files of a crate -/

/-- The names of the directories that may be made. -/
def workflowDirectories : List Text := [".github", ".github/workflows"]

/-- The names of the files that are patched: they keep what they hold. -/
def patchedFiles : List Text := [readmeFile, libraryRoot, programRoot, manifestFile]

/-- The names of all files that a run may write in a crate. -/
def crateFiles : List Text :=
  copies.map Prod.snd ++ [licenseFile] ++ patchedFiles

/-- The names of all files of a template. -/
def templateFiles : List Text :=
  copies.map Prod.fst ++ [headerTemplate]

/-- The names that lead to a file or directory of a crate or a template. -/
def namesOf (name : Text) : List Text := (Path.ofText name).names

/-- A name leads on from a directory along plain names. -/
structure IsRelative (name : Text) : Prop where
  anchor : (Path.ofText name).anchor = .relative
  plain : ArePlain (namesOf name)

instance (name : Text) : Decidable (IsRelative name) :=
  decidable_of_iff ((Path.ofText name).anchor = .relative ∧ ArePlain (namesOf name))
    ⟨fun h => ⟨h.1, h.2⟩, fun h => ⟨h.1, h.2⟩⟩

theorem isRelative_of_crateFiles : ∀ name ∈ crateFiles, IsRelative name := by
  decide

theorem isRelative_of_templateFiles : ∀ name ∈ templateFiles, IsRelative name := by
  decide

/-- A path along a relative name goes on along its names. -/
theorem IsRelative.along_eq {name : Text} (h : IsRelative name) (p : Path) :
    p.along name = p.onward (namesOf name) :=
  p.along_eq_onward h.anchor

/-- A file stands in the directory that all names but the last lead to. -/
theorem IsRelative.parent_along {name : Text} (h : IsRelative name) (p : Path) :
    (p.along name).parent = p.onward (namesOf name).dropLast := by
  rw [h.along_eq p, Path.parent, Path.onward, Path.onward,
    List.dropLast_append_of_ne_nil h.plain.ne_nil]

theorem mem_crateFiles_of_copies {c : Text × Text} (h : c ∈ copies) : c.2 ∈ crateFiles := by
  simp only [crateFiles, List.append_assoc, List.mem_append, List.mem_map]
  exact Or.inl ⟨c, h, rfl⟩

theorem mem_crateFiles_of_patched {name : Text} (h : name ∈ patchedFiles) : name ∈ crateFiles := by
  simp only [crateFiles, List.mem_append]
  exact Or.inr h

/-- The names of the directories for the workflow that a file of a crate lies in. -/
def directoriesOf (name : Text) : List Text :=
  workflowDirectories.filter fun d => (namesOf d).isPrefixOf (namesOf name)

/-- Every directory between the crate and a file that is copied is one for the workflow. -/
theorem copies_directories {c : Text × Text} (h : c ∈ copies) {some_ : List Text}
    (hne : some_ ≠ []) (hs : some_ <+: (namesOf c.2).dropLast) :
    ∃ d ∈ directoriesOf c.2, ∀ p : Path, p.along d = p.onward some_ := by
  have hall : ∀ c ∈ copies, ∀ some_ ∈ (namesOf c.2).dropLast.inits, some_ = []
      ∨ ∃ d ∈ directoriesOf c.2, (Path.ofText d).anchor = .relative ∧ namesOf d = some_ := by
    decide
  rcases hall c h some_ ((List.mem_inits _ _).mpr hs) with rfl | ⟨d, hd, hrel, rfl⟩
  · exact absurd rfl hne
  · exact ⟨d, hd, fun p => p.along_eq_onward hrel⟩

/-! ## Footprints -/

/-- Between two states of the files a run touched nothing but these: a changed node is a file that one
of the names in `mayChange` leads to now, or is new and a file that one of the names in `mayAdd` leads
to now, or is new and a directory that one of the names in `mayMake` leads to now. -/
structure Touched (s : Settings) (mayChange mayAdd mayMake : List Text) (fs fs' : FileSystem) :
    Prop where
  tree : fs'.IsTree
  grows : fs.Grows fs'
  changed : ∀ loc, fs'.node? loc ≠ fs.node? loc →
    (∃ name ∈ mayChange, ∃ content, fs'.Leads (s.target.along name) loc (.file content))
      ∨ fs.node? loc = none
        ∧ ((∃ name ∈ mayAdd, ∃ content, fs'.Leads (s.target.along name) loc (.file content))
          ∨ ∃ name ∈ mayMake, fs'.Leads (s.target.along name) loc .directory)

section

variable {s : Settings} {mayChange mayAdd mayMake mayChange' mayAdd' mayMake' : List Text}
  {fs fs₁ fs₂ fs₃ fs' : FileSystem}

theorem Touched.refl (ht : fs.IsTree) : Touched s mayChange mayAdd mayMake fs fs :=
  ⟨ht, .refl fs, fun _ h => absurd rfl h⟩

/-- A footprint is a footprint also as seen from a later state. -/
theorem Touched.trans (h : Touched s mayChange mayAdd mayMake fs₁ fs₂)
    (h' : Touched s mayChange mayAdd mayMake fs₂ fs₃) :
    Touched s mayChange mayAdd mayMake fs₁ fs₃ := by
  refine ⟨h'.tree, h.grows.trans h'.grows, fun loc hloc => ?_⟩
  by_cases hlast : fs₃.node? loc = fs₂.node? loc
  · -- a name leads where it led, since nothing is lost as the tree grows
    rw [hlast] at hloc
    rcases h.changed loc hloc with ⟨name, hn, content, hl⟩
      | ⟨hnone, ⟨name, hn, content, hl⟩ | ⟨name, hn, hl⟩⟩
    · obtain ⟨content', hl'⟩ := hl.file h.tree h'.grows
      exact Or.inl ⟨name, hn, content', hl'⟩
    · obtain ⟨content', hl'⟩ := hl.file h.tree h'.grows
      exact Or.inr ⟨hnone, Or.inl ⟨name, hn, content', hl'⟩⟩
    · exact Or.inr ⟨hnone, Or.inr ⟨name, hn, hl.directory h.tree h'.grows.keepsWays⟩⟩
  · exact (h'.changed loc hlast).imp_right fun ⟨hnone, hnew⟩ => ⟨h.grows.vacant hnone, hnew⟩

theorem Touched.mono (h : Touched s mayChange mayAdd mayMake fs fs') (hc : mayChange ⊆ mayChange')
    (ha : mayAdd ⊆ mayAdd') (hm : mayMake ⊆ mayMake') :
    Touched s mayChange' mayAdd' mayMake' fs fs' := by
  refine ⟨h.tree, h.grows, fun loc hloc => ?_⟩
  rcases h.changed loc hloc with ⟨name, hn, hl⟩ | ⟨hnone, ⟨name, hn, hl⟩ | ⟨name, hn, hl⟩⟩
  · exact Or.inl ⟨name, hc hn, hl⟩
  · exact Or.inr ⟨hnone, Or.inl ⟨name, ha hn, hl⟩⟩
  · exact Or.inr ⟨hnone, Or.inr ⟨name, hm hn, hl⟩⟩

/-- Filling a file touches that file alone. -/
theorem Touched.of_fills {name : Text} {content : Octets} {loc : Location}
    (h : fs.Fills (s.target.along name) content fs' loc) : Touched s [name] [] [] fs fs' := by
  refine ⟨h.tree, h.grows, fun other hother => ?_⟩
  rw [h.node] at hother
  by_cases ho : other = loc
  · subst ho
    exact Or.inl ⟨name, by simp, content, h.leads⟩
  · rw [if_neg ho] at hother
    exact absurd rfl hother

/-- Filling a file that nothing led to adds that file alone. -/
theorem Touched.of_fills_new (ht : fs.IsTree) {name : Text} {content : Octets} {loc : Location}
    (h : fs.Fills (s.target.along name) content fs' loc)
    (hnew : ∀ old, ¬fs.Leads (s.target.along name) loc (.file old)) :
    Touched s [] [name] [] fs fs' := by
  refine ⟨h.tree, h.grows, fun other hother => ?_⟩
  rw [h.node] at hother
  by_cases ho : other = loc
  · subst ho
    -- the place may be one that a link leads to, so that only the look-up tells that it is new
    rcases h.vacant_or_file ht with hnone | ⟨old, hold⟩
    · exact Or.inr ⟨hnone, Or.inl ⟨name, by simp, content, h.leads⟩⟩
    · exact absurd hold (hnew old)
  · rw [if_neg ho] at hother
    exact absurd rfl hother

/-- Making the directories above a file that is copied adds directories for the workflow alone. -/
theorem Touched.of_makes {c : Text × Text} (hc : c ∈ copies) {loc : Location}
    (h : fs.Makes s.target (namesOf c.2).dropLast fs' loc) :
    Touched s [] [] (directoriesOf c.2) fs fs' := by
  refine ⟨h.tree, h.grows, fun other hother => ?_⟩
  obtain ⟨hnone, -, some_, hne, hpre, hl⟩ := h.changed other hother
  obtain ⟨d, hd, halong⟩ := copies_directories hc hne hpre
  exact Or.inr ⟨hnone, Or.inr ⟨d, hd, (halong s.target).symm ▸ hl⟩⟩

end

/-! ## The footprint of each step -/

/-- The crate is a directory. -/
def HasCrate (s : Settings) (fs : FileSystem) : Prop :=
  ∃ dir, fs.Leads s.target dir .directory

theorem HasCrate.grows {s : Settings} {fs fs' : FileSystem} (ht : fs.IsTree) (hg : fs.Grows fs')
    (h : HasCrate s fs) : HasCrate s fs' := by
  obtain ⟨dir, hd⟩ := h
  exact ⟨dir, hd.directory ht hg.keepsWays⟩

/-- A crate with a manifest is a directory. -/
theorem hasCrate_of_isFile {s : Settings} {fs : FileSystem} {name : Text} (hn : name ∈ crateFiles)
    (h : fs.isFile (s.target.along name) = .ok true) : HasCrate s fs := by
  obtain ⟨loc, content, hl⟩ := isFile_iff.mp h
  have hname := isRelative_of_crateFiles name hn
  rw [hname.along_eq] at hl
  exact exists_leads_directory hname.plain.not_blank hl.location

/-- The files that may be overwritten where they may be filled. -/
def replaceable (s : Settings) (names : List Text) : List Text :=
  if s.force then names else []

theorem replaceable_subset_self (s : Settings) (names : List Text) : replaceable s names ⊆ names := by
  unfold replaceable
  cases s.force <;> simp

/-- Filling a file adds it, or overwrites it with leave. -/
theorem touched_of_fills {s : Settings} {fs fs' : FileSystem} (ht : fs.IsTree)
    {name : Text} {content : Octets} {loc : Location} {existed : Bool}
    (h : fs.Fills (s.target.along name) content fs' loc)
    (he : fs.exists? (s.target.along name) = .ok existed) (hf : existed = true → s.force = true) :
    Touched s (replaceable s [name]) [name] [] fs fs' := by
  cases existed with
  | true =>
    rw [replaceable, if_pos (hf rfl)]
    exact (Touched.of_fills h).mono (by simp) (by simp) (by simp)
  | false =>
    have htouched := Touched.of_fills_new ht h fun old => not_leads_of_exists he loc _
    exact htouched.mono (by simp) (by simp) (by simp)

/-- What making the directories above a file that is copied comes to. -/
theorem made_of_copies {s : Settings} {c : Text × Text} (hc : c ∈ copies) {fs : FileSystem}
    {dir : Location} (ht : fs.IsTree) (hd : fs.Leads s.target dir .directory) :
    fs.Made s.target (namesOf c.2).dropLast
      (fs.makeDirectories (s.target.along c.2).parent) := by
  have hrel := isRelative_of_crateFiles _ (mem_crateFiles_of_copies hc)
  rw [hrel.parent_along]
  exact made_makeDirectories ht hd fun part hp => hrel.plain.each part (List.dropLast_subset _ hp)

/-- Making directories touches directories for the workflow alone. -/
theorem touched_of_made {s : Settings} {c : Text × Text} (hc : c ∈ copies) {fs fs₁ : FileSystem}
    {r : Except SystemError Unit} (ht : fs.IsTree)
    (h : fs.Made s.target (namesOf c.2).dropLast (fs₁, r)) :
    Touched s [] [] (directoriesOf c.2) fs fs₁ := by
  cases h with
  | failed e some_ hne hpre h => exact .refl ht
  | there loc h => exact .refl ht
  | made _ loc h => exact .of_makes hc h

/-- Nothing stands yet in the directory that was made for a file. -/
theorem vacant_of_makes {p : Path} {name : Text} (hn : name ∈ crateFiles) {fs fs₁ : FileSystem}
    {loc : Location} (ht : fs.IsTree) (h : fs.Makes p (namesOf name).dropLast fs₁ loc)
    (ho : ¬IsOverlong (p.along name)) (purpose : Purpose) :
    ∃ place, fs₁.lookup purpose (p.along name) = .vacant place := by
  have hname := isRelative_of_crateFiles name hn
  have hne := hname.plain.ne_nil
  have hlast := List.dropLast_concat_getLast hne
  have hpath : p.along name
      = (p.onward (namesOf name).dropLast).onward [(namesOf name).getLast hne] := by
    rw [hname.along_eq, Path.onward_onward, hlast]
  rw [hpath] at ho ⊢
  obtain ⟨m, hlook⟩ :=
    lookup_child h.leads (hname.plain.each _ (List.getLast_mem hne)) ho purpose
  rw [h.empty ht] at hlook
  exact ⟨_, hlook⟩

/-- A file that did not exist does not exist in the directory that was made for it either. -/
theorem not_leads_of_made {p : Path} {name : Text} (hn : name ∈ crateFiles)
    {fs fs₁ : FileSystem} {r : Except SystemError Unit} (ht : fs.IsTree)
    (h : fs.Made p (namesOf name).dropLast (fs₁, r)) (he : fs.exists? (p.along name) = .ok false)
    (place : Location) (node : Node) : ¬fs₁.Leads (p.along name) place node := by
  cases h with
  | failed e some_ hne hpre h => exact not_leads_of_exists he place node
  | there loc h => exact not_leads_of_exists he place node
  | made _ loc h =>
    intro hl
    obtain ⟨vacant, hlook⟩ :=
      vacant_of_makes hn ht h (not_isOverlong_of_location hl.location) .follow
    exact absurd (Eq.trans (Eq.symm hlook) hl) (by simp)

/-- Copying a file touches that file, which it adds unless files may be overwritten. -/
theorem touched_of_copy {s : Settings} {sourceName name : Text} {fs fs' : FileSystem}
    {action : Action} (hc : (sourceName, name) ∈ copies) (ht : fs.IsTree) (hcrate : HasCrate s fs)
    (h : CopyEnding s sourceName name fs fs' action) :
    Touched s (replaceable s [name]) [name] (directoriesOf name) fs fs' := by
  obtain ⟨dir, hdir⟩ := hcrate
  have hname : name ∈ crateFiles := mem_crateFiles_of_copies hc
  have hmade := made_of_copies hc ht hdir
  cases h with
  | unasked e h => exact .refl ht
  | noSource h => exact .refl ht
  | unseen e hs h => exact .refl ht
  | kept hs h hf => exact .refl ht
  | noDirectory existed _ e hs h hf hm =>
    rw [hm] at hmade
    exact (touched_of_made hc ht hmade).mono (by simp) (by simp) (by simp)
  | notCopied existed _ e hs h hf hm hcopy =>
    rw [hm] at hmade
    exact (touched_of_made hc ht hmade).mono (by simp) (by simp) (by simp)
  | copied existed fs₁ _ hs h hf hm hcopy =>
    rw [hm] at hmade
    have hdirs := touched_of_made hc ht hmade
    obtain ⟨content, loc, -, hfill⟩ := fills_of_copy hdirs.tree hcopy
    refine (hdirs.mono (by simp) (by simp) (by simp)).trans ?_
    cases existed with
    | true =>
      rw [replaceable, if_pos (hf rfl)]
      exact (Touched.of_fills hfill).mono (by simp) (by simp) (by simp)
    | false =>
      refine (Touched.of_fills_new hdirs.tree hfill fun old => ?_).mono (by simp) (by simp) (by simp)
      exact not_leads_of_made hname ht hmade h loc _

/-- Pointing out the instructions touches the readme. -/
theorem touched_of_readme {s : Settings} {fs fs' : FileSystem} {action : Action} (ht : fs.IsTree)
    (h : ReadmeEnding s fs fs' action) : Touched s [readmeFile] [] [] fs fs' := by
  cases h with
  | made _ he hw =>
    obtain ⟨loc, hfill⟩ := fills_of_write ht hw
    exact .of_fills hfill
  | patched t updated _ hr hp hw =>
    obtain ⟨loc, hfill⟩ := fills_of_write ht hw
    exact .of_fills hfill
  | unseen | notMade | unread | linked | notWritten => exact .refl ht

theorem rootSource_mem {s : Settings} {fs : FileSystem} {name : Text}
    (h : rootSource s fs = .ok (some name)) : name ∈ [libraryRoot, programRoot] := by
  rcases rootSource_eq_some.mp h with ⟨rfl, -⟩ | ⟨rfl, -⟩
  · simp
  · simp

theorem rootSource_mem_crateFiles {s : Settings} {fs : FileSystem} {name : Text}
    (h : rootSource s fs = .ok (some name)) : name ∈ crateFiles := by
  refine mem_crateFiles_of_patched (List.mem_cons_of_mem _ ?_)
  exact List.mem_append_left [manifestFile] (rootSource_mem h)

/-- Appending the header touches the root source file. -/
theorem touched_of_header {s : Settings} {fs fs' : FileSystem} {action : Action} (ht : fs.IsTree)
    (h : HeaderEnding s fs fs' action) : Touched s [libraryRoot, programRoot] [] [] fs fs' := by
  cases h with
  | appended name existing header updated _ h hr hh hp hw =>
    obtain ⟨loc, hfill⟩ := fills_of_write ht hw
    exact (Touched.of_fills hfill).mono (by simpa using rootSource_mem h) (by simp) (by simp)
  | unasked | noRoot | unseen | noHeader | unread | headerUnread | present | notWritten =>
    exact .refl ht

/-- Making the manifest agree with a license touches the manifest. -/
theorem touched_of_manifest {s : Settings} {mode : LicenseMode} {fs fs' : FileSystem}
    {actions : List Action} {x : Option Toml.Excess} (ht : fs.IsTree)
    (h : ManifestEnding s mode fs fs' actions x) : Touched s [manifestFile] [] [] fs fs' := by
  cases h with
  | edited manifest updated _ hr hm hw =>
    obtain ⟨loc, hfill⟩ := fills_of_write ht hw
    exact .of_fills hfill
  | unread | excess | refused | agreed | notWritten => exact .refl ht

/-- Writing the notice touches the manifest and the notice, which it adds unless files may be
overwritten. -/
theorem touched_of_license {s : Settings} {year : Int} {fs fs' : FileSystem}
    {actions : List Action} {x : Option Toml.Excess} (ht : fs.IsTree)
    (h : LicenseEnding s year fs fs' actions x) :
    Touched s (replaceable s [licenseFile] ++ [manifestFile]) [licenseFile] [] fs fs' := by
  cases h with
  | emptied license existed u _ h he hf hu hw =>
    obtain ⟨loc, hfill⟩ := fills_of_write ht hw
    exact (touched_of_fills ht hfill he hf).mono (by simp) (by simp) (by simp)
  | written license existed octets fs₁ _ actions _ h he hf ho hw hm =>
    obtain ⟨loc, hfill⟩ := fills_of_write ht hw
    refine ((touched_of_fills ht hfill he hf).mono (by simp) (by simp) (by simp)).trans ?_
    exact (touched_of_manifest hfill.tree hm).mono (by simp) (by simp) (by simp)
  | unlicensed | unseen | kept | notWritten => exact .refl ht

/-- The files that a run may overwrite: those that are patched, and with leave those that are copied and
the notice. -/
def changeable (s : Settings) : List Text :=
  replaceable s (copies.map Prod.snd ++ [licenseFile]) ++ patchedFiles

/-- The files that a run may add without overwriting any. -/
def addable : List Text := copies.map Prod.snd ++ [licenseFile]

theorem replaceable_subset {s : Settings} {names : List Text}
    (h : names ⊆ copies.map Prod.snd ++ [licenseFile]) : replaceable s names ⊆ changeable s := by
  refine fun name hn => List.mem_append_left _ ?_
  unfold replaceable at hn ⊢
  cases hf : s.force with
  | false => simp [hf] at hn
  | true =>
    rw [hf, if_pos rfl] at hn
    simpa [hf] using h hn

theorem patched_subset {s : Settings} {names : List Text} (h : names ⊆ patchedFiles) :
    names ⊆ changeable s :=
  fun _ hn => List.mem_append_right _ (h hn)

/-- **The footprint of a step** lies in what a run may overwrite and add. -/
theorem touched_of_step {s : Settings} {year : Int} {step : Step} {fs fs' : FileSystem}
    {actions : List Action} {x : Option Toml.Excess} (ht : fs.IsTree) (hcrate : HasCrate s fs)
    (h : StepEnding s year step fs fs' actions x) :
    Touched s (changeable s) addable workflowDirectories fs fs' := by
  cases h with
  | copy hc h =>
    have hname := List.mem_map_of_mem (f := Prod.snd) hc
    refine (touched_of_copy hc ht hcrate h).mono (replaceable_subset fun name hn => ?_) ?_
      (List.filter_sublist.subset)
    · rw [List.mem_singleton.mp hn]
      exact List.mem_append_left _ hname
    · intro name hn
      rw [List.mem_singleton.mp hn]
      exact List.mem_append_left _ hname
  | readme h =>
    exact (touched_of_readme ht h).mono (patched_subset (by simp [patchedFiles])) (by simp) (by simp)
  | header h =>
    exact (touched_of_header ht h).mono (patched_subset (by simp [patchedFiles])) (by simp) (by simp)
  | license h =>
    refine (touched_of_license ht h).mono (List.append_subset.mpr ⟨?_, ?_⟩) (by simp [addable])
      (by simp)
    · exact replaceable_subset (by simp)
    · exact patched_subset (by simp [patchedFiles])

/-- **The footprint of a run.** -/
theorem touched_of_chain {s : Settings} {year : Int} {some_ : List Step} {fs fs' : FileSystem}
    {report : Report} {x : Option Toml.Excess} (ht : fs.IsTree) (hcrate : HasCrate s fs)
    (h : Chain s year some_ fs fs' report x) :
    Touched s (changeable s) addable workflowDirectories fs fs' := by
  refine h.preserves (R := fun fs fs' => fs.IsTree → HasCrate s fs →
    Touched s (changeable s) addable workflowDirectories fs fs') ?_ ?_ ?_ ht hcrate
  · exact fun fs ht _ => .refl ht
  · intro fs₁ fs₂ fs₃ h h' ht hcrate
    have h₁ := h ht hcrate
    exact h₁.trans (h' h₁.tree (hcrate.grows ht h₁.grows))
  · exact fun step _ fs fs' actions x he ht hcrate => touched_of_step ht hcrate he

/-- **The footprint of a run**, whether or not it gives a report. -/
theorem touched_of_run {s : Settings} {year : Int} {fs : FileSystem} (ht : fs.IsTree) :
    Touched s (changeable s) addable workflowDirectories fs (run s year fs).1 := by
  have h := run_cases s year fs
  generalize run s year fs = result at h
  cases h with
  | unseen e h => exact .refl ht
  | refused h => exact .refl ht
  | reported fs' report h hc => exact touched_of_chain ht (hasCrate_of_isFile (by decide) h) hc
  | stopped fs' report e h hc => exact touched_of_chain ht (hasCrate_of_isFile (by decide) h) hc

/-! ## All that a run writes -/

theorem changeable_subset (s : Settings) : changeable s ⊆ crateFiles := by
  refine List.append_subset.mpr ⟨?_, List.subset_append_right _ _⟩
  exact List.Subset.trans (replaceable_subset_self s _) (List.subset_append_left _ _)

theorem addable_subset : addable ⊆ crateFiles :=
  List.subset_append_left _ _

/-- **A run writes files of the crate only**, whatever links there are and whether or not it gives a
report.  Nothing is lost or changes its kind or, for a link, its target; what is new or changed is a
file that the name of a file of the crate leads to in the end, or a new directory that the name of a
directory for the workflow leads to in the end. -/
theorem run_writes_crate_files_only (s : Settings) (year : Int) {fs : FileSystem} (ht : fs.IsTree) :
    (∀ loc node, fs.node? loc = some node →
        ∃ node', (run s year fs).1.node? loc = some node' ∧ node'.shape = node.shape)
      ∧ ∀ loc node, (run s year fs).1.node? loc = some node → fs.node? loc ≠ some node →
        (∃ content, node = .file content
            ∧ ∃ name ∈ crateFiles, (run s year fs).1.Leads (s.target.along name) loc node)
          ∨ fs.node? loc = none ∧ node = .directory
            ∧ ∃ name ∈ workflowDirectories, (run s year fs).1.Leads (s.target.along name) loc node := by
  have htouched := @touched_of_run s year fs ht
  refine ⟨htouched.grows.kept, fun loc node hnode hnew => ?_⟩
  -- what a path leads to is what stands there
  have hstands : ∀ {p : Path} {node'}, (run s year fs).1.Leads p loc node' → node = node' :=
    fun hl => Option.some.inj (hnode.symm.trans (hl.stands htouched.tree))
  rcases htouched.changed loc (by rw [hnode]; exact hnew.symm) with ⟨name, hn, content, hl⟩
    | ⟨hnone, ⟨name, hn, content, hl⟩ | ⟨name, hn, hl⟩⟩
  · obtain rfl := hstands hl
    exact Or.inl ⟨content, rfl, name, changeable_subset s hn, hl⟩
  · obtain rfl := hstands hl
    exact Or.inl ⟨content, rfl, name, addable_subset hn, hl⟩
  · obtain rfl := hstands hl
    exact Or.inr ⟨hnone, rfl, name, hn, hl⟩

/-- A run for a crate whose notice is a link to a missing file and whose workflows lie elsewhere: the
new file and the new directory are what names of the crate lead to. -/
theorem run_writes_behind_links :
    let fs : FileSystem := ⟨[(["crate"], .directory), (["crate", "Cargo.toml"], .file []),
      (["crate", "LICENSE"], .link "/notice"), (["crate", ".github"], .link "/shared"),
      (["shared"], .directory), (["template"], .directory), (["template", ".github"], .directory),
      (["template", ".github", "workflows"], .directory),
      (["template", ".github", "workflows", "ci.yml"], .file [35])], []⟩
    let s : Settings := ⟨.ofText "/crate", .ofText "/template", false, some ⟨.permissive, "A"⟩⟩
    (∃ content, ∃ name ∈ crateFiles,
        (run s 2024 fs).1.Leads (s.target.along name) ["notice"] (.file content))
      ∧ ∃ name ∈ workflowDirectories,
        (run s 2024 fs).1.Leads (s.target.along name) ["shared", "workflows"] .directory := by
  intro fs s
  have ht : fs.IsTree := isTree_of_entries (by decide) (by decide)
  have hwrites := (run_writes_crate_files_only s 2024 ht).2
  have hbefore : fs.node? ["notice"] = none := by decide
  have hafter : ((run s 2024 fs).1.node? ["notice"]).any Node.isFile = true
      ∧ (run s 2024 fs).1.node? ["shared", "workflows"] = some .directory := by
    decide +kernel
  obtain ⟨hnotice, hmade⟩ := hafter
  constructor
  · obtain ⟨node, hnode, hfile⟩ := (Option.any_eq_true ..).mp hnotice
    rcases hwrites _ node hnode (by rw [hbefore]; exact (Option.some_ne_none node).symm) with
      ⟨content, rfl, hname⟩ | ⟨-, rfl, -⟩
    · exact ⟨content, hname⟩
    · exact absurd hfile (by simp [Node.isFile])
  · rcases hwrites _ _ hmade (by decide) with ⟨content, hc, -⟩ | ⟨-, -, hname⟩
    · exact absurd hc (by simp)
    · exact hname

/-! ## Without leave to overwrite -/

/-- **Without leave to overwrite, a run keeps every file as it is** but for those that the names of the
patched files lead to when it ends. -/
theorem run_keeps_unpatched_files {s : Settings} (year : Int) {fs : FileSystem} (ht : fs.IsTree)
    (hf : s.force = false) {loc : Location} {content : Octets}
    (h : fs.node? loc = some (.file content))
    (hp : ∀ name ∈ patchedFiles, ∀ content',
      ¬(run s year fs).1.Leads (s.target.along name) loc (.file content')) :
    (run s year fs).1.node? loc = some (.file content) := by
  have htouched := @touched_of_run s year fs ht
  by_contra hne
  rcases htouched.changed loc (by rw [h]; exact hne) with ⟨name, hn, content', hl⟩ | ⟨hnone, -⟩
  · rw [changeable, replaceable, hf] at hn
    exact hp name (by simpa using hn) content' hl
  · rw [h] at hnone
    exact absurd hnone (by simp)

/-- A run for a crate whose formatting options are a link to a file elsewhere, which stays as it is
although the template has others. -/
theorem run_keeps_linked_options :
    let fs : FileSystem := ⟨[(["crate"], .directory), (["crate", "Cargo.toml"], .file []),
      (["options"], .file [35]), (["crate", "rustfmt.toml"], .link "/options"),
      (["template"], .directory), (["template", "rustfmt.toml"], .file [])], []⟩
    let s : Settings := ⟨.ofText "/crate", .ofText "/template", false, none⟩
    (run s 2024 fs).1.node? ["options"] = some (.file [35]) := by
  intro fs s
  refine run_keeps_unpatched_files 2024 (isTree_of_entries (by decide) (by decide)) rfl (by decide)
    fun name hn content' hl => ?_
  have hapart : ∀ name ∈ patchedFiles, ((run s 2024 fs).1.lookup .follow
      (s.target.along name)).location? ≠ some (["options"] : Location) := by
    decide +kernel
  exact hapart name hn hl.location

end CrateSync.Sync
