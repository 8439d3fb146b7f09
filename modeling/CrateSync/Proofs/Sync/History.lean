/-
# Histories of a crate

A history of a crate is any sequence of runs, each with settings of its own, and of changes to the
files between them that leave alone what the user wrote.  However long it is, the readme and the root
source file keep what they held in the beginning, and a manifest that could be read can be read.

* `readme_of_run`, `source_of_run`, `manifest_of_run` : what one run does to a file of the user;
* `history_keeps_user_content` : what is left of these files after any history.
-/
import CrateSync.Proofs.Patch
import CrateSync.Proofs.Sync.Plain

namespace CrateSync

/-- A manifest is edited to a text that is a document. -/
theorem Manifest.parse_of_setLicense {mode : LicenseMode} {manifest updated : Text}
    (h : setLicense mode manifest = .ok (some updated)) : ∃ root, Toml.parse updated = .ok root := by
  unfold setLicense at h
  rcases hroot : readWith .notToml manifest with e | root
  · simp [hroot, bind, Except.bind] at h
  rcases hpackage : package? root with _ | package
  · simp [hroot, hpackage, bind, Except.bind] at h
  rcases hlayout : Layout.ofLines? (Text.lines manifest) with _ | layout
  · simp [hroot, hpackage, hlayout, bind, Except.bind] at h
  by_cases hsame : editedText mode package layout = manifest
  · simp [hroot, hpackage, hlayout, hsame, bind, Except.bind, pure, Except.pure] at h
  rcases hbroken : readWith .brokenByEdit (editedText mode package layout) with e | root'
  · simp [hroot, hpackage, hlayout, hsame, hbroken, bind, Except.bind] at h
  obtain rfl : editedText mode package layout = updated := by
    simpa [hroot, hpackage, hlayout, hsame, hbroken, bind, Except.bind, pure, Except.pure] using h
  unfold readWith at hbroken
  rcases hparse : Toml.parse (editedText mode package layout) with (_ | _) | root
  · simp [hparse] at hbroken
  · simp [hparse] at hbroken
  · exact ⟨root, rfl⟩

namespace Sync

open FileSystem

/-! ## What one run does to the files of the user -/

section

variable {s : Settings} {year : Int} {dir : Location} {fs : FileSystem}

/-- A run changes nothing, or each of its steps is undisturbed by the others. -/
theorem run_undisturbed (hp : Plain s fs) (hd : fs.Leads s.target dir .directory) :
    (run s year fs).1 = fs ∨ ∀ name ∈ stepNames, ∃ step fs₁ fs₂ actions, step.name = name
      ∧ Undisturbed s year dir fs (run s year fs).1 step fs₁ fs₂ actions := by
  have h := run_cases s year fs
  generalize run s year fs = result at h
  cases h with
  | unseen e h => exact Or.inl rfl
  | refused h => exact Or.inl rfl
  | reported fs' report h hc => exact Or.inr fun name hn => undisturbed_of_name hp hd hc hn
  | stopped fs' report e h hc => exact Or.inr fun name hn => undisturbed_of_name hp hd hc hn

/-- What a run does to the readme: nothing, or it brings the pointer in front. -/
theorem readme_of_run (year : Int) (hp : Plain s fs) (hd : fs.Leads s.target dir .directory)
    {content : Octets} (h : fs.node? (dir ++ namesOf readmeFile) = some (.file content)) :
    ∃ content', (run s year fs).1.node? (dir ++ namesOf readmeFile) = some (.file content')
      ∧ (content' = content ∨ ∃ t updated, content = t.encode
        ∧ Patch.prependOnce t readmePointer = some updated ∧ content' = updated.encode) := by
  rcases @run_undisturbed s year dir fs hp hd with hsame | hall
  · exact ⟨content, by rw [hsame, h], Or.inl rfl⟩
  obtain ⟨step, fs₁, fs₂, actions, hname, hu⟩ := hall readmeFile (by decide)
  obtain ⟨x, hends⟩ := hu.ends
  obtain ⟨action, hreadme, -⟩ := hends.readme_of_name hname
  have hself : readmeFile ∈ territory step.name := by
    rw [hname]
    decide
  have h₁ := (hu.node_before hself).trans h
  rw [hu.node_after hself]
  cases hreadme with
  | unseen | notMade | unread | linked | notWritten => exact ⟨content, h₁, Or.inl rfl⟩
  | made _ he hw =>
    -- the readme would not have existed
    have hrel : IsRelative readmeFile := by decide
    rw [hrel.along_eq] at he
    obtain ⟨-, hnone⟩ :=
      (hu.before.plain.rooted hu.before.leads).missing_of_exists hrel.plain he
    exact absurd (hnone.symm.trans h₁) (by simp)
  | patched t updated _ hr hpatch hw =>
    have hnode := node_of_textOf hu.before.plain hu.before.leads (by decide) hr
    obtain rfl : content = t.encode := by simpa using h₁.symm.trans hnode
    refine ⟨updated.encode, ?_, Or.inr ⟨t, updated, rfl, hpatch, rfl⟩⟩
    rw [node_of_write hu.before.plain hu.before.leads (by decide) hw, if_pos rfl]

/-- What a run does to the manifest: nothing, or it leaves a document. -/
theorem manifest_of_run (year : Int) (hp : Plain s fs) (hd : fs.Leads s.target dir .directory)
    {content : Octets} (h : fs.node? (dir ++ namesOf manifestFile) = some (.file content)) :
    ∃ content', (run s year fs).1.node? (dir ++ namesOf manifestFile) = some (.file content')
      ∧ (content' = content ∨ ∃ t root, content' = t.encode ∧ Toml.parse t = .ok root) := by
  rcases @run_undisturbed s year dir fs hp hd with hsame | hall
  · exact ⟨content, by rw [hsame, h], Or.inl rfl⟩
  obtain ⟨step, fs₁, fs₂, actions, hname, hu⟩ := hall licenseFile (by decide)
  obtain ⟨x, hends⟩ := hu.ends
  have hlicense := hends.license_of_name hname
  have hself : manifestFile ∈ territory step.name := by
    rw [hname]
    decide
  have h₁ := (hu.node_before hself).trans h
  rw [hu.node_after hself]
  -- the notice is another file, so that the manifest is read as it was
  have hapart : dir ++ namesOf manifestFile ≠ dir ++ namesOf licenseFile :=
    fun heq => absurd (List.append_cancel_left heq) (by decide)
  have hkept : ∀ {octets fsₘ}, fs₁.write (s.target.along licenseFile) octets = .ok fsₘ →
      fsₘ.node? (dir ++ namesOf manifestFile) = some (.file content) := by
    intro octets fsₘ hw
    rw [node_of_write hu.before.plain hu.before.leads (by decide) hw, if_neg hapart, h₁]
  cases hlicense with
  | unlicensed | unseen | kept | notWritten => exact ⟨content, h₁, Or.inl rfl⟩
  | emptied license existed u _ _ he hf hu hw => exact ⟨content, hkept hw, Or.inl rfl⟩
  | written license existed octets fsₘ _ actions _ _ he hf hwords hw hm =>
    obtain ⟨loc, hfill⟩ := fills_of_write hu.before.plain.tree hw
    have hmid := confined_of_fills hu.before.plain hu.before.leads (by decide) hfill
    cases hm with
    | unread | excess | refused | agreed | notWritten => exact ⟨content, hkept hw, Or.inl rfl⟩
    | edited manifest updated _ hr hedit hw' =>
      obtain ⟨root, hroot⟩ := Manifest.parse_of_setLicense hedit
      refine ⟨updated.encode, ?_, Or.inr ⟨updated, root, rfl, hroot⟩⟩
      rw [node_of_write hmid.plain hmid.leads (by decide) hw', if_pos rfl]

end

/-! ## The root source file -/

/-- The root source file of a crate: that of a library, or else that of a program. -/
structure IsSource (dir : Location) (fs : FileSystem) (name : Text) (content : Octets) : Prop where
  named : name = libraryRoot ∨ name = programRoot
    ∧ ∀ other, fs.node? (dir ++ namesOf libraryRoot) ≠ some (.file other)
  node : fs.node? (dir ++ namesOf name) = some (.file content)

/-- The blocks that a run appended to the root source file: the header, if that file has changed. -/
def appendedBlocks (s : Settings) (dir : Location) (fs fs' : FileSystem) : List Text :=
  match rootSource s fs, fs.textOf (s.template.along headerTemplate) with
  | .ok (some name), .ok header =>
    if fs'.node? (dir ++ namesOf name) = fs.node? (dir ++ namesOf name) then [] else [header]
  | _, _ => []

section

variable {s : Settings} {dir : Location} {fs fs' : FileSystem} {name : Text} {content : Octets}

theorem IsSource.name_mem (h : IsSource dir fs name content) : name ∈ [libraryRoot, programRoot] := by
  rcases h.named with rfl | ⟨rfl, -⟩
  · simp
  · simp

/-- The root source file is the same if no root source file has changed. -/
theorem IsSource.congr (h : IsSource dir fs name content)
    (hn : ∀ name ∈ [libraryRoot, programRoot],
      fs'.node? (dir ++ namesOf name) = fs.node? (dir ++ namesOf name)) :
    IsSource dir fs' name content := by
  refine ⟨h.named.imp_right fun ⟨hname, hlib⟩ => ⟨hname, fun other => ?_⟩, ?_⟩
  · rw [hn name h.name_mem, h.node]
  · rw [hn libraryRoot (by simp)]
    exact hlib other

theorem appendedBlocks_of_same (hn : ∀ name ∈ [libraryRoot, programRoot],
      fs'.node? (dir ++ namesOf name) = fs.node? (dir ++ namesOf name)) :
    appendedBlocks s dir fs fs' = [] := by
  unfold appendedBlocks
  rcases hroot : rootSource s fs with e | _ | name
  · rfl
  · rfl
  · rcases fs.textOf (s.template.along headerTemplate) with e | header
    · rfl
    · exact if_pos (hn name (rootSource_mem hroot))

/-- The root source file is the same after it was filled. -/
theorem IsSource.filled (h : IsSource dir fs name content) {new : Octets}
    (hn : ∀ other, fs'.node? other
      = if other = dir ++ namesOf name then some (.file new) else fs.node? other) :
    IsSource dir fs' name new := by
  refine ⟨h.named.imp_right fun ⟨hname, hlib⟩ => ⟨hname, fun other => ?_⟩, ?_⟩
  · rw [hn, if_pos rfl]
  · have hapart : dir ++ namesOf libraryRoot ≠ dir ++ namesOf name := by
      rw [hname]
      exact fun heq => absurd (List.append_cancel_left heq) (by decide)
    rw [hn, if_neg hapart]
    exact hlib other

/-- A step that looks for the root source file finds it, if it finds any. -/
theorem IsSource.name_eq {other : Text} (hp : Plain s fs) (hd : fs.Leads s.target dir .directory)
    (h : IsSource dir fs name content) (hroot : rootSource s fs = .ok (some other)) :
    other = name := by
  have hfile : ∀ name ∈ [libraryRoot, programRoot], fs.isFile (s.target.along name) = .ok true →
      ∃ content, fs.node? (dir ++ namesOf name) = some (.file content) := by
    intro name hn hf
    obtain ⟨loc, content, hl⟩ := isFile_iff.mp hf
    have hrel := isRelative_of_territories name (@subset_territories libraryRoot (by decide) name hn)
    rw [hrel.along_eq] at hl
    obtain ⟨-, rfl, hnode⟩ := ((hp.rooted hd).leads_iff hrel.plain).mp hl
    exact ⟨content, hnode⟩
  rcases rootSource_eq_some.mp hroot with ⟨rfl, hlib⟩ | ⟨rfl, hlib, -⟩
  · obtain ⟨content', hnode⟩ := hfile libraryRoot (by simp) hlib
    rcases h.named with rfl | ⟨-, hno⟩
    · rfl
    · exact absurd hnode (hno content')
  · rcases h.named with rfl | ⟨rfl, -⟩
    · -- that of a library is there, and would have been found
      have hrel : IsRelative libraryRoot := by decide
      have ho := not_isOverlong_of_leadsTo hlib
      rw [hrel.along_eq] at hlib ho
      have hl := (hp.rooted hd).leads_iff hrel.plain |>.mpr ⟨ho, rfl, h.node⟩
      rw [isFile, leadsTo_of_leads hl] at hlib
      exact absurd hlib (by simp [Node.isFile])
    · rfl

/-- What appending the header does to the root source file: nothing, or it brings the header to the end. -/
theorem IsSource.of_header {action : Action} (hp : Plain s fs) (hd : fs.Leads s.target dir .directory)
    (h : IsSource dir fs name content) (hheader : HeaderEnding s fs fs' action) :
    fs' = fs ∨ ∃ t header updated, content = t.encode ∧ Patch.appendOnce t header = some updated
      ∧ IsSource dir fs' name updated.encode ∧ rootSource s fs = .ok (some name)
      ∧ fs.textOf (s.template.along headerTemplate) = .ok header := by
  cases hheader with
  | unasked | noRoot | unseen | noHeader | unread | headerUnread | present | notWritten => exact Or.inl rfl
  | appended name' existing header updated _ hroot hr hh hpatch hw =>
    obtain rfl := h.name_eq hp hd hroot
    have hin := @subset_territories libraryRoot (by decide) _ h.name_mem
    obtain rfl : content = existing.encode := by
      simpa using h.node.symm.trans (node_of_textOf hp hd hin hr)
    exact Or.inr ⟨existing, header, updated, rfl, hpatch, h.filled (node_of_write hp hd hin hw), hroot, hh⟩

/-- A text to which a header was appended is another, at least as much longer as the header. -/
theorem ne_of_appendOnce {t header updated : Text} (h : Patch.appendOnce t header = some updated) :
    updated ≠ t := by
  obtain ⟨hne, -, rfl⟩ := Patch.appendOnce_eq_some h
  intro hsame
  rw [List.append_assoc, List.append_right_eq_self] at hsame
  exact hne (List.append_eq_nil_iff.mp hsame).2

/-- What a run does to the root source file: nothing, or it brings the header to the end. -/
theorem source_of_run (year : Int) (hp : Plain s fs) (hd : fs.Leads s.target dir .directory)
    (h : IsSource dir fs name content) :
    ∃ content', IsSource dir (run s year fs).1 name content'
      ∧ (content' = content ∧ appendedBlocks s dir fs (run s year fs).1 = []
        ∨ ∃ t header updated, content = t.encode ∧ Patch.appendOnce t header = some updated
          ∧ content' = updated.encode ∧ appendedBlocks s dir fs (run s year fs).1 = [header]) := by
  rcases @run_undisturbed s year dir fs hp hd with hsame | hall
  · exact ⟨content, h.congr (by simp [hsame]), Or.inl ⟨rfl, appendedBlocks_of_same (by simp [hsame])⟩⟩
  obtain ⟨step, fs₁, fs₂, actions, hname, hu⟩ := hall libraryRoot (by decide)
  obtain ⟨x, hends⟩ := hu.ends
  obtain ⟨action, hheader, -⟩ := hends.header_of_name hname
  -- only the step of the header touches the file, so that it is the same before and after this step
  have hself : ∀ name ∈ [libraryRoot, programRoot], name ∈ territory step.name := by
    rw [hname]
    exact fun _ hn => hn
  have hbefore := fun name hn => hu.node_before (hself name hn)
  have hafter := fun name hn => hu.node_after (hself name hn)
  generalize (run s year fs).1 = fs' at hu hafter
  rcases (h.congr hbefore).of_header hu.before.plain hu.before.leads hheader with
    rfl | ⟨t, header, updated, rfl, hpatch, h₂, hroot, hh⟩
  · have hsame := fun name hn => (hafter name hn).trans (hbefore name hn)
    exact ⟨content, h.congr hsame, Or.inl ⟨rfl, appendedBlocks_of_same hsame⟩⟩
  · refine ⟨updated.encode, h₂.congr hafter, Or.inr ⟨t, header, updated, rfl, hpatch, rfl, ?_⟩⟩
    have hsame := rootSource_congr fun name hn => hu.lookup_before (hself name hn) .follow
    rw [hroot] at hsame
    have hchanged : fs'.node? (dir ++ namesOf name) ≠ fs.node? (dir ++ namesOf name) := by
      rw [hafter name h.name_mem, h₂.node, h.node]
      intro heq
      exact ne_of_appendOnce hpatch (Utf8.encode_injective (Node.file.inj (Option.some.inj heq)))
    unfold appendedBlocks
    rw [← hsame, (hu.before.textOf_source (by decide)).mp hh]
    exact if_neg hchanged

end

/-! ## Histories -/

/-- A history of the crate in a directory, from the files in the beginning to those now: runs, with the
blocks that they appended to the root source file, and changes that leave alone what the user wrote.
The template of a run is no part of the history: it may be another one, or have other files, each
time. -/
inductive History (dir : Location) (start : FileSystem) : List Text → FileSystem → Prop
  | begins : History dir start [] start
  | runs {blocks : List Text} {fs : FileSystem} (h : History dir start blocks fs) (s : Settings)
      (year : Int) (hd : fs.Leads s.target dir .directory)
      (ht : ∀ other, fs.Leads s.template other .directory → other ≠ dir ∧ fs.LinkFree other) :
      History dir start (blocks ++ appendedBlocks s dir fs (run s year fs).1) (run s year fs).1
  | changes {blocks : List Text} {fs fs' : FileSystem} (h : History dir start blocks fs)
      (ht : fs'.IsTree) (hl : fs'.LinkFree dir)
      (hn : ∀ name ∈ patchedFiles,
        fs'.node? (dir ++ namesOf name) = fs.node? (dir ++ namesOf name)) :
      History dir start blocks fs'

section

variable {dir : Location} {start fs : FileSystem} {blocks : List Text}

/-- A run of a history is one without links. -/
theorem plain_of_apart {s : Settings} (htree : fs.IsTree) (hfree : fs.LinkFree dir)
    (hd : fs.Leads s.target dir .directory)
    (ht : ∀ other, fs.Leads s.template other .directory → other ≠ dir ∧ fs.LinkFree other) :
    Plain s fs := by
  refine ⟨htree, fun dir' hd' => ?_, fun other ho => (ht other ho).2, fun dir' hd' ho => ?_⟩
  · obtain ⟨rfl, -⟩ := hd'.unique hd
    exact hfree
  · obtain ⟨rfl, -⟩ := hd'.unique hd
    exact (ht dir' ho).1 rfl

/-- What a run leaves is again a tree without links below the crate. -/
theorem linkFree_of_run {s : Settings} (year : Int) (hp : Plain s fs)
    (hd : fs.Leads s.target dir .directory) :
    (run s year fs).1.IsTree ∧ (run s year fs).1.LinkFree dir := by
  have hrooted : (run s year fs).1.Rooted s.target dir := by
    have h := run_cases s year fs
    generalize run s year fs = result at h
    cases h with
    | unseen e h => exact hp.rooted hd
    | refused h => exact hp.rooted hd
    | reported fs' report h hc =>
      have hc' := confined_of_chain (fun step _ hin => subset_territories hin) hc hp hd
      exact hc'.plain.rooted hc'.leads
    | stopped fs' report e h hc =>
      have hc' := confined_of_chain (fun step _ hin => subset_territories hin) hc hp hd
      exact hc'.plain.rooted hc'.leads
  exact ⟨hrooted.tree, hrooted.linkFree⟩

theorem History.linkFree (htree : start.IsTree) (hfree : start.LinkFree dir)
    (h : History dir start blocks fs) : fs.IsTree ∧ fs.LinkFree dir := by
  induction h with
  | begins => exact ⟨htree, hfree⟩
  | runs _ s year hd ht ih => exact linkFree_of_run year (plain_of_apart ih.1 ih.2 hd ht) hd
  | changes _ ht hl _ _ => exact ⟨ht, hl⟩

/-- The readme holds what it held in the beginning, perhaps behind the pointer. -/
def ReadmeKept (original content : Octets) : Prop :=
  content = original ∨ ∃ newline ∈ Patch.lineBreaks, ∃ t : Text, original = t.encode
    ∧ content = (readmePointer ++ newline ++ newline ++ t).encode

theorem History.readme (htree : start.IsTree) (hfree : start.LinkFree dir)
    (h : History dir start blocks fs) {original : Octets}
    (hs : start.node? (dir ++ namesOf readmeFile) = some (.file original)) :
    ∃ content, fs.node? (dir ++ namesOf readmeFile) = some (.file content)
      ∧ ReadmeKept original content := by
  induction h with
  | begins => exact ⟨original, hs, Or.inl rfl⟩
  | changes _ _ _ hn ih =>
    rw [hn readmeFile (by decide)]
    exact ih
  | runs h s year hd ht ih =>
    obtain ⟨content, hnode, hkept⟩ := ih
    obtain ⟨htree', hfree'⟩ := h.linkFree htree hfree
    obtain ⟨content', hnode', hrun⟩ :=
      readme_of_run year (plain_of_apart htree' hfree' hd ht) hd hnode
    refine ⟨content', hnode', ?_⟩
    rcases hrun with rfl | ⟨t, updated, rfl, hpatch, rfl⟩
    · exact hkept
    obtain ⟨hnew, newline, hnewline, rfl⟩ := Patch.prependOnce_eq_some hpatch
    rcases hkept with rfl | ⟨newline', -, u, rfl, hcontent⟩
    · exact Or.inr ⟨newline, hnewline, t, rfl, rfl⟩
    · -- a readme that holds the pointer is not patched again
      obtain rfl := Utf8.encode_injective hcontent
      exact absurd ⟨[], newline' ++ newline' ++ u, by simp⟩ hnew

theorem History.source (htree : start.IsTree) (hfree : start.LinkFree dir)
    (h : History dir start blocks fs) {name : Text} {original : Octets}
    (hs : IsSource dir start name original) :
    ∃ content, IsSource dir fs name content ∧ Patch.Appended original blocks content
      ∧ blocks.Nodup := by
  induction h with
  | begins => exact ⟨original, hs, .original, List.nodup_nil⟩
  | changes _ _ _ hn ih =>
    obtain ⟨content, hsource, hrest⟩ := ih
    refine ⟨content, hsource.congr fun name hname => hn name ?_, hrest⟩
    exact List.mem_cons_of_mem _ (List.mem_append_left [manifestFile] hname)
  | @runs blocks fs h s year hd ht ih =>
    obtain ⟨content, hsource, happended, hnodup⟩ := ih
    obtain ⟨htree', hfree'⟩ := h.linkFree htree hfree
    obtain ⟨content', hsource', hrun⟩ :=
      source_of_run year (plain_of_apart htree' hfree' hd ht) hd hsource
    refine ⟨content', hsource', ?_⟩
    rcases hrun with ⟨rfl, hnone⟩ | ⟨t, header, updated, rfl, hpatch, rfl, hone⟩
    · rw [hnone, List.append_nil]
      exact ⟨happended, hnodup⟩
    · obtain ⟨-, hnew, rfl⟩ := Patch.appendOnce_eq_some hpatch
      rw [hone]
      refine ⟨happended.block header, ?_⟩
      -- the header is none of the blocks, since these are all in the text
      rw [List.nodup_append]
      refine ⟨hnodup, by simp, fun block hb other ho heq => hnew ?_⟩
      rw [← List.mem_singleton.mp ho, ← heq]
      exact happended.holds rfl block hb

/-- Octets that are a document. -/
def IsDocument (octets : Octets) : Prop :=
  ∃ t root, Utf8.decode octets = .ok t ∧ Toml.parse t = .ok root

theorem History.manifest (htree : start.IsTree) (hfree : start.LinkFree dir)
    (h : History dir start blocks fs) {original : Octets}
    (hs : start.node? (dir ++ namesOf manifestFile) = some (.file original)) :
    ∃ content, fs.node? (dir ++ namesOf manifestFile) = some (.file content)
      ∧ (content = original ∨ IsDocument content) := by
  induction h with
  | begins => exact ⟨original, hs, Or.inl rfl⟩
  | changes _ _ _ hn ih =>
    rw [hn manifestFile (by decide)]
    exact ih
  | runs h s year hd ht ih =>
    obtain ⟨content, hnode, hkept⟩ := ih
    obtain ⟨htree', hfree'⟩ := h.linkFree htree hfree
    obtain ⟨content', hnode', hrun⟩ :=
      manifest_of_run year (plain_of_apart htree' hfree' hd ht) hd hnode
    refine ⟨content', hnode', ?_⟩
    rcases hrun with rfl | ⟨t, root, rfl, hparse⟩
    · exact hkept
    · exact Or.inr ⟨t, root, Utf8.decode_encode t, hparse⟩

/-- **What the user wrote survives any history.**  The readme holds its first octets, perhaps behind the
pointer and two line breaks; the root source file begins with its first octets, behind which stand the
blocks that were appended, no two of them the same; and a manifest that was a document is one. -/
theorem history_keeps_user_content (htree : start.IsTree) (hfree : start.LinkFree dir)
    (h : History dir start blocks fs) :
    (∀ original, start.node? (dir ++ namesOf readmeFile) = some (.file original) →
      ∃ content, fs.node? (dir ++ namesOf readmeFile) = some (.file content)
        ∧ (content = original ∨ ∃ newline ∈ Patch.lineBreaks,
          content = (readmePointer ++ newline ++ newline : Text).encode ++ original))
    ∧ (∀ name original, IsSource dir start name original →
      ∃ content, IsSource dir fs name content ∧ original <+: content
        ∧ Patch.Appended original blocks content ∧ blocks.Nodup)
    ∧ ∀ original, start.node? (dir ++ namesOf manifestFile) = some (.file original) →
      ∃ content, fs.node? (dir ++ namesOf manifestFile) = some (.file content)
        ∧ (content = original ∨ IsDocument content) ∧ (IsDocument original → IsDocument content) := by
  refine ⟨fun original hs => ?_, fun name original hs => ?_, fun original hs => ?_⟩
  · obtain ⟨content, hnode, hkept⟩ := h.readme htree hfree hs
    refine ⟨content, hnode, hkept.imp_right ?_⟩
    rintro ⟨newline, hnewline, t, rfl, rfl⟩
    exact ⟨newline, hnewline, Text.encode_append _ t⟩
  · obtain ⟨content, hsource, happended, hnodup⟩ := h.source htree hfree hs
    exact ⟨content, hsource, happended.starts, happended, hnodup⟩
  · obtain ⟨content, hnode, hkept⟩ := h.manifest htree hfree hs
    refine ⟨content, hnode, hkept, fun hdocument => ?_⟩
    rcases hkept with rfl | hkept
    · exact hdocument
    · exact hkept

/-- A program to which two templates appended their headers in turn. -/
theorem history_of_two_templates :
    let start : FileSystem := ⟨[(["crate"], .directory), (["crate", "Cargo.toml"], .file []),
      (["crate", "README.md"], .file [35]), (["crate", "src"], .directory),
      (["crate", "src", "main.rs"], .file [35]), (["one"], .directory), (["one", "src"], .directory),
      (["one", "src", "header.rs"], .file [47]), (["two"], .directory), (["two", "src"], .directory),
      (["two", "src", "header.rs"], .file [42])], []⟩
    let s : Settings := ⟨.ofText "/crate", .ofText "/one", false, none⟩
    let s' : Settings := ⟨.ofText "/crate", .ofText "/two", true, none⟩
    ∃ content, (run s' 2025 (run s 2024 start).1).1.node? ["crate", "src", "main.rs"]
      = some (.file content) ∧ [35] <+: content ∧ Patch.Appended [35] [['/'], ['*']] content := by
  intro start s s'
  let dir : Location := ["crate"]
  have hfree := @linkFree_of_entries start (by decide)
  have hfree' := @linkFree_of_entries (run s 2024 start).1 (by decide +kernel)
  have happ : ∀ other, start.Leads s.template other .directory →
      other ≠ dir ∧ start.LinkFree other := by
    intro other ho
    have hone : start.Leads s.template ["one"] .directory := by
      unfold Leads
      decide
    exact ⟨(ho.unique hone).1 ▸ by decide, hfree other⟩
  have happ' : ∀ other, (run s 2024 start).1.Leads s'.template other .directory →
      other ≠ dir ∧ (run s 2024 start).1.LinkFree other := by
    intro other ho
    have htwo : (run s 2024 start).1.Leads s'.template ["two"] .directory := by
      unfold Leads
      decide +kernel
    exact ⟨(ho.unique htwo).1 ▸ by decide, hfree' other⟩
  have hd : start.Leads s.target dir .directory := by
    unfold Leads
    decide
  have hd' : (run s 2024 start).1.Leads s'.target dir .directory := by
    unfold Leads
    decide +kernel
  have h : History dir start _ _ :=
    .runs (.runs .begins s 2024 hd happ) s' 2025 hd' happ'
  have hblocks : [] ++ appendedBlocks s dir start (run s 2024 start).1
      ++ appendedBlocks s' dir (run s 2024 start).1 (run s' 2025 (run s 2024 start).1).1
        = [['/'], ['*']] := by
    decide +kernel
  rw [hblocks] at h
  obtain ⟨-, hsource, -⟩ := history_keeps_user_content
    (isTree_of_entries (by decide) (by decide)) (hfree dir) h
  have hroot : start.node? (dir ++ namesOf libraryRoot) = none := by decide
  obtain ⟨content, hs, hpre, happended, -⟩ := hsource programRoot [35]
    ⟨Or.inr ⟨rfl, fun other => by simp [hroot]⟩, by decide⟩
  exact ⟨content, hs.node, hpre, happended⟩

end

end Sync

end CrateSync
