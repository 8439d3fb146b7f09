/-
# What operations do to a tree

The operations on files, each described by what it does to the nodes of a tree.  Writing and copying
change the node that the path then leads to, and no other (`Fills`).  Making directories fails and
changes nothing, finds them made, or makes new ones along the path (`Makes`).

* `fills_of_write`, `fills_of_copy` : what a successful write or copy did;
* `made_makeDirectories` : what making directories can come to.
-/
import Mathlib.Data.List.Induction
import CrateSync.Proofs.FileSystem.Reach

namespace CrateSync.FileSystem

/-! ## Asking and reading -/

theorem status_eq_ok {fs : FileSystem} {p : Path} {loc : Location} {node : Node} :
    fs.status p = .ok (loc, node) ↔ fs.Leads p loc node := by
  unfold status Leads
  rcases fs.lookup .follow p with ⟨loc', node'⟩ | loc' | e <;> simp

/-- Asking for the kind of a node, where a path leads to one. -/
theorem leadsTo_of_leads {fs : FileSystem} {p : Path} {loc : Location} {node : Node}
    (h : fs.Leads p loc node) (kind : Node → Bool) : fs.leadsTo kind p = .ok (kind node) := by
  unfold leadsTo
  rw [status_eq_ok.mpr h]

theorem exists_leads_of_leadsTo {fs : FileSystem} {p : Path} {kind : Node → Bool}
    (h : fs.leadsTo kind p = .ok true) : ∃ loc node, fs.Leads p loc node ∧ kind node = true := by
  unfold leadsTo at h
  rcases hs : fs.status p with e | ⟨loc, node⟩
  · rw [hs] at h
    cases e <;> simp at h
  · rw [hs] at h
    exact ⟨loc, node, status_eq_ok.mp hs, by simpa using h⟩

theorem not_leads_of_exists {fs : FileSystem} {p : Path} (h : fs.exists? p = .ok false)
    (loc : Location) (node : Node) : ¬fs.Leads p loc node := by
  intro hl
  rw [exists?, leadsTo_of_leads hl] at h
  exact absurd h (by simp)

/-- A path that can be asked for is not too long. -/
theorem not_isOverlong_of_leadsTo {fs : FileSystem} {p : Path} {kind : Node → Bool} {b : Bool}
    (h : fs.leadsTo kind p = .ok b) : ¬IsOverlong p := by
  intro ho
  rw [leadsTo, status, lookup_of_isOverlong ho] at h
  exact absurd h (by simp)

theorem isFile_iff {fs : FileSystem} {p : Path} :
    fs.isFile p = .ok true ↔ ∃ loc content, fs.Leads p loc (.file content) := by
  constructor
  · intro h
    obtain ⟨loc, node, hl, hk⟩ := exists_leads_of_leadsTo h
    cases node with
    | file content => exact ⟨loc, content, hl⟩
    | directory => exact absurd hk (by simp [Node.isFile])
    | link target => exact absurd hk (by simp [Node.isFile])
  · rintro ⟨loc, content, hl⟩
    exact leadsTo_of_leads hl Node.isFile

theorem isDirectory_of_leads {fs : FileSystem} {p : Path} {loc : Location}
    (h : fs.Leads p loc .directory) : fs.isDirectory p = .ok true :=
  leadsTo_of_leads h Node.isDirectory

theorem exists_leads_of_isDirectory {fs : FileSystem} {p : Path}
    (h : fs.isDirectory p = .ok true) : ∃ loc, fs.Leads p loc .directory := by
  obtain ⟨loc, node, hl, hk⟩ := exists_leads_of_leadsTo h
  cases node with
  | file content => exact absurd hk (by simp [Node.isDirectory])
  | directory => exact ⟨loc, hl⟩
  | link target => exact absurd hk (by simp [Node.isDirectory])

theorem read_eq_ok {fs : FileSystem} {p : Path} {content : Octets} :
    fs.read p = .ok content ↔ ∃ loc, fs.Leads p loc (.file content) := by
  unfold read
  rcases hs : fs.status p with e | ⟨loc, node⟩
  · refine ⟨fun h => absurd h (by simp), ?_⟩
    rintro ⟨loc, hl⟩
    rw [status_eq_ok.mpr hl] at hs
    exact absurd hs (by simp)
  · have hl := status_eq_ok.mp hs
    constructor
    · intro h
      cases node with
      | file content' =>
        obtain rfl : content' = content := by simpa using h
        exact ⟨loc, hl⟩
      | directory => exact absurd h (by simp)
      | link target => exact absurd h (by simp)
    · rintro ⟨loc', hl'⟩
      obtain ⟨-, rfl⟩ := hl.unique hl'
      rfl

/-- What was a file is one still when nothing was lost. -/
theorem isFile_grows {fs fs' : FileSystem} (ht : fs.IsTree) (hg : fs.Grows fs') {p : Path}
    (h : fs.isFile p = .ok true) : fs'.isFile p = .ok true := by
  obtain ⟨loc, content, hl⟩ := isFile_iff.mp h
  obtain ⟨content', hl'⟩ := hl.file ht hg
  exact isFile_iff.mpr ⟨loc, content', hl'⟩

theorem exists_read_of_isFile {fs : FileSystem} {p : Path} (h : fs.isFile p = .ok true) :
    ∃ content, fs.read p = .ok content := by
  obtain ⟨loc, content, hl⟩ := isFile_iff.mp h
  exact ⟨content, read_eq_ok.mpr ⟨loc, hl⟩⟩

/-- What is seen and read through a path is given by its look-up. -/
theorem status_congr {fs fs' : FileSystem} {p : Path}
    (h : fs'.lookup .follow p = fs.lookup .follow p) : fs'.status p = fs.status p := by
  rw [status, status, h]

theorem leadsTo_congr {fs fs' : FileSystem} {p : Path}
    (h : fs'.lookup .follow p = fs.lookup .follow p) (kind : Node → Bool) :
    fs'.leadsTo kind p = fs.leadsTo kind p := by
  rw [leadsTo, leadsTo, status_congr h]

theorem read_congr {fs fs' : FileSystem} {p : Path}
    (h : fs'.lookup .follow p = fs.lookup .follow p) : fs'.read p = fs.read p := by
  rw [read, read, status_congr h]

/-! ## Writing -/

/-- A file that a path leads to was filled: it is new, or the path led to it before. -/
structure Fills (fs : FileSystem) (p : Path) (content : Octets) (fs' : FileSystem)
    (loc : Location) : Prop where
  tree : fs'.IsTree
  grows : fs.Grows fs'
  node : ∀ other, fs'.node? other = if other = loc then some (.file content) else fs.node? other
  leads : fs'.Leads p loc (.file content)
  before : fs.lookup .follow p = .vacant loc ∨ ∃ old, fs.Leads p loc (.file old)

/-- Nothing stood where a file is new. -/
theorem Fills.vacant_or_file {fs fs' : FileSystem} {p : Path} {content : Octets} {loc : Location}
    (ht : fs.IsTree) (h : fs.Fills p content fs' loc) :
    fs.node? loc = none ∨ ∃ old, fs.Leads p loc (.file old) := by
  refine h.before.imp_left fun hv => ?_
  have := stands_of_lookup ht .follow p
  rw [hv] at this
  exact this.1

/-- Putting a file where a walk ends that is made for writing fills the file that the path leads to. -/
theorem fills_put {fs : FileSystem} (ht : fs.IsTree) {p : Path} {loc : Location}
    (content : Octets) (h : fs.lookup .write p = .vacant loc
      ∨ ∃ old, fs.lookup .write p = .found loc (.file old)) :
    fs.Fills p content (fs.put loc (.file content)) loc := by
  have hend : (fs.lookup .write p).location? = some loc := by
    rcases h with h | ⟨old, h⟩ <;> rw [h] <;> rfl
  have hfollow : fs.lookup .follow p = fs.lookup .write p := by
    refine lookup_follow_eq hend fun target => ?_
    rcases h with h | ⟨old, h⟩ <;> rw [h] <;> simp
  have hstands := stands_of_lookup ht .write p
  -- a vacant place lies in a directory, and so does a file, which is not the root
  obtain ⟨dir, name, rfl, hdir, hold⟩ : ∃ dir name, loc = dir ++ [name]
      ∧ fs.node? dir = some .directory
      ∧ ∀ old, fs.node? loc = some old → (Node.file content).shape = old.shape := by
    rcases h with h | ⟨old, h⟩
    · rw [h] at hstands
      obtain ⟨hnone, dir, name, hloc, hdir⟩ := hstands
      refine ⟨dir, name, hloc, hdir, fun old hold => ?_⟩
      rw [hnone] at hold
      exact absurd hold (by simp)
    · rw [h] at hstands
      rcases List.eq_nil_or_concat loc with rfl | ⟨dir, name, rfl⟩
      · exact absurd hstands (by simp [Lookup.Stands])
      · rw [List.concat_eq_append] at hstands ⊢
        refine ⟨dir, name, rfl, ht.parent dir name _ hstands, fun old' hold => ?_⟩
        rw [show fs.node? (dir ++ [name]) = _ from hstands] at hold
        obtain rfl := Option.some.inj hold
        rfl
  have hput : fs.MayPut (dir ++ [name]) (.file content) := ⟨by simp, hold⟩
  refine ⟨ht.put hdir hput, grows_put hput, fun other => node?_put fs other _ hput.1, ?_, ?_⟩
  · refine lookup_keeps ht (grows_put hput).keepsWays (hfollow ▸ hend) ?_ (by simp)
    rw [node?_put fs _ _ hput.1, if_pos rfl]
  · unfold Leads
    rw [hfollow]
    exact h

/-- **What a successful write did.** -/
theorem fills_of_write {fs fs' : FileSystem} (ht : fs.IsTree) {p : Path} {content : Octets}
    (h : fs.write p content = .ok fs') : ∃ loc, fs.Fills p content fs' loc := by
  unfold write writeLocation at h
  rcases hl : fs.lookup .write p with ⟨loc, node⟩ | loc | e
  · cases node with
    | file old =>
      obtain rfl : fs.put loc (.file content) = fs' := by simpa [hl, Except.map] using h
      exact ⟨loc, fills_put ht content (Or.inr ⟨old, hl⟩)⟩
    | directory => exact absurd h (by simp [hl, Except.map])
    | link target => exact absurd h (by simp [hl, Except.map])
  · obtain rfl : fs.put loc (.file content) = fs' := by simpa [hl, Except.map] using h
    exact ⟨loc, fills_put ht content (Or.inl hl)⟩
  · exact absurd h (by simp [hl, Except.map])

/-- **What a successful copy did.** -/
theorem fills_of_copy {fs fs' : FileSystem} (ht : fs.IsTree) {source destination : Path}
    (h : fs.copy source destination = .ok fs') :
    ∃ content loc, fs.read source = .ok content ∧ fs.Fills destination content fs' loc := by
  unfold copy at h
  by_cases hs : fs.sameNode source destination = true
  · rw [if_pos hs] at h
    exact absurd h (by simp)
  · rw [if_neg hs] at h
    rcases hr : fs.read source with e | content
    · simp [hr] at h
    · rcases hw : fs.write destination content with e | fs₁
      · simp only [hr, hw] at h
        split_ifs at h
      · simp only [hr, hw] at h
        obtain rfl := Except.ok.inj h
        obtain ⟨loc, hf⟩ := fills_of_write ht hw
        exact ⟨content, loc, rfl, hf⟩

/-- A file can be copied to a vacant place. -/
theorem copy_of_vacant {fs : FileSystem} {source destination : Path} {content : Octets}
    (hr : fs.read source = .ok content)
    (hv : ∀ purpose, ∃ place, fs.lookup purpose destination = .vacant place) :
    ∃ fs', fs.copy source destination = .ok fs' := by
  obtain ⟨place, hfollow⟩ := hv .follow
  obtain ⟨place', hwrite⟩ := hv .write
  have hother : fs.sameNode source destination = false := by
    unfold sameNode
    rw [show fs.status destination = .error .noEntry by rw [status, hfollow]]
    rcases fs.status source with _ | _ <;> rfl
  have hw : fs.write destination content = .ok (fs.put place' (.file content)) := by
    rw [write, writeLocation, hwrite]
    rfl
  refine ⟨fs.put place' (.file content), ?_⟩
  rw [copy, hother, if_neg (by simp), hr]
  simp only [hw]

/-! ## Making directories -/

/-- Directories were made along names behind a path: the last one is new, and so is each other that
was made, which the last one lies in. -/
structure Makes (fs : FileSystem) (base : Path) (names : List Text) (fs' : FileSystem)
    (loc : Location) : Prop where
  tree : fs'.IsTree
  grows : fs.Grows fs'
  leads : fs'.Leads (base.onward names) loc .directory
  fresh : fs.node? loc = none
  changed : ∀ other, fs'.node? other ≠ fs.node? other → fs.node? other = none ∧ other <+: loc
    ∧ ∃ some_, some_ ≠ [] ∧ some_ <+: names ∧ fs'.Leads (base.onward some_) other .directory

/-- Nothing stands yet in the last of the directories that were made. -/
theorem Makes.empty {fs fs' : FileSystem} (ht : fs.IsTree) {base : Path} {names : List Text}
    {loc : Location} (h : fs.Makes base names fs' loc) (name : Text) :
    fs'.node? (loc ++ [name]) = none := by
  have hnone := ht.vacant_below h.fresh [name]
  by_contra hne
  obtain ⟨-, hpre, -⟩ := h.changed (loc ++ [name]) (by rw [hnone]; exact hne)
  have hlen := hpre.length_le
  rw [List.length_append, List.length_singleton] at hlen
  exact absurd hlen (Nat.not_succ_le_self _)

/-- No directory can be made where a path leads: something else is in its way. -/
structure Obstructed (fs : FileSystem) (p : Path) : Prop where
  seen : fs.lookup .stay p ≠ .fault .noEntry
  taken : ∀ loc, fs.lookup .stay p ≠ .vacant loc
  other : ∀ loc, ¬fs.Leads p loc .directory

/-- What making the directories along names behind a path can come to: a failure, which changes
nothing, nothing to be done, or new directories. -/
inductive Made (fs : FileSystem) (base : Path) (names : List Text) :
    FileSystem × Except SystemError Unit → Prop
  | failed (e : SystemError) (some_ : List Text) (hne : some_ ≠ []) (hpre : some_ <+: names)
      (h : fs.Obstructed (base.onward some_)) : Made fs base names (fs, .error e)
  | there (loc : Location) (h : fs.Leads (base.onward names) loc .directory) :
      Made fs base names (fs, .ok ())
  | made (fs' : FileSystem) (loc : Location) (h : fs.Makes base names fs' loc) :
      Made fs base names (fs', .ok ())

theorem makeDirectory_of_leads {fs : FileSystem} {p : Path} {loc : Location} {node : Node}
    (h : fs.Leads p loc node) : fs.makeDirectory p = .error .fileExists := by
  obtain ⟨loc', node', hs⟩ := h.stay
  rw [makeDirectory, hs]

/-- A directory is not made for want of what should be above it only if the look-up says so. -/
theorem lookup_of_makeDirectory {fs : FileSystem} {p : Path}
    (h : fs.makeDirectory p = .error .noEntry) : fs.lookup .stay p = .fault .noEntry := by
  unfold makeDirectory at h
  rcases hl : fs.lookup .stay p with ⟨loc, node⟩ | loc | e
  · simp [hl] at h
  · simp [hl] at h
  · obtain rfl : e = .noEntry := by simpa [hl] using h
    rfl

theorem acceptDirectory_of_leads {fs : FileSystem} {p : Path} {loc : Location}
    (h : fs.Leads p loc .directory) (e : Errno) : fs.acceptDirectory p e = .ok () := by
  rw [acceptDirectory, isDirectory_of_leads h]

/-- Where no directory is and none can be made, something is in its way, unless what should be above
it is missing. -/
theorem obstructed_of_makeDirectory {fs : FileSystem} {p : Path} {e : Errno}
    (h : fs.makeDirectory p = .error e) (he : e ≠ .noEntry) (hd : fs.isDirectory p ≠ .ok true) :
    fs.Obstructed p := by
  refine ⟨fun hl => ?_, fun loc hl => ?_, fun loc hl => hd (isDirectory_of_leads hl)⟩
  · rw [makeDirectory, hl] at h
    exact he (Except.error.inj h).symm
  · rw [makeDirectory, hl] at h
    exact absurd h (by simp)

/-- A directory that was not made is accepted if it is there, and else nothing has changed. -/
theorem made_of_acceptDirectory {fs : FileSystem} {base : Path} {names : List Text} {e : Errno}
    (hne : names ≠ []) (h : fs.makeDirectory (base.onward names) = .error e) (he : e ≠ .noEntry) :
    fs.Made base names (fs, fs.acceptDirectory (base.onward names) e) := by
  unfold acceptDirectory
  rcases hd : fs.isDirectory (base.onward names) with e' | b
  · exact .failed e' names hne List.prefix_rfl (obstructed_of_makeDirectory h he (by simp [hd]))
  · cases b with
    | false =>
      exact .failed _ names hne List.prefix_rfl (obstructed_of_makeDirectory h he (by simp [hd]))
    | true =>
      obtain ⟨loc, hl⟩ := exists_leads_of_isDirectory hd
      exact .there loc hl

/-- A look-up in a directory does not miss what is above the last name. -/
theorem lookup_child_ne_noEntry {fs : FileSystem} {p : Path} {dir : Location} {name : Text}
    (hp : fs.Leads p dir .directory) (hn : IsPlain name) (ho : ¬IsOverlong (p.onward [name])) :
    fs.lookup .stay (p.onward [name]) ≠ .fault .noEntry := by
  obtain ⟨m, hlook⟩ := lookup_child hp hn ho .stay
  rw [hlook]
  rcases fs.node? (dir ++ [name]) with _ | (content | _ | target)
  · simp [landing, Stride.goOn]
  · simp [landing, Stride.goOn]
  · simp [landing, Stride.goOn]
  · simp [landing, Stride.goOn]

/-- A directory that is made where the look-up of its path ends at a vacant place. -/
theorem makes_put {fs : FileSystem} (ht : fs.IsTree) {base : Path} {names : List Text}
    {loc : Location} (hne : names ≠ []) (h : fs.lookup .stay (base.onward names) = .vacant loc) :
    fs.Makes base names (fs.put loc .directory) loc := by
  have hstands := stands_of_lookup ht .stay (base.onward names)
  rw [h] at hstands
  obtain ⟨hnone, dir, name, rfl, hdir⟩ := hstands
  have hput : fs.MayPut (dir ++ [name]) .directory :=
    ⟨by simp, fun old hold => absurd (hnone.symm.trans hold) (by simp)⟩
  have hfollow : fs.lookup .follow (base.onward names) = .vacant (dir ++ [name]) := by
    rw [lookup_follow_eq (by rw [h]; rfl) (by rw [h]; simp), h]
  have hleads : (fs.put (dir ++ [name]) .directory).Leads (base.onward names) (dir ++ [name])
      .directory := by
    refine lookup_keeps ht (grows_put hput).keepsWays (by rw [hfollow]; rfl) ?_ (by simp)
    rw [node?_put fs _ _ hput.1, if_pos rfl]
  refine ⟨ht.put hdir hput, grows_put hput, hleads, hnone, fun other hother => ?_⟩
  rw [node?_put fs _ _ hput.1] at hother
  by_cases ho : other = dir ++ [name]
  · subst ho
    exact ⟨hnone, List.prefix_rfl, names, hne, List.prefix_rfl, hleads⟩
  · rw [if_neg ho] at hother
    exact absurd rfl hother

/-- One more directory, made in the last of those that were made. -/
theorem Makes.onward {fs fs₁ fs₂ : FileSystem} {base : Path} {names : List Text} {name : Text}
    {loc₁ loc₂ : Location} (h₁ : fs.Makes base names fs₁ loc₁)
    (h₂ : fs₁.Makes base (names ++ [name]) fs₂ loc₂) (hin : loc₁ <+: loc₂) :
    fs.Makes base (names ++ [name]) fs₂ loc₂ := by
  refine ⟨h₂.tree, h₁.grows.trans h₂.grows, h₂.leads, h₁.grows.vacant h₂.fresh,
    fun other hother => ?_⟩
  -- a node that was changed was changed by the last step or before it
  by_cases hmid : fs₂.node? other = fs₁.node? other
  · rw [hmid] at hother
    obtain ⟨hnone, hloc, some_, hne, hpre, hl⟩ := h₁.changed other hother
    exact ⟨hnone, hloc.trans hin, some_, hne, hpre.trans (List.prefix_append _ _),
      hl.directory h₁.tree h₂.grows.keepsWays⟩
  · obtain ⟨hnone, hsome⟩ := h₂.changed other hmid
    exact ⟨h₁.grows.vacant hnone, hsome⟩

/-- A base that is a directory is found, and accepted. -/
theorem makeDirectoriesAux_of_leads {fs : FileSystem} {base : Path} {dir : Location}
    (hb : fs.Leads base dir .directory) :
    makeDirectoriesAux base.anchor base.names.reverse fs = (fs, .ok ()) := by
  have hmake : fs.makeDirectory base = .error .fileExists := makeDirectory_of_leads hb
  have haccept := acceptDirectory_of_leads hb .fileExists
  obtain ⟨anchor, above⟩ := base
  rcases List.eq_nil_or_concat above with rfl | ⟨above, name, rfl⟩
  · simp [makeDirectoriesAux, makeLast, hmake, haccept]
  · rw [List.concat_eq_append] at hmake haccept ⊢
    simp [makeDirectoriesAux, hmake, haccept]

/-- A directory that could not be made for want of one above it is made in that one, which is new, so that
nothing stands in it yet. -/
theorem Made.makeLast {fs fs₁ : FileSystem} (ht : fs.IsTree) {base : Path} {names : List Text} {name : Text}
    (hname : IsPlain name) (hmake : fs.makeDirectory (base.onward (names ++ [name])) = .error .noEntry)
    {r : Except SystemError Unit} (h : fs.Made base names (fs₁, r)) :
    fs.Made base (names ++ [name]) (match r with
      | .ok () => fs₁.makeLast (base.onward (names ++ [name]))
      | .error e => (fs₁, .error e)) := by
  have hone : (base.onward names).onward [name] = base.onward (names ++ [name]) :=
    Path.onward_onward base names [name]
  have hshort : ¬IsOverlong (base.onward (names ++ [name])) := by
    intro ho
    rw [makeDirectory, lookup_of_isOverlong ho] at hmake
    exact absurd hmake (by simp)
  cases h with
  | failed e some_ hne hpre h => exact .failed e some_ hne (hpre.trans (List.prefix_append _ _)) h
  | there loc hl =>
    refine absurd ?_ (lookup_child_ne_noEntry hl hname (hone ▸ hshort))
    rw [hone]
    exact lookup_of_makeDirectory hmake
  | made _ loc h =>
    obtain ⟨m, hlook⟩ := lookup_child h.leads hname (hone ▸ hshort) .stay
    rw [hone, h.empty ht name] at hlook
    have hnext := makes_put h.tree (by simp) hlook
    simp only [FileSystem.makeLast, makeDirectory, hlook]
    exact .made _ _ (h.onward hnext (List.prefix_append _ _))

/-- A directory that is made at once. -/
theorem makes_of_makeDirectory {fs fs₁ : FileSystem} (ht : fs.IsTree) {base : Path} {names : List Text}
    (hne : names ≠ []) (h : fs.makeDirectory (base.onward names) = .ok fs₁) :
    ∃ loc, fs.Makes base names fs₁ loc := by
  unfold makeDirectory at h
  rcases hlook : fs.lookup .stay (base.onward names) with ⟨loc, node⟩ | loc | e
  · simp [hlook] at h
  · obtain rfl : fs.put loc .directory = fs₁ := by simpa [hlook] using h
    exact ⟨loc, makes_put ht hne hlook⟩
  · simp [hlook] at h

/-- Making the directories behind a path, named last one first. -/
theorem made_makeDirectoriesAux {fs : FileSystem} (ht : fs.IsTree) {base : Path} {dir : Location}
    (hb : fs.Leads base dir .directory) (names : List Text) (hn : ∀ name ∈ names, IsPlain name) :
    fs.Made base names
      (makeDirectoriesAux base.anchor (names.reverse ++ base.names.reverse) fs) := by
  induction names using List.reverseRecOn with
  | nil =>
    rw [List.reverse_nil, List.nil_append, makeDirectoriesAux_of_leads hb]
    exact .there dir (by simpa using hb)
  | append_singleton names name ih =>
    have hp : (⟨base.anchor, (name :: (names.reverse ++ base.names.reverse)).reverse⟩ : Path)
        = base.onward (names ++ [name]) := by
      simp [Path.onward]
    have habove := ih fun name' h => hn name' (by simp [h])
    rw [List.reverse_concat, List.cons_append, makeDirectoriesAux, hp]
    -- only for want of a directory above the last is one made there, and the last tried again
    rcases hmake : fs.makeDirectory (base.onward (names ++ [name])) with e | fs₁
    · by_cases he : e = .noEntry
      · subst he
        rcases hmade : makeDirectoriesAux base.anchor (names.reverse ++ base.names.reverse) fs
          with ⟨fs₁, e | ⟨⟩⟩ <;> rw [hmade] at habove
        · exact habove.makeLast ht (hn name (by simp)) hmake
        · exact habove.makeLast ht (hn name (by simp)) hmake
      · have haccept := made_of_acceptDirectory (by simp) hmake he
        cases e with
        | noEntry => exact absurd rfl he
        | _ => exact haccept
    · obtain ⟨loc, hmakes⟩ := makes_of_makeDirectory ht (by simp) hmake
      exact .made fs₁ loc hmakes

/-- **What making directories can come to.** -/
theorem made_makeDirectories {fs : FileSystem} (ht : fs.IsTree) {base : Path} {dir : Location}
    (hb : fs.Leads base dir .directory) {names : List Text} (hn : ∀ name ∈ names, IsPlain name) :
    fs.Made base names (fs.makeDirectories (base.onward names)) := by
  have h := made_makeDirectoriesAux ht hb names hn
  rwa [← List.reverse_append] at h

end CrateSync.FileSystem
