/-
# Directories without links

From a directory below which no link lies, plain names lead straight on: where a look-up ends depends
on nothing but the nodes along the names, and it ends behind them, or fails because a directory on the
way is missing or a file stands there (`Below`).

* `walk_congr` : a walk ends alike where the nodes along its names are the same;
* `Rooted.below` : how a look-up from such a directory ends;
* `Rooted.leads_iff` : what a path that goes on from such a directory leads to.
-/
import CrateSync.Proofs.FileSystem.Effect

namespace CrateSync.FileSystem

/-- No link lies in a directory or below it. -/
def LinkFree (fs : FileSystem) (dir : Location) : Prop :=
  ∀ loc target, dir <+: loc → fs.node? loc ≠ some (.link target)

theorem LinkFree.further {fs : FileSystem} {dir : Location} (h : fs.LinkFree dir)
    (names : List Text) : fs.LinkFree (dir ++ names) :=
  fun loc target hloc => h loc target ((List.prefix_append dir names).trans hloc)

/-- A path along fewer names is not too long either. -/
theorem ArePlain.not_isOverlong {names some_ : List Text} (h : ArePlain names)
    (hpre : some_ <+: names) {p : Path} (ho : ¬IsOverlong (p.onward names)) :
    ¬IsOverlong (p.onward some_) := by
  obtain ⟨more, rfl⟩ := hpre
  rw [← Path.onward_onward] at ho
  by_cases hm : more = []
  · rwa [hm, Path.onward_nil] at ho
  · have hblank := all_isEmpty_of_isPlain fun name hn => h.each name (List.mem_append_right _ hn)
    exact fun hover => ho (Nat.le_trans hover
      (Path.length_encode_toText_le _ (hblank.resolve_left hm)))

/-- No link lies anywhere if every entry is a file or a directory. -/
theorem linkFree_of_entries {fs : FileSystem}
    (h : ∀ entry ∈ fs.entries, entry.2.isFile = true ∨ entry.2 = .directory) (dir : Location) :
    fs.LinkFree dir := by
  intro loc target _ hlink
  unfold node? at hlink
  by_cases hr : loc = []
  · rw [if_pos hr] at hlink
    exact absurd hlink (by simp)
  · rw [if_neg hr] at hlink
    rcases h _ (mem_of_nodeIn? hlink) with hf | hd
    · exact absurd hf (by simp [Node.isFile])
    · exact absurd hd (by simp)

/-! ## The nodes along names -/

/-- Two file systems have the same nodes at the places that names lead through from a directory. -/
def AgreeAlong (fs fs' : FileSystem) (dir : Location) (names : List Text) : Prop :=
  ∀ some_, some_ ≠ [] → some_ <+: names → fs'.node? (dir ++ some_) = fs.node? (dir ++ some_)

theorem AgreeAlong.cons {fs fs' : FileSystem} {dir : Location} {name : Text} {rest : List Text}
    (h : fs.AgreeAlong fs' dir (name :: rest)) : fs.AgreeAlong fs' (dir ++ [name]) rest := by
  intro some_ _ hpre
  have := h (name :: some_) (by simp) (List.prefix_cons_inj name |>.mpr hpre)
  simpa using this

/-- **A walk ends alike where the nodes along its names are the same**, whatever it is made for. -/
theorem walk_congr {fs fs' : FileSystem} {dir : Location} {names : List Text}
    (hn : ∀ name ∈ names, IsPlain name) (hl : fs.LinkFree dir) (h : fs.AgreeAlong fs' dir names)
    (purpose purpose' : Purpose) (n n' : Nat) :
    walk fs' purpose' n' dir names = walk fs purpose n dir names := by
  induction names generalizing dir with
  | nil => rw [walk_nil, walk_nil]
  | cons name rest ih =>
    have hname : IsPlain name := hn name (by simp)
    have hrest : ∀ name ∈ rest, IsPlain name := fun name' h => hn name' (by simp [h])
    have hblank := all_isEmpty_of_isPlain hrest
    rw [walk_cons, walk_cons, stride_of_isPlain hname (Or.inr hblank),
      stride_of_isPlain hname (Or.inr hblank), h [name] (by simp) (by simp)]
    -- without links the numbers of links that may be followed do not matter
    rcases hnode : fs.node? (dir ++ [name]) with _ | (content | _ | target)
    · rfl
    · rfl
    · exact ih hrest (hl.further [name]) h.cons
    · exact absurd hnode (hl _ _ (List.prefix_append _ _))

/-! ## How a walk ends -/

/-- How a walk along names ends from a directory below which no link lies. -/
inductive Below (fs : FileSystem) (dir : Location) (names : List Text) : Lookup → Prop
  | found (node : Node) (h : fs.node? (dir ++ names) = some node) :
      Below fs dir names (.found (dir ++ names) node)
  | vacant (hd : fs.node? (dir ++ names.dropLast) = some .directory)
      (h : fs.node? (dir ++ names) = none) : Below fs dir names (.vacant (dir ++ names))
  | missing (h : fs.node? (dir ++ names.dropLast) = none) : Below fs dir names (.fault .noEntry)
  | blocked (some_ : List Text) (content : Octets) (hne : some_ ≠ [])
      (hpre : some_ <+: names.dropLast) (h : fs.node? (dir ++ some_) = some (.file content)) :
      Below fs dir names (.fault .notDirectory)

theorem Below.cons {fs : FileSystem} {dir : Location} {name : Text} {rest : List Text} {r : Lookup}
    (hr : rest ≠ []) (h : fs.Below (dir ++ [name]) rest r) : fs.Below dir (name :: rest) r := by
  have hplace : dir ++ [name] ++ rest = dir ++ name :: rest := by simp
  have hlast : dir ++ [name] ++ rest.dropLast = dir ++ (name :: rest).dropLast := by
    rw [List.dropLast_cons_of_ne_nil hr]
    simp
  cases h with
  | found node h =>
    rw [hplace] at h ⊢
    exact .found node h
  | vacant hd h =>
    rw [hplace] at h ⊢
    exact .vacant (hlast ▸ hd) h
  | missing h => exact .missing (hlast ▸ h)
  | blocked some_ content hne hpre h =>
    refine .blocked (name :: some_) content (by simp) ?_ (by simpa using h)
    rw [List.dropLast_cons_of_ne_nil hr]
    exact (List.prefix_cons_inj name).mpr hpre

/-- **How a walk ends** from a directory below which no link lies. -/
theorem below_walk {fs : FileSystem} (ht : fs.IsTree) {dir : Location} {names : List Text}
    (hd : fs.node? dir = some .directory) (hl : fs.LinkFree dir) (hne : names ≠ [])
    (hn : ∀ name ∈ names, IsPlain name) (purpose : Purpose) (n : Nat) :
    fs.Below dir names (walk fs purpose n dir names) := by
  induction names generalizing dir with
  | nil => exact absurd rfl hne
  | cons name rest ih =>
    have hname : IsPlain name := hn name (by simp)
    have hrest : ∀ name ∈ rest, IsPlain name := fun name' h => hn name' (by simp [h])
    rw [walk_cons, stride_of_isPlain hname (Or.inr (all_isEmpty_of_isPlain hrest))]
    by_cases hr : rest = []
    · subst hr
      rcases hnode : fs.node? (dir ++ [name]) with _ | (content | _ | target)
      · exact .vacant (by simpa using hd) hnode
      · exact .found _ hnode
      · simp only [landing, Stride.goOn, walk_nil]
        exact .found _ hnode
      · exact absurd hnode (hl _ _ (List.prefix_append _ _))
    · rcases hnode : fs.node? (dir ++ [name]) with _ | (content | _ | target)
      · simp only [landing, Stride.goOn, if_neg hr]
        refine .missing ?_
        have := ht.vacant_below hnode rest.dropLast
        rw [List.dropLast_cons_of_ne_nil hr]
        simpa using this
      · simp only [landing, Stride.goOn, if_neg hr]
        refine .blocked [name] content (by simp) ?_ hnode
        rw [List.dropLast_cons_of_ne_nil hr]
        exact List.prefix_append [name] _
      · exact (ih hnode (hl.further [name]) hr hrest).cons hr
      · exact absurd hnode (hl _ _ (List.prefix_append _ _))

/-! ## Look-ups from such a directory -/

/-- A path leads to a directory of a tree, and no link lies below that. -/
structure Rooted (fs : FileSystem) (p : Path) (dir : Location) : Prop where
  tree : fs.IsTree
  leads : fs.Leads p dir .directory
  linkFree : fs.LinkFree dir

section

variable {fs fs' : FileSystem} {p : Path} {dir : Location} {names : List Text}

theorem Rooted.lookup_eq_walk (hr : fs.Rooted p dir) (hn : ArePlain names)
    (ho : ¬IsOverlong (p.onward names)) (purpose : Purpose) :
    ∃ m, fs.lookup purpose (p.onward names) = walk fs purpose m dir names := by
  rcases lookup_onward fs p with ⟨dir', m, hdir, hmore⟩ | ⟨hdir, -⟩
  · obtain ⟨rfl, -⟩ := hr.leads.unique hdir
    exact ⟨m, hmore purpose names hn.not_blank ho⟩
  · exact absurd hr.leads (hdir dir)

/-- **How a look-up ends** from a directory below which no link lies. -/
theorem Rooted.below (hr : fs.Rooted p dir) (hn : ArePlain names)
    (ho : ¬IsOverlong (p.onward names)) (purpose : Purpose) :
    fs.Below dir names (fs.lookup purpose (p.onward names)) := by
  obtain ⟨m, hlook⟩ := hr.lookup_eq_walk hn ho purpose
  rw [hlook]
  exact below_walk hr.tree (hr.leads.stands hr.tree) hr.linkFree hn.ne_nil hn.each purpose m

/-- A look-up ends alike where the nodes along its names are the same. -/
theorem Rooted.lookup_congr (hr : fs.Rooted p dir) (hr' : fs'.Rooted p dir) (hn : ArePlain names)
    (h : fs.AgreeAlong fs' dir names) (purpose : Purpose) :
    fs'.lookup purpose (p.onward names) = fs.lookup purpose (p.onward names) := by
  by_cases ho : IsOverlong (p.onward names)
  · rw [lookup_of_isOverlong ho, lookup_of_isOverlong ho]
  · obtain ⟨m, hlook⟩ := hr.lookup_eq_walk hn ho purpose
    obtain ⟨m', hlook'⟩ := hr'.lookup_eq_walk hn ho purpose
    rw [hlook, hlook']
    exact walk_congr hn.each hr.linkFree h ..

/-- **What a path leads to** that goes on from a directory below which no link lies. -/
theorem Rooted.leads_iff (hr : fs.Rooted p dir) (hn : ArePlain names) {loc : Location}
    {node : Node} : fs.Leads (p.onward names) loc node
      ↔ ¬IsOverlong (p.onward names) ∧ loc = dir ++ names ∧ fs.node? loc = some node := by
  constructor
  · intro hl
    have ho := not_isOverlong_of_location hl.location
    have hb := hr.below hn ho .follow
    rw [show fs.lookup .follow (p.onward names) = _ from hl] at hb
    cases hb with
    | found _ h => exact ⟨ho, rfl, h⟩
  · rintro ⟨ho, rfl, hs⟩
    have hb := hr.below hn ho .follow
    have hlast : dir ++ names = (dir ++ names.dropLast) ++ [names.getLast hn.ne_nil] := by
      rw [List.append_assoc, List.dropLast_concat_getLast]
    unfold Leads
    generalize fs.lookup .follow (p.onward names) = r at hb
    cases hb with
    | found node' h =>
      rw [h] at hs
      rw [Option.some.inj hs]
    | vacant hd h =>
      rw [h] at hs
      exact absurd hs (by simp)
    | missing h =>
      rw [hlast, hr.tree.vacant_below h] at hs
      exact absurd hs (by simp)
    | blocked some_ content hne hpre h =>
      -- what stands behind all names stands below a file
      obtain ⟨more, hmore⟩ := hpre
      rw [hlast, ← hmore, ← List.append_assoc, List.append_assoc] at hs
      rw [hr.tree.directory_above (by simp) hs] at h
      exact absurd h (by simp)

/-- Whether a path leads somewhere that goes on from a directory below which no link lies. -/
theorem Rooted.exists_eq (hr : fs.Rooted p dir) (hn : ArePlain names)
    (ho : ¬IsOverlong (p.onward names)) :
    fs.exists? (p.onward names) = .ok (fs.node? (dir ++ names)).isSome := by
  rcases hs : fs.node? (dir ++ names) with _ | node
  · have hb := hr.below hn ho .follow
    unfold exists? leadsTo status
    generalize fs.lookup .follow (p.onward names) = r at hb
    cases hb with
    | found node h =>
      rw [hs] at h
      exact absurd h (by simp)
    | vacant | missing | blocked => rfl
  · exact leadsTo_of_leads ((hr.leads_iff hn).mpr ⟨ho, rfl, hs⟩) _

/-- A path that does not exist is not too long, and nothing stands where it would lead. -/
theorem Rooted.missing_of_exists (hr : fs.Rooted p dir) (hn : ArePlain names)
    (h : fs.exists? (p.onward names) = .ok false) :
    ¬IsOverlong (p.onward names) ∧ fs.node? (dir ++ names) = none := by
  have ho := not_isOverlong_of_leadsTo h
  rw [hr.exists_eq hn ho] at h
  exact ⟨ho, by simpa using h⟩

/-- A file can be filled. -/
theorem Rooted.write_of_file (hr : fs.Rooted p dir) (hn : ArePlain names) {loc : Location}
    {old : Octets} (h : fs.Leads (p.onward names) loc (.file old)) (content : Octets) :
    ∃ fs', fs.write (p.onward names) content = .ok fs' := by
  obtain ⟨ho, rfl, hs⟩ := (hr.leads_iff hn).mp h
  have hlook : fs.lookup .write (p.onward names) = .found (dir ++ names) (.file old) := by
    obtain ⟨m, hw⟩ := hr.lookup_eq_walk hn ho .write
    obtain ⟨m', hf⟩ := hr.lookup_eq_walk hn ho .follow
    rw [hw, ← show fs.lookup .follow (p.onward names) = _ from h, hf]
    exact walk_congr hn.each hr.linkFree (fun _ _ _ => rfl) ..
  exact ⟨_, by rw [write, writeLocation, hlook]; rfl⟩

/-- A file that does not exist can be made in a directory. -/
theorem Rooted.write_of_missing (hr : fs.Rooted p dir) (hn : ArePlain names)
    (ho : ¬IsOverlong (p.onward names)) (hs : fs.node? (dir ++ names) = none)
    (hd : fs.node? (dir ++ names.dropLast) = some .directory) (content : Octets) :
    ∃ fs', fs.write (p.onward names) content = .ok fs' := by
  have hb := hr.below hn ho .write
  unfold write writeLocation
  generalize fs.lookup .write (p.onward names) = r at hb
  cases hb with
  | found node h =>
    rw [hs] at h
    exact absurd h (by simp)
  | vacant hd h => exact ⟨_, rfl⟩
  | missing h =>
    rw [hd] at h
    exact absurd h (by simp)
  | blocked some_ content hne hpre h =>
    -- the directory would lie below a file
    obtain ⟨more, hmore⟩ := hpre
    rw [← hmore, ← List.append_assoc] at hd
    exact absurd hd (hr.tree.no_directory_below h more)

/-- What is in the way of a directory is a file. -/
theorem Rooted.file_of_obstructed (hr : fs.Rooted p dir) (hn : ArePlain names)
    (ho : ¬IsOverlong (p.onward names)) (h : fs.Obstructed (p.onward names)) :
    ∃ some_ content, some_ ≠ [] ∧ some_ <+: names
      ∧ fs.node? (dir ++ some_) = some (.file content) := by
  have hb := hr.below hn ho .stay
  have hseen := h.seen
  have htaken := h.taken
  generalize fs.lookup .stay (p.onward names) = r at hb hseen htaken
  cases hb with
  | found node hs =>
    rcases node with content | _ | target
    · exact ⟨names, content, hn.ne_nil, List.prefix_rfl, hs⟩
    · exact absurd ((hr.leads_iff hn).mpr ⟨ho, rfl, hs⟩) (h.other _)
    · exact absurd hs (hr.linkFree _ _ (List.prefix_append _ _))
  | vacant hd hs => exact absurd rfl (htaken _)
  | missing hs => exact absurd rfl hseen
  | blocked some_ content hne hpre hs =>
    have hlast : names.dropLast <+: names := List.dropLast_prefix names
    exact ⟨some_, content, hne, hpre.trans hlast, hs⟩

end

end CrateSync.FileSystem
