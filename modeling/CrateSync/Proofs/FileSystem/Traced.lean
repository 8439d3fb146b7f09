/-
# Paths without links

The paths that resolving comes to: from the root, or so many steps above the working directory, names on
that no link has.  Such a path leads to what stands at its place, and names resolve from it as they do
from its absolute form.

* `Traced` : these paths; names lead from one to one (`Resolves.traced`);
* `Resolves.absolute`, `Meets.absolute` : what names lead to and meet does not depend on how the path
  before them is written, so that no link is met on the way to its own target (`LinksAcyclic.not_meets`);
* `Traced.leads_iff`, `Traced.linkTarget?_child` : what a look-up along such a path finds.
-/
import Mathlib.Logic.Function.Iterate
import CrateSync.Proofs.FileSystem.Resolution

namespace CrateSync

namespace Path

/-! ## Steps up -/

theorem up_above (k : Nat) :
    up ⟨.relative, List.replicate k ['.', '.']⟩ = ⟨.relative, List.replicate (k + 1) ['.', '.']⟩ := by
  cases k with
  | zero => rfl
  | succ k => simp [up, isAbsolute, child, List.getLast?_replicate, List.replicate_succ']

theorem up_child {name : Text} (hn : name ≠ ['.', '.']) (p : Path) : (p.child name).up = p := by
  have hup : (p.child name).up = (p.child name).parent := by
    unfold up
    split_ifs with ha
    · rfl
    · simp [child, hn]
  rw [hup, parent_child]

end Path

namespace FileSystem

open Text (splitOn)

variable {fs : FileSystem}

/-! ## Paths without links -/

/-- A path that resolving comes to: the root or so many steps above the working directory, and names on
from there that no link has. -/
inductive Traced (fs : FileSystem) : Path → Prop
  | root : Traced fs (.absolute [])
  | above (k : Nat) : Traced fs ⟨.relative, List.replicate k ['.', '.']⟩
  | child {p : Path} {name : Text} (h : Traced fs p) (hn : IsProper name)
      (hl : fs.linkAt? (p.child name) = none) : Traced fs (p.child name)

theorem Traced.up {p : Path} (h : fs.Traced p) : fs.Traced p.up := by
  cases h with
  | root => exact .root
  | above k =>
    rw [Path.up_above]
    exact .above (k + 1)
  | child h hn _ => rwa [Path.up_child hn.ne_dots]

theorem Traced.linkStart {p : Path} (h : fs.Traced p) (target : Text) :
    fs.Traced (linkStart p target) := by
  unfold FileSystem.linkStart
  split_ifs
  · exact .root
  · exact h

/-- Names lead from a path without links to one. -/
theorem Resolves.traced {p q : Path} {names : List Text} (h : Resolves fs p names q)
    (hp : fs.Traced p) : fs.Traced q := by
  induction h with
  | arrived => exact hp
  | skip _ _ ih => exact ih hp
  | up _ ih => exact ih hp.up
  | plain hn hl _ ih => exact ih (hp.child hn hl)
  | link _ _ _ _ iht ih => exact ih (iht (hp.linkStart _))

/-! ## Their places -/

theorem place_above (k : Nat) :
    fs.place ⟨.relative, List.replicate k ['.', '.']⟩ = List.dropLast^[k] (Path.collapse fs.cwd) := by
  have hfold : ∀ loc : Location, (List.replicate k ['.', '.']).foldl
      (fun loc name => if name = [] ∨ name = ['.'] then loc
        else if name = ['.', '.'] then loc.dropLast else loc ++ [name]) loc = List.dropLast^[k] loc := by
    induction k with
    | zero => exact fun loc => rfl
    | succ k ih => exact fun loc => ih loc.dropLast
  change Path.collapse (fs.cwd ++ List.replicate k ['.', '.']) = _
  rw [Path.collapse, List.foldl_append]
  exact hfold _

theorem Traced.place_up {p : Path} (h : fs.Traced p) : fs.place p.up = (fs.place p).dropLast := by
  cases h with
  | root => rfl
  | above k => rw [Path.up_above, place_above, place_above, Function.iterate_succ_apply']
  | child h hn _ => rw [Path.up_child hn.ne_dots, place_child hn, List.dropLast_concat]

theorem Traced.absolutePath_eq {p : Path} (h : fs.Traced p) :
    fs.absolutePath p = .absolute (fs.place p) := by
  have hanchor : p.anchor ≠ .doubleRoot := by
    induction h with
    | root => simp [Path.absolute]
    | above k => simp
    | child _ _ _ ih => exact ih
  unfold place absolutePath Path.isAbsolute
  rcases p with ⟨_ | _ | _, names⟩
  · rfl
  · rfl
  · exact absurd rfl hanchor

section

variable (ht : fs.IsTree) (hnames : fs.WellNamed)

include ht hnames

/-- A directory stands above the working directory. -/
theorem node?_place_above (k : Nat) :
    fs.node? (fs.place ⟨.relative, List.replicate k ['.', '.']⟩) = some .directory := by
  rw [place_above, Path.collapse_of_isProper fun name hname => hnames.proper ht.cwd hname]
  induction k with
  | zero => exact ht.cwd
  | succ k ih =>
    rw [Function.iterate_succ_apply']
    exact ht.dropLast ih

theorem Traced.isProper_of_mem_place {p : Path} (h : fs.Traced p) :
    ∀ name ∈ fs.place p, IsProper name := by
  induction h with
  | root => simp [Path.collapse]
  | above k => exact fun name hname => hnames.proper (node?_place_above ht hnames k) hname
  | child _ hn _ ih =>
    rw [place_child hn]
    intro name hname
    rcases List.mem_append.mp hname with hname | hname
    · exact ih name hname
    · rwa [List.mem_singleton.mp hname]

/-- The place of a path has itself as place. -/
theorem Traced.place_place {p : Path} (h : fs.Traced p) :
    fs.place (.absolute (fs.place p)) = fs.place p :=
  Path.collapse_of_isProper (h.isProper_of_mem_place ht hnames)

theorem Traced.linkAt?_place {p : Path} (h : fs.Traced p) {name : Text} (hn : IsProper name) :
    fs.linkAt? (Path.child (.absolute (fs.place p)) name) = fs.linkAt? (p.child name) := by
  unfold linkAt?
  rw [place_child hn, place_child hn, h.place_place ht hnames]

/-- The path of a directory from the root is one without links. -/
theorem traced_of_directory {loc : Location} (h : fs.node? loc = some .directory) :
    fs.Traced (.absolute loc) := by
  induction loc using List.reverseRecOn with
  | nil => exact .root
  | append_singleton dir name ih =>
    have hproper : ∀ name' ∈ dir ++ [name], IsProper name' := fun _ hname => hnames.proper h hname
    refine Traced.child (p := .absolute dir) (ih (ht.parent dir name _ h)) (hproper name (by simp)) ?_
    have hplace : fs.place (Path.child (.absolute dir) name) = dir ++ [name] :=
      Path.collapse_of_isProper hproper
    rw [linkAt?, hplace, h]

/-- The absolute form of a path without links is one. -/
theorem Traced.absolute {p : Path} (h : fs.Traced p) : fs.Traced (.absolute (fs.place p)) := by
  induction h with
  | root => exact .root
  | above k => exact traced_of_directory ht hnames (node?_place_above ht hnames k)
  | child h hn hl ih =>
    rw [place_child hn]
    exact ih.child hn (by rwa [h.linkAt?_place ht hnames hn])

omit ht hnames in
theorem linkStart_place (p : Path) (target : Text) :
    linkStart (.absolute (fs.place p)) target = .absolute (fs.place (linkStart p target)) := by
  unfold linkStart
  split_ifs <;> rfl

/-- What names lead to does not depend on how the path before them is written. -/
theorem Resolves.absolute {p q : Path} {names : List Text} (h : Resolves fs p names q)
    (hp : fs.Traced p) :
    Resolves fs (.absolute (fs.place p)) names (.absolute (fs.place q)) := by
  induction h with
  | arrived => exact .arrived _
  | skip hn _ ih => exact .skip hn (ih hp)
  | up _ ih =>
    have hup := ih hp.up
    rw [hp.place_up] at hup
    exact .up hup
  | plain hn hl _ ih =>
    have hchild := ih (hp.child hn hl)
    rw [place_child hn] at hchild
    exact .plain hn (by rwa [hp.linkAt?_place ht hnames hn]) hchild
  | link hn hl ht' _ iht ih =>
    have htarget := iht (hp.linkStart _)
    rw [← linkStart_place] at htarget
    exact .link hn (by rwa [hp.linkAt?_place ht hnames hn]) htarget (ih (ht'.traced (hp.linkStart _)))

/-- What names meet does not depend on how the path before them is written. -/
theorem Meets.absolute {p met : Path} {names : List Text} (h : Meets fs p names met)
    (hp : fs.Traced p) : Meets fs (.absolute (fs.place p)) names (.absolute (fs.place met)) := by
  induction h with
  | here hn =>
    rw [place_child hn]
    exact .here hn
  | skip hn _ ih => exact .skip hn (ih hp)
  | up _ ih =>
    have hup := ih hp.up
    rw [hp.place_up] at hup
    exact .up hup
  | plain hn hl _ ih =>
    have hchild := ih (hp.child hn hl)
    rw [place_child hn] at hchild
    exact .plain hn (by rwa [hp.linkAt?_place ht hnames hn]) hchild
  | inside hn hl _ ih =>
    have hinside := ih (hp.linkStart _)
    rw [← linkStart_place] at hinside
    exact .inside hn (by rwa [hp.linkAt?_place ht hnames hn]) hinside
  | behind hn hl ht' _ ih =>
    have htarget := ht'.absolute ht hnames (hp.linkStart _)
    rw [← linkStart_place] at htarget
    exact .behind hn (by rwa [hp.linkAt?_place ht hnames hn]) htarget (ih (ht'.traced (hp.linkStart _)))

/-- Where links form no cycle, a link is not met on the way to its own target. -/
theorem LinksAcyclic.not_meets (hacyclic : fs.LinksAcyclic) {p : Path} (hp : fs.Traced p)
    {name target : Text} (hn : IsProper name) (hl : fs.linkAt? (p.child name) = some target) :
    ¬Meets fs (linkStart p target) (splitOn '/' target) (p.child name) := by
  intro hmeets
  have habsolute := hmeets.absolute ht hnames (hp.linkStart target)
  rw [place_child hn, ← linkStart_place] at habsolute
  rw [linkAt?_eq_some, place_child hn] at hl
  refine hacyclic _ target hl ?_
  rwa [List.dropLast_concat]

/-! ## Their look-ups -/

omit ht hnames in
/-- A path that leads on is the longer one. -/
theorem not_isOverlong_of_child {p : Path} {name : Text} (hn : IsProper name)
    (ho : ¬IsOverlong (p.child name)) : ¬IsOverlong p := by
  have hblank : [name].all List.isEmpty = false := by simpa using hn.ne_nil
  exact fun hover => ho (Nat.le_trans hover (p.length_encode_toText_le hblank))

omit ht hnames in
/-- A name is not too long if a look-up goes past it. -/
theorem isPlain_of_location {p : Path} {name : Text} (hn : IsProper name) {purpose : Purpose}
    {loc : Location} (h : (fs.lookup purpose (p.child name)).location? = some loc) : IsPlain name := by
  refine ⟨hn.ne_nil, hn.ne_dot, hn.ne_dots, Nat.not_lt.mp fun hlong => ?_⟩
  have hblank : [name].all List.isEmpty = false := by simpa using hn.ne_nil
  have hfault : ∃ e, fs.lookup purpose (p.onward [name]) = .fault e := by
    rcases lookup_onward fs p with ⟨dir, m, -, hmore⟩ | ⟨-, hmore⟩
    · refine ⟨.nameTooLong, ?_⟩
      rw [hmore purpose [name] hblank (not_isOverlong_of_location h), walk_cons, stride,
        if_neg hn.not_skipped, if_neg hn.ne_dots, if_neg (by simp), if_pos hlong]
      rfl
    · exact hmore purpose [name] hblank
  obtain ⟨e, he⟩ := hfault
  rw [show fs.lookup purpose (p.child name) = _ from he] at h
  exact absurd h (by simp [Lookup.location?])

omit ht hnames in
/-- A look-up that goes past a path has landed under the place of the path, if that is where it leads. -/
theorem lookup_child_of_location {p : Path} (hp : ∀ dir, fs.Leads p dir .directory → dir = fs.place p)
    {name : Text} (hn : IsProper name) {purpose : Purpose} {loc : Location}
    (h : (fs.lookup purpose (p.child name)).location? = some loc) :
    ∃ m, fs.lookup purpose (p.child name)
      = (landing purpose (fs.place p) name [] (fs.node? (fs.place p ++ [name]))).goOn fs purpose m [] := by
  have hblank : [name].all List.isEmpty = false := by simpa using hn.ne_nil
  obtain ⟨dir, hdir⟩ := exists_leads_directory hblank h
  obtain rfl := hp dir hdir
  exact lookup_child hdir (isPlain_of_location hn h) (not_isOverlong_of_location h) purpose

omit ht hnames in
theorem walk_dots (k : Nat) (loc : Location) {purpose : Purpose} {n : Nat} :
    walk fs purpose n loc (List.replicate k ['.', '.']) = .found (List.dropLast^[k] loc) .directory := by
  induction k generalizing loc with
  | zero => exact walk_nil ..
  | succ k ih =>
    rw [List.replicate_succ, walk_cons]
    exact ih loc.dropLast

omit hnames in
theorem leads_iff_of_leads {p : Path} {loc : Location} (h : fs.Leads p loc .directory) (dir : Location) :
    fs.Leads p dir .directory ↔ dir = loc ∧ fs.node? dir = some .directory := by
  constructor
  · intro hdir
    exact ⟨(h.unique hdir).1.symm, hdir.stands ht⟩
  · rintro ⟨rfl, -⟩
    exact h

/-- **A path without links leads to the directory at its place**, and to no other. -/
theorem Traced.leads_iff {p : Path} (h : fs.Traced p) (ho : ¬IsOverlong p) (dir : Location) :
    fs.Leads p dir .directory ↔ dir = fs.place p ∧ fs.node? dir = some .directory := by
  have hcwd : ∀ name ∈ fs.cwd, IsProper name := fun _ hname => hnames.proper ht.cwd hname
  induction h generalizing dir with
  | root =>
    refine leads_iff_of_leads ht ?_ dir
    rw [Leads, lookup_eq_walk ho]
    exact walk_nil ..
  | above k =>
    refine leads_iff_of_leads ht ?_ dir
    rw [Leads, lookup_eq_walk ho, place_above, Path.collapse_of_isProper hcwd]
    exact walk_dots k fs.cwd
  | child h hn hl ih =>
    rename_i p name
    have hfree : ∀ target, fs.node? (fs.place p ++ [name]) ≠ some (.link target) := by
      intro target hlink
      rw [← place_child hn] at hlink
      exact absurd (hl.symm.trans (linkAt?_eq_some.mpr hlink)) (by simp)
    have ih := ih (not_isOverlong_of_child hn ho)
    rw [place_child hn]
    constructor
    · -- the look-up lands under the name in the place of the path above, where no link is
      intro hleads
      obtain ⟨m, hlook⟩ :=
        lookup_child_of_location (fun dir hdir => ((ih dir).mp hdir).1) hn hleads.location
      refine ⟨?_, hleads.stands ht⟩
      rw [show fs.lookup .follow (p.child name) = _ from hleads] at hlook
      rcases hnode : fs.node? (fs.place p ++ [name]) with _ | node
      · rw [hnode] at hlook
        exact absurd hlook (by simp [landing, Stride.goOn])
      · have hlink : ∀ target, node ≠ .link target := by
          rintro target rfl
          exact hfree target hnode
        rw [hnode, goOn_landing_nil fs .follow m _ name hlink] at hlook
        exact (Lookup.found.inj hlook).1
    · rintro ⟨rfl, hnode⟩
      have hdir := (ih _).mpr ⟨rfl, ht.parent _ _ _ hnode⟩
      have hplain := hnames.plain _ _ hnode name (by simp)
      obtain ⟨m, hlook⟩ := lookup_child hdir hplain ho .follow
      rw [hnode] at hlook
      exact hlook.trans (walk_nil ..)

omit ht hnames in
theorem linkTarget?_eq_some {p : Path} {target : Text} :
    fs.linkTarget? p = some target ↔ ∃ loc, fs.lookup .stay p = .found loc (.link target) := by
  unfold linkTarget?
  rcases fs.lookup .stay p with ⟨loc, content | _ | target'⟩ | loc | e <;> simp

/-- **A look-up sees a link where one stands**, if the path is not too long. -/
theorem Traced.linkTarget?_child {p : Path} (h : fs.Traced p) {name : Text} (hn : IsProper name)
    (ho : ¬IsOverlong (p.child name)) : fs.linkTarget? (p.child name) = fs.linkAt? (p.child name) := by
  have hleads := h.leads_iff ht hnames (not_isOverlong_of_child hn ho)
  ext target
  rw [linkTarget?_eq_some, linkAt?_eq_some, place_child hn]
  constructor
  · rintro ⟨loc, hfound⟩
    have hloc : (fs.lookup .stay (p.child name)).location? = some loc := by
      rw [hfound]
      rfl
    obtain ⟨m, hlook⟩ := lookup_child_of_location (fun dir hdir => ((hleads dir).mp hdir).1) hn hloc
    rw [hfound] at hlook
    rcases hnode : fs.node? (fs.place p ++ [name]) with _ | node
    · rw [hnode] at hlook
      exact absurd hlook (by simp [landing, Stride.goOn])
    · rw [hnode, goOn_landing_stay] at hlook
      rw [(Lookup.found.inj hlook).2]
  · intro hnode
    have hdir := (hleads _).mpr ⟨rfl, ht.parent _ _ _ hnode⟩
    have hplain := hnames.plain _ _ hnode name (by simp)
    obtain ⟨m, hlook⟩ := lookup_child hdir hplain ho .stay
    rw [hnode, goOn_landing_stay] at hlook
    exact ⟨_, hlook⟩

end

end FileSystem

end CrateSync
