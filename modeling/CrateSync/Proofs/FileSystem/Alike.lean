/-
# Operations on trees that agree

An operation sees the nodes on its way and no others.  On two trees that agree there it fails alike, or
it puts the same node at the same place; so the trees agree afterwards wherever they agreed before.

* `isFile_of_faults` : as long as directories and links are kept, a path that fails is as much of a file
  as before;
* `write_alike`, `copy_alike`, `makeDirectories_alike` : operations on trees that agree on their way.
-/
import CrateSync.Proofs.FileSystem.LinkFree

namespace CrateSync.FileSystem

/-! ## Walks that fail -/

/-- A walk that fails, but not because something is missing or is no directory, fails as long as
directories and links are kept. -/
theorem walk_fault_keeps {fs fs' : FileSystem} (h : fs.KeepsWays fs') {purpose : Purpose} {n : Nat}
    {loc : Location} {names : List Text} {e : Errno} (hw : walk fs purpose n loc names = .fault e)
    (hentry : e ≠ .noEntry) (hdir : e ≠ .notDirectory) : walk fs' purpose n loc names = .fault e := by
  induction n, loc, names using walk_induction with
  | arrived n loc => exact absurd hw (by simp)
  | onward n loc name rest ih behind =>
    rw [walk_cons] at hw ⊢
    rcases stride_cases purpose name rest with hs | hs | ⟨e', hs⟩ | ⟨-, hs⟩
    · rw [hs] at hw ⊢
      exact ih loc hw
    · rw [hs] at hw ⊢
      exact ih loc.dropLast hw
    · rw [hs] at hw ⊢
      exact hw
    · rw [hs] at hw ⊢
      -- where nothing or a file stands, the walk ends there or fails for one of the two reasons
      rcases hnode : fs.node? (loc ++ [name]) with _ | (content | _ | target)
      · by_cases hr : rest = []
        · simp [hnode, landing, Stride.goOn, hr] at hw
        · simp only [hnode, landing, Stride.goOn, if_neg hr, Lookup.fault.injEq] at hw
          exact absurd hw.symm hentry
      · by_cases hr : rest = []
        · simp [hnode, landing, Stride.goOn, hr] at hw
        · simp only [hnode, landing, Stride.goOn, if_neg hr, Lookup.fault.injEq] at hw
          exact absurd hw.symm hdir
      · rw [hnode] at hw
        rw [h.kept _ _ hnode rfl]
        exact ih (loc ++ [name]) hw
      · rw [hnode] at hw
        rw [h.kept _ _ hnode rfl]
        by_cases hr : rest = [] ∧ purpose = .stay
        · rw [landing, if_pos hr] at hw
          exact absurd hw (by simp [Stride.goOn])
        · rw [landing, if_neg hr] at hw ⊢
          cases n with
          | zero => exact hw
          | succ m => exact behind m rfl _ _ hw

theorem lookup_fault_keeps {fs fs' : FileSystem} (h : fs.KeepsWays fs') {purpose : Purpose} {p : Path}
    {e : Errno} (hp : fs.lookup purpose p = .fault e) (hentry : e ≠ .noEntry)
    (hdir : e ≠ .notDirectory) : fs'.lookup purpose p = .fault e := by
  by_cases ho : IsOverlong p
  · rw [lookup_of_isOverlong ho] at hp ⊢
    exact hp
  · have hs : fs'.startOf p = fs.startOf p := by rw [startOf, startOf, h.cwd]
    rw [lookup_eq_walk ho] at hp ⊢
    rw [hs]
    exact walk_fault_keeps h hp hentry hdir

theorem isFile_of_missing {fs : FileSystem} {p : Path} {e : Errno}
    (h : fs.lookup .follow p = .fault e) (he : e = .noEntry ∨ e = .notDirectory) :
    fs.isFile p = .ok false := by
  rcases he with rfl | rfl
  · rw [isFile, leadsTo, status, h]
  · rw [isFile, leadsTo, status, h]

/-- **A path that fails is as much of a file** in one of two trees with the same directories and links
as in the other. -/
theorem isFile_of_faults {fs fs' : FileSystem} (h : fs.KeepsWays fs') (h' : fs'.KeepsWays fs)
    {p : Path} {e e' : Errno} (hp : fs.lookup .follow p = .fault e)
    (hp' : fs'.lookup .follow p = .fault e') : fs'.isFile p = fs.isFile p := by
  by_cases he : e = .noEntry ∨ e = .notDirectory
  · have he' : e' = .noEntry ∨ e' = .notDirectory := by
      by_contra hother
      obtain ⟨hentry, hdir⟩ := not_or.mp hother
      obtain rfl := Lookup.fault.inj (hp.symm.trans (lookup_fault_keeps h' hp' hentry hdir))
      exact hother he
    rw [isFile_of_missing hp he, isFile_of_missing hp' he']
  · obtain ⟨hentry, hdir⟩ := not_or.mp he
    exact leadsTo_congr ((lookup_fault_keeps h hp hentry hdir).trans hp.symm) _

/-! ## Agreeing -/

/-- Two trees agree wherever two others did. -/
def StillAgree (fs fs' gs gs' : FileSystem) : Prop :=
  ∀ loc, fs'.node? loc = fs.node? loc → gs'.node? loc = gs.node? loc

section

variable {fs fs' gs gs' hs hs' : FileSystem}

theorem StillAgree.refl (fs fs' : FileSystem) : StillAgree fs fs' fs fs' :=
  fun _ h => h

theorem StillAgree.trans (h : StillAgree fs fs' gs gs') (h' : StillAgree gs gs' hs hs') :
    StillAgree fs fs' hs hs' :=
  fun loc hloc => h' loc (h loc hloc)

theorem StillAgree.along (h : StillAgree fs fs' gs gs') {dir : Location} {names : List Text}
    (ha : fs.AgreeAlong fs' dir names) : gs.AgreeAlong gs' dir names :=
  fun some_ hne hpre => h _ (ha some_ hne hpre)

/-- Two trees still agree when the same node is put at the same place. -/
theorem StillAgree.put (fs fs' : FileSystem) (loc : Location) (node : Node) :
    StillAgree fs fs' (fs.put loc node) (fs'.put loc node) := by
  intro other hother
  unfold node? at hother ⊢
  unfold FileSystem.put
  by_cases hr : other = []
  · rw [if_pos hr, if_pos hr]
  · rw [if_neg hr, if_neg hr] at hother ⊢
    rw [nodeIn?_putIn, nodeIn?_putIn, hother]

end

/-- What an operation comes to on two trees is alike: it fails with one error, or the trees still
agree. -/
inductive Alike {ε : Type} (fs fs' : FileSystem) : Except ε FileSystem → Except ε FileSystem → Prop
  | failed (e : ε) : Alike fs fs' (.error e) (.error e)
  | done {gs gs' : FileSystem} (h : StillAgree fs fs' gs gs') : Alike fs fs' (.ok gs) (.ok gs')

/-! ## Writing and copying -/

section

variable {fs fs' : FileSystem}

theorem write_alike {p : Path} (h : fs'.lookup .write p = fs.lookup .write p) (content : Octets) :
    Alike fs fs' (fs.write p content) (fs'.write p content) := by
  unfold write writeLocation
  rw [h]
  rcases fs.lookup .write p with ⟨loc, content' | _ | target⟩ | loc | e
  · exact .done (.put fs fs' loc _)
  · exact .failed _
  · exact .failed _
  · exact .done (.put fs fs' loc _)
  · exact .failed _

theorem sameNode_congr {source destination : Path}
    (hs : fs'.lookup .follow source = fs.lookup .follow source)
    (hd : fs'.lookup .follow destination = fs.lookup .follow destination) :
    fs'.sameNode source destination = fs.sameNode source destination := by
  rw [sameNode, sameNode, status_congr hs, status_congr hd]

theorem copy_alike {source destination : Path}
    (hs : fs'.lookup .follow source = fs.lookup .follow source)
    (hd : ∀ purpose, fs'.lookup purpose destination = fs.lookup purpose destination) :
    Alike fs fs' (fs.copy source destination) (fs'.copy source destination) := by
  unfold copy
  rw [sameNode_congr hs (hd .follow), status_congr (hd .follow), read_congr hs]
  split_ifs
  · exact .failed _
  · rcases fs.read source with e | content
    · exact .failed _
    · have hw := write_alike (hd .write) content
      simp only
      generalize fs.write destination content = r at hw ⊢
      generalize fs'.write destination content = r' at hw ⊢
      cases hw with
      | failed e =>
        simp only
        split_ifs
        · exact .failed _
        · exact .failed _
      | done h => exact .done h

/-! ## Making directories -/

theorem makeDirectory_alike {p : Path} (h : fs'.lookup .stay p = fs.lookup .stay p) :
    Alike fs fs' (fs.makeDirectory p) (fs'.makeDirectory p) := by
  unfold makeDirectory
  rw [h]
  rcases fs.lookup .stay p with ⟨loc, node⟩ | loc | e
  · exact .failed _
  · exact .done (.put fs fs' loc _)
  · exact .failed _

theorem acceptDirectory_congr {p : Path} (h : fs'.lookup .follow p = fs.lookup .follow p)
    (e : Errno) : fs'.acceptDirectory p e = fs.acceptDirectory p e := by
  rw [acceptDirectory, acceptDirectory, isDirectory, leadsTo_congr h, isDirectory]

/-- What making directories comes to on two trees is alike: it ends alike, and the trees still agree. -/
structure MadeAlike (fs fs' : FileSystem) (r r' : FileSystem × Except SystemError Unit) : Prop where
  outcome : r'.2 = r.2
  agree : StillAgree fs fs' r.1 r'.1

theorem makeLast_alike {p : Path}
    (h : ∀ purpose, fs'.lookup purpose p = fs.lookup purpose p) :
    MadeAlike fs fs' (fs.makeLast p) (fs'.makeLast p) := by
  have hmake := makeDirectory_alike (h .stay)
  unfold makeLast
  generalize fs.makeDirectory p = r at hmake ⊢
  generalize fs'.makeDirectory p = r' at hmake ⊢
  cases hmake with
  | failed e =>
    cases e with
    | noEntry => exact ⟨rfl, .refl fs fs'⟩
    | _ => exact ⟨acceptDirectory_congr (h .follow) _, .refl fs fs'⟩
  | done hagree => exact ⟨rfl, hagree⟩

/-- A directory with no link below it is one still when directories were made. -/
theorem Made.rooted {p : Path} {dir : Location} {names : List Text} {gs : FileSystem}
    {r : Except SystemError Unit} (hr : fs.Rooted p dir) (h : fs.Made p names (gs, r)) :
    gs.Rooted p dir := by
  cases h with
  | failed => exact hr
  | there => exact hr
  | made _ loc h =>
    refine ⟨h.tree, hr.leads.directory hr.tree h.grows.keepsWays, fun other target hpre hlink => ?_⟩
    -- what is new is a directory, so that every link was there before
    by_cases hsame : gs.node? other = fs.node? other
    · exact hr.linkFree other target hpre (hsame ▸ hlink)
    · obtain ⟨-, -, some_, -, -, hl⟩ := h.changed other hsame
      exact absurd (hlink.symm.trans (hl.stands h.tree)) (by simp)

/-- Making the directories behind a path, named last one first, on two trees that agree along them. -/
theorem makeDirectoriesAux_alike {base : Path} {dir : Location} (hr : fs.Rooted base dir)
    (hr' : fs'.Rooted base dir) {names : List Text} (hn : ∀ name ∈ names, IsPlain name)
    (ha : fs.AgreeAlong fs' dir names) :
    MadeAlike fs fs' (makeDirectoriesAux base.anchor (names.reverse ++ base.names.reverse) fs)
      (makeDirectoriesAux base.anchor (names.reverse ++ base.names.reverse) fs') := by
  induction names using List.reverseRecOn with
  | nil =>
    rw [List.reverse_nil, List.nil_append, makeDirectoriesAux_of_leads hr.leads,
      makeDirectoriesAux_of_leads hr'.leads]
    exact ⟨rfl, .refl fs fs'⟩
  | append_singleton names name ih =>
    have hnames : ∀ name ∈ names, IsPlain name := fun name' h => hn name' (by simp [h])
    have hplain : ArePlain (names ++ [name]) := ⟨by simp, hn⟩
    have hp : (⟨base.anchor, (name :: (names.reverse ++ base.names.reverse)).reverse⟩ : Path)
        = base.onward (names ++ [name]) := by
      simp [Path.onward]
    have hlook := fun purpose => hr.lookup_congr hr' hplain ha purpose
    have hmake := makeDirectory_alike (hlook .stay)
    rw [List.reverse_concat, List.cons_append, makeDirectoriesAux, makeDirectoriesAux, hp]
    generalize fs.makeDirectory (base.onward (names ++ [name])) = r at hmake ⊢
    generalize fs'.makeDirectory (base.onward (names ++ [name])) = r' at hmake ⊢
    cases hmake with
    | done hagree => exact ⟨rfl, hagree⟩
    | failed e =>
      cases e with
      | noEntry =>
        -- the directories above are made alike, and the last one after them
        have habove := ih hnames fun some_ hne hpre =>
          ha some_ hne (hpre.trans (List.prefix_append _ _))
        have hmade := made_makeDirectoriesAux hr.tree hr.leads names hnames
        have hmade' := made_makeDirectoriesAux hr'.tree hr'.leads names hnames
        rcases hm : makeDirectoriesAux base.anchor (names.reverse ++ base.names.reverse) fs
          with ⟨gs, outcome⟩
        rcases hm' : makeDirectoriesAux base.anchor (names.reverse ++ base.names.reverse) fs'
          with ⟨gs', outcome'⟩
        rw [hm] at habove hmade
        rw [hm'] at habove hmade'
        obtain ⟨houtcome, hagree⟩ := habove
        obtain rfl : outcome' = outcome := houtcome
        rcases outcome' with e | _
        · exact ⟨rfl, hagree⟩
        · have hlast := makeLast_alike
            ((hmade.rooted hr).lookup_congr (hmade'.rooted hr') hplain (hagree.along ha))
          exact ⟨hlast.outcome, hagree.trans hlast.agree⟩
      | _ => exact ⟨acceptDirectory_congr (hlook .follow) _, .refl fs fs'⟩

/-- **Making directories comes to the same** on two trees that agree along them. -/
theorem makeDirectories_alike {base : Path} {dir : Location} (hr : fs.Rooted base dir)
    (hr' : fs'.Rooted base dir) {names : List Text} (hn : ∀ name ∈ names, IsPlain name)
    (ha : fs.AgreeAlong fs' dir names) :
    MadeAlike fs fs' (fs.makeDirectories (base.onward names))
      (fs'.makeDirectories (base.onward names)) := by
  have h := makeDirectoriesAux_alike hr hr' hn ha
  rwa [← List.reverse_append] at h

end

end CrateSync.FileSystem
