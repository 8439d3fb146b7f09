/-
# Where paths lead

A path leads to a node at a location.  A look-up is a walk unless the path is too long, so what is
known of walks is known of look-ups: a path keeps leading where it led as the tree grows, and a path
that goes on from a directory passes it.

* `lookup_keeps` : a look-up ends where it ended before;
* `lookup_onward` : a path that goes on from another passes the directory that the other leads to.
-/
import CrateSync.FileSystem.Access
import CrateSync.Proofs.FileSystem.Walk
import CrateSync.Proofs.Text.Utf8

namespace CrateSync

/-! ## Lengths of written paths -/

namespace Text

/-- Joining two lists of pieces joins the results. -/
theorem joinWith_append (sep : Text) {pieces more : List Text} (hp : pieces ≠ []) (hm : more ≠ []) :
    joinWith sep (pieces ++ more) = joinWith sep pieces ++ sep ++ joinWith sep more := by
  induction pieces with
  | nil => exact absurd rfl hp
  | cons piece rest ih =>
    cases rest with
    | nil =>
      obtain ⟨next, others, rfl⟩ := List.exists_cons_of_ne_nil hm
      rfl
    | cons next others =>
      have := ih (by simp)
      simp only [List.cons_append, joinWith] at this ⊢
      rw [this]
      simp

end Text

namespace Path

/-- The path that goes on along names. -/
def onward (p : Path) (names : List Text) : Path :=
  ⟨p.anchor, p.names ++ names⟩

@[simp] theorem onward_nil (p : Path) : p.onward [] = p := by
  simp [onward]

theorem onward_onward (p : Path) (names more : List Text) :
    (p.onward names).onward more = p.onward (names ++ more) := by
  simp [onward]

theorem along_eq_onward (p : Path) {t : Text} (h : (ofText t).anchor = .relative) :
    p.along t = p.onward (ofText t).names :=
  append_names_of_relative h

/-- Names that are not all empty are written with some character. -/
theorem joinWith_ne_nil {names : List Text} (h : names.all List.isEmpty = false) (sep : Text) :
    Text.joinWith sep names ≠ [] := by
  induction names with
  | nil => exact absurd h (by simp)
  | cons name rest ih =>
    cases rest with
    | nil => simpa [Text.joinWith] using h
    | cons next others =>
      intro hj
      simp only [Text.joinWith, List.append_eq_nil_iff] at hj
      refine ih ?_ hj.2
      rw [List.all_cons, hj.1.1] at h
      simpa using h

/-- A path that goes on is written with at least as many octets. -/
theorem length_encode_toText_le (p : Path) {names : List Text}
    (h : names.all List.isEmpty = false) :
    (Text.encode p.toText).length ≤ (Text.encode (p.onward names).toText).length := by
  obtain ⟨anchor, first⟩ := p
  have hne : names ≠ [] := by
    rintro rfl
    exact absurd h (by simp)
  have hpos : 1 ≤ (Text.encode (Text.joinWith ['/'] names)).length :=
    Nat.le_trans (List.length_pos_iff.mpr (joinWith_ne_nil h _)) (Text.length_le_length_encode _)
  by_cases hf : first = []
  · subst hf
    cases anchor with
    | relative =>
      have hone : (Text.encode ['.']).length = 1 := by decide
      simpa [toText, onward, hne, hone] using hpos
    | root => simp [toText, onward, Text.joinWith, Text.encode]
    | doubleRoot => simp [toText, onward, Text.joinWith, Text.encode]
  · have hj := Text.joinWith_append ['/'] hf hne
    cases anchor with
    | relative =>
      simp only [toText, onward, List.isEmpty_iff, hf, List.append_eq_nil_iff, false_and, if_false,
        hj, Text.encode_append, List.length_append]
      omega
    | root =>
      simp only [toText, onward, hj, Text.encode, List.flatMap_cons, List.flatMap_append,
        List.length_append]
      omega
    | doubleRoot =>
      simp only [toText, onward, hj, Text.encode, List.flatMap_cons, List.flatMap_append,
        List.length_append]
      omega

end Path

namespace FileSystem

/-! ## Look-ups as walks -/

/-- Whether a path is too long to be looked up. -/
def IsOverlong (p : Path) : Prop :=
  pathOctetsLimit ≤ (Text.encode p.toText).length

instance (p : Path) : Decidable (IsOverlong p) :=
  inferInstanceAs (Decidable (pathOctetsLimit ≤ (Text.encode p.toText).length))

/-- The directory where a look-up starts. -/
def startOf (fs : FileSystem) (p : Path) : Location :=
  if p.isAbsolute then [] else fs.cwd

theorem lookup_eq_walk {fs : FileSystem} {p : Path} (h : ¬IsOverlong p) (purpose : Purpose) :
    fs.lookup purpose p = walk fs purpose maxLinks (fs.startOf p) p.names :=
  if_neg h

theorem lookup_of_isOverlong {fs : FileSystem} {p : Path} (h : IsOverlong p) (purpose : Purpose) :
    fs.lookup purpose p = .fault .nameTooLong :=
  if_pos h

/-- A path whose look-up ends somewhere is not too long. -/
theorem not_isOverlong_of_location {fs : FileSystem} {p : Path} {purpose : Purpose}
    {loc : Location} (h : (fs.lookup purpose p).location? = some loc) : ¬IsOverlong p := by
  intro ho
  rw [lookup_of_isOverlong ho] at h
  exact absurd h (by simp [Lookup.location?])

theorem node?_startOf {fs : FileSystem} (ht : fs.IsTree) (p : Path) :
    fs.node? (fs.startOf p) = some .directory := by
  unfold startOf
  by_cases ha : p.isAbsolute
  · rw [if_pos ha, node?_root]
  · rw [if_neg ha, ht.cwd]

/-- What a look-up finds in a tree stands there. -/
theorem stands_of_lookup {fs : FileSystem} (ht : fs.IsTree) (purpose : Purpose) (p : Path) :
    (fs.lookup purpose p).Stands fs := by
  by_cases ho : IsOverlong p
  · rw [lookup_of_isOverlong ho]
    trivial
  · rw [lookup_eq_walk ho]
    exact stands_of_walk ht purpose _ _ (node?_startOf ht p)

/-- Where a look-up ends does not depend on what it is made for, unless it ends at a link. -/
theorem lookup_follow_eq {fs : FileSystem} {purpose : Purpose} {p : Path} {loc : Location}
    (h : (fs.lookup purpose p).location? = some loc)
    (hl : ∀ target, fs.lookup purpose p ≠ .found loc (.link target)) :
    fs.lookup .follow p = fs.lookup purpose p := by
  have ho := not_isOverlong_of_location h
  rw [lookup_eq_walk ho] at h hl ⊢
  rw [lookup_eq_walk ho]
  exact walk_follow_eq h hl

/-- **A look-up ends where it ended before, if directories and links are kept.** -/
theorem lookup_keeps {fs fs' : FileSystem} (ht : fs.IsTree) (h : fs.KeepsWays fs')
    {purpose : Purpose} {p : Path} {loc : Location} {node : Node}
    (hp : (fs.lookup purpose p).location? = some loc)
    (hn : fs'.node? loc = some node) (hl : ∀ target, node ≠ .link target) :
    fs'.lookup purpose p = .found loc node := by
  have ho := not_isOverlong_of_location hp
  rw [lookup_eq_walk ho] at hp ⊢
  have hs : fs'.startOf p = fs.startOf p := by rw [startOf, startOf, h.cwd]
  rw [hs]
  exact walk_keeps ht h (node?_startOf ht p) hp hn hl

/-! ## Leading to a node -/

/-- A path leads to a node at a location. -/
def Leads (fs : FileSystem) (p : Path) (loc : Location) (node : Node) : Prop :=
  fs.lookup .follow p = .found loc node

theorem Leads.location {fs : FileSystem} {p : Path} {loc : Location} {node : Node}
    (h : fs.Leads p loc node) : (fs.lookup .follow p).location? = some loc := by
  rw [show fs.lookup .follow p = _ from h]
  rfl

/-- A path leads to one node only. -/
theorem Leads.unique {fs : FileSystem} {p : Path} {loc loc' : Location} {node node' : Node}
    (h : fs.Leads p loc node) (h' : fs.Leads p loc' node') : loc = loc' ∧ node = node' := by
  have := Eq.trans (Eq.symm h) h'
  simpa using this

theorem Leads.stands {fs : FileSystem} (ht : fs.IsTree) {p : Path} {loc : Location} {node : Node}
    (h : fs.Leads p loc node) : fs.node? loc = some node := by
  have := stands_of_lookup ht .follow p
  rwa [show fs.lookup .follow p = _ from h] at this

theorem Leads.directory {fs fs' : FileSystem} (ht : fs.IsTree) (hk : fs.KeepsWays fs') {p : Path}
    {loc : Location} (h : fs.Leads p loc .directory) : fs'.Leads p loc .directory :=
  lookup_keeps ht hk h.location (hk.kept loc _ (h.stands ht) rfl) (by simp)

theorem Leads.file {fs fs' : FileSystem} (ht : fs.IsTree) (hg : fs.Grows fs') {p : Path}
    {loc : Location} {content : Octets} (h : fs.Leads p loc (.file content)) :
    ∃ content', fs'.Leads p loc (.file content') := by
  obtain ⟨content', hn⟩ := hg.file (h.stands ht)
  exact ⟨content', lookup_keeps ht hg.keepsWays h.location hn (by simp)⟩

/-! ## Going on from a directory -/

/-- **A path that goes on from another passes the directory that the other leads to**, from where the
walk follows at most so many links; if the other leads to no directory, its look-up fails. -/
theorem lookup_onward (fs : FileSystem) (p : Path) :
    (∃ dir m, fs.Leads p dir .directory ∧ ∀ purpose names, names.all List.isEmpty = false →
        ¬IsOverlong (p.onward names) →
        fs.lookup purpose (p.onward names) = walk fs purpose m dir names)
      ∨ ((∀ dir, ¬fs.Leads p dir .directory) ∧ ∀ purpose names, names.all List.isEmpty = false →
        ∃ e, fs.lookup purpose (p.onward names) = .fault e) := by
  by_cases ho : IsOverlong p
  · refine Or.inr ⟨fun dir h => not_isOverlong_of_location h.location ho, fun purpose names hn => ?_⟩
    exact ⟨_, lookup_of_isOverlong (Nat.le_trans ho (p.length_encode_toText_le hn)) purpose⟩
  · unfold Leads
    rw [lookup_eq_walk ho]
    rcases walk_append fs maxLinks (fs.startOf p) p.names with ⟨dir, m, hdir, hmore⟩ | ⟨hdir, hmore⟩
    · refine Or.inl ⟨dir, m, hdir, fun purpose names hn ho' => ?_⟩
      rw [lookup_eq_walk ho']
      exact hmore purpose names hn
    · refine Or.inr ⟨hdir, fun purpose names hn => ?_⟩
      -- with its names the path may have become too long, which is a failure as well
      by_cases ho' : IsOverlong (p.onward names)
      · exact ⟨_, lookup_of_isOverlong ho' purpose⟩
      · rw [lookup_eq_walk ho']
        exact hmore purpose names hn

/-- What a path goes on from is a directory, if its look-up ends somewhere. -/
theorem exists_leads_directory {fs : FileSystem} {p : Path} {names : List Text} {purpose : Purpose}
    {loc : Location} (hn : names.all List.isEmpty = false)
    (h : (fs.lookup purpose (p.onward names)).location? = some loc) :
    ∃ dir, fs.Leads p dir .directory := by
  rcases lookup_onward fs p with ⟨dir, -, hdir, -⟩ | ⟨-, hmore⟩
  · exact ⟨dir, hdir⟩
  · obtain ⟨e, he⟩ := hmore purpose names hn
    rw [he] at h
    exact absurd h (by simp [Lookup.location?])

/-- A path one plain name further leads to what stands under the name. -/
theorem lookup_child {fs : FileSystem} {p : Path} {dir : Location} {name : Text}
    (hp : fs.Leads p dir .directory) (hn : IsPlain name) (ho : ¬IsOverlong (p.onward [name]))
    (purpose : Purpose) : ∃ m, fs.lookup purpose (p.onward [name])
      = (landing purpose dir name [] (fs.node? (dir ++ [name]))).goOn fs purpose m [] := by
  have hname : [name].all List.isEmpty = false := by simpa using hn.ne_nil
  rcases lookup_onward fs p with ⟨dir', m, hdir, hmore⟩ | ⟨hdir, -⟩
  · obtain ⟨rfl, -⟩ := hp.unique hdir
    refine ⟨m, ?_⟩
    rw [hmore purpose _ hname ho, walk_cons, stride_of_isPlain hn (Or.inr (Or.inl rfl))]
  · exact absurd hp (hdir dir)

/-- A path that leads to a node finds one also if the last link on it is not followed. -/
theorem Leads.stay {fs : FileSystem} {p : Path} {loc : Location} {node : Node}
    (h : fs.Leads p loc node) : ∃ loc' node', fs.lookup .stay p = .found loc' node' := by
  have ho := not_isOverlong_of_location h.location
  unfold Leads at h
  rw [lookup_eq_walk ho] at h ⊢
  exact walk_stay_of_found h

end FileSystem

end CrateSync
