/-
# Trees of nodes

A file system is a tree if every node stands in a directory.  What a run does to a tree is seen node
by node: `Grows` says that nothing is lost, changes its kind or, for a link, its target, and
`KeepsWays` says the same of directories and links alone, which are all that a walk passes.

* `IsTree.put` : a tree stays one when a node is put into a directory;
* `grows_put` : putting a file over a file, or anything where nothing stands, loses nothing.
-/
import Mathlib.Tactic.Common
import CrateSync.FileSystem.Lookup

namespace CrateSync

/-! ## Kinds of nodes -/

/-- A node with the content of a file left out. -/
def Node.shape : Node → Node
  | .file _ => .file []
  | node => node

/-- A node that has the shape of a file is one. -/
theorem Node.exists_eq_file_of_shape_eq {node : Node} {content : Octets}
    (h : node.shape = (Node.file content).shape) : ∃ content', node = .file content' := by
  cases node with
  | file content' => exact ⟨content', rfl⟩
  | directory => exact absurd h (by simp [Node.shape])
  | link target => exact absurd h (by simp [Node.shape])

/-- A node other than a file is given by its shape. -/
theorem Node.eq_of_shape_eq {node node' : Node} (hn : node.isFile = false)
    (h : node'.shape = node.shape) : node' = node := by
  cases node with
  | file content => exact absurd hn (by simp [Node.isFile])
  | directory => cases node' <;> simp_all [Node.shape]
  | link target => cases node' <;> simp_all [Node.shape]

namespace FileSystem

@[simp] theorem node?_root (fs : FileSystem) : fs.node? [] = some .directory := by
  simp [node?]

/-! ## Trees -/

/-- Every node stands in a directory, and the working directory is one. -/
structure IsTree (fs : FileSystem) : Prop where
  parent : ∀ loc name node, fs.node? (loc ++ [name]) = some node → fs.node? loc = some .directory
  cwd : fs.node? fs.cwd = some .directory

/-- The parent of a directory is a directory. -/
theorem IsTree.dropLast {fs : FileSystem} (h : fs.IsTree) {loc : Location}
    (hd : fs.node? loc = some .directory) : fs.node? loc.dropLast = some .directory := by
  rcases List.eq_nil_or_concat loc with rfl | ⟨dir, name, rfl⟩
  · simp
  · rw [List.concat_eq_append] at hd ⊢
    rw [List.dropLast_concat]
    exact h.parent dir name _ hd

/-- What something stands below is a directory. -/
theorem IsTree.directory_above {fs : FileSystem} (h : fs.IsTree) {loc : Location} {node : Node}
    {names : List Text} (hn : names ≠ []) (hs : fs.node? (loc ++ names) = some node) :
    fs.node? loc = some .directory := by
  induction names generalizing loc with
  | nil => exact absurd rfl hn
  | cons name rest ih =>
    by_cases hr : rest = []
    · subst hr
      exact h.parent loc name node hs
    · have hs' : fs.node? ((loc ++ [name]) ++ rest) = some node := by simpa using hs
      exact h.parent loc name _ (ih hr hs')

/-- No directory stands where a file stands, or below it. -/
theorem IsTree.no_directory_below {fs : FileSystem} (h : fs.IsTree) {loc : Location}
    {content : Octets} (hf : fs.node? loc = some (.file content)) (names : List Text) :
    fs.node? (loc ++ names) ≠ some .directory := by
  intro hd
  by_cases hn : names = []
  · rw [hn, List.append_nil, hf] at hd
    exact absurd hd (by simp)
  · rw [h.directory_above hn hd] at hf
    exact absurd hf (by simp)

/-- The target of a link in a directory starts at a directory. -/
theorem node?_targetStart {fs : FileSystem} {loc : Location}
    (hd : fs.node? loc = some .directory) (target : Text) :
    fs.node? (targetStart loc target) = some .directory := by
  unfold targetStart
  by_cases hr : target.head? = some '/'
  · rw [if_pos hr, node?_root]
  · rw [if_neg hr, hd]

/-- Nothing stands below a place where nothing stands. -/
theorem IsTree.vacant_below {fs : FileSystem} (h : fs.IsTree) {loc : Location}
    (hv : fs.node? loc = none) (names : List Text) : fs.node? (loc ++ names) = none := by
  by_cases hn : names = []
  · rw [hn, List.append_nil, hv]
  · rcases hs : fs.node? (loc ++ names) with _ | node
    · rfl
    · rw [h.directory_above hn hs] at hv
      exact absurd hv (by simp)

/-- What stands somewhere is the root or has an entry. -/
theorem mem_of_nodeIn? {entries : List (Location × Node)} {loc : Location} {node : Node}
    (h : nodeIn? entries loc = some node) : (loc, node) ∈ entries := by
  induction entries with
  | nil => exact absurd h (by simp [nodeIn?])
  | cons entry rest ih =>
    obtain ⟨place, old⟩ := entry
    by_cases hp : place = loc
    · obtain rfl : old = node := by simpa [nodeIn?, hp] using h
      simp [hp]
    · rw [nodeIn?, if_neg hp] at h
      exact List.mem_cons_of_mem _ (ih h)

/-- A file system is a tree if the place of each entry lies in a directory. -/
theorem isTree_of_entries {fs : FileSystem}
    (h : ∀ entry ∈ fs.entries, fs.node? entry.1.dropLast = some .directory)
    (hc : fs.node? fs.cwd = some .directory) : fs.IsTree := by
  refine ⟨fun loc name node hn => ?_, hc⟩
  rw [node?, if_neg (by simp)] at hn
  simpa using h _ (mem_of_nodeIn? hn)

/-! ## Growing -/

/-- Nothing is lost and nothing changes its kind or, for a link, its target. -/
structure Grows (fs fs' : FileSystem) : Prop where
  cwd : fs'.cwd = fs.cwd
  kept : ∀ loc node, fs.node? loc = some node →
    ∃ node', fs'.node? loc = some node' ∧ node'.shape = node.shape

/-- The directories and links that a walk may pass are all kept. -/
structure KeepsWays (fs fs' : FileSystem) : Prop where
  cwd : fs'.cwd = fs.cwd
  kept : ∀ loc node, fs.node? loc = some node → node.isFile = false → fs'.node? loc = some node

theorem Grows.refl (fs : FileSystem) : fs.Grows fs :=
  ⟨rfl, fun _ node h => ⟨node, h, rfl⟩⟩

theorem Grows.trans {fs₁ fs₂ fs₃ : FileSystem} (h : fs₁.Grows fs₂) (h' : fs₂.Grows fs₃) :
    fs₁.Grows fs₃ := by
  refine ⟨h'.cwd.trans h.cwd, fun loc node hn => ?_⟩
  obtain ⟨node₂, hn₂, hs₂⟩ := h.kept loc node hn
  obtain ⟨node₃, hn₃, hs₃⟩ := h'.kept loc node₂ hn₂
  exact ⟨node₃, hn₃, hs₃.trans hs₂⟩

theorem Grows.keepsWays {fs fs' : FileSystem} (h : fs.Grows fs') : fs.KeepsWays fs' := by
  refine ⟨h.cwd, fun loc node hn hf => ?_⟩
  obtain ⟨node', hn', hs⟩ := h.kept loc node hn
  rw [hn', Node.eq_of_shape_eq hf hs]

theorem Grows.directory {fs fs' : FileSystem} (h : fs.Grows fs') {loc : Location}
    (hd : fs.node? loc = some .directory) : fs'.node? loc = some .directory :=
  h.keepsWays.kept loc _ hd rfl

theorem Grows.file {fs fs' : FileSystem} (h : fs.Grows fs') {loc : Location} {content : Octets}
    (hf : fs.node? loc = some (.file content)) :
    ∃ content', fs'.node? loc = some (.file content') := by
  obtain ⟨node, hn, hs⟩ := h.kept loc _ hf
  obtain ⟨content', rfl⟩ := Node.exists_eq_file_of_shape_eq hs
  exact ⟨content', hn⟩

/-- Where nothing stands afterwards, nothing stood before. -/
theorem Grows.vacant {fs fs' : FileSystem} (h : fs.Grows fs') {loc : Location}
    (hv : fs'.node? loc = none) : fs.node? loc = none := by
  rcases hn : fs.node? loc with _ | node
  · rfl
  · obtain ⟨node', hn', -⟩ := h.kept loc node hn
    rw [hv] at hn'
    exact absurd hn' (by simp)

/-! ## Putting a node -/

/-- A place may be filled with a node: the root is not, and what stands there is nothing, or a file
that a file replaces. -/
def MayPut (fs : FileSystem) (loc : Location) (node : Node) : Prop :=
  loc ≠ [] ∧ ∀ old, fs.node? loc = some old → node.shape = old.shape

/-- Putting a node where it may be put loses nothing. -/
theorem grows_put {fs : FileSystem} {loc : Location} {node : Node} (h : fs.MayPut loc node) :
    fs.Grows (fs.put loc node) := by
  refine ⟨rfl, fun other old hold => ?_⟩
  rw [node?_put fs other node h.1]
  by_cases ho : other = loc
  · subst ho
    exact ⟨node, by simp, h.2 old hold⟩
  · exact ⟨old, by simpa [ho] using hold, rfl⟩

/-- A tree stays one when a node is put into a directory. -/
theorem IsTree.put {fs : FileSystem} (h : fs.IsTree) {dir : Location} {name : Text} {node : Node}
    (hd : fs.node? dir = some .directory) (hp : fs.MayPut (dir ++ [name]) node) :
    (fs.put (dir ++ [name]) node).IsTree := by
  have hgrows := grows_put hp
  refine ⟨fun loc name' node' hn => ?_, ?_⟩
  · rw [node?_put fs _ node hp.1] at hn
    by_cases he : loc ++ [name'] = dir ++ [name]
    · obtain ⟨rfl, -⟩ := List.append_inj' he rfl
      exact hgrows.directory hd
    · rw [if_neg he] at hn
      exact hgrows.directory (h.parent loc name' node' hn)
  · rw [cwd_put]
    exact hgrows.directory h.cwd

end FileSystem

end CrateSync
