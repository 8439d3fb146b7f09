/-
# Resolving names

What names lead to from a path, link by link.  The nodes of the tree say it alone: without the links that
a search remembers, and without limits on how long paths are and how deep links are nested.

* `Resolves` : the path that names lead to from another;
* `Meets` : the paths on the way there;
* `LinksAcyclic` : no link lies on the way to its own target; so it is in trees where no link leads to a
  link (`linksAcyclic_of_entries`).
-/
import Mathlib.Data.List.Induction
import CrateSync.FileSystem.Canonical
import CrateSync.Proofs.FileSystem.Reach

namespace CrateSync

namespace FileSystem

open Text (splitOn)

/-! ## Names -/

/-- A name that leads to what stands under it. -/
structure IsProper (name : Text) : Prop where
  ne_nil : name ≠ []
  ne_dot : name ≠ ['.']
  ne_dots : name ≠ ['.', '.']
  nameable : Path.isUnnameable name = false

instance (name : Text) : Decidable (IsProper name) :=
  decidable_of_iff (name ≠ [] ∧ name ≠ ['.'] ∧ name ≠ ['.', '.'] ∧ Path.isUnnameable name = false)
    ⟨fun h => ⟨h.1, h.2.1, h.2.2.1, h.2.2.2⟩, fun h => ⟨h.1, h.2, h.3, h.4⟩⟩

theorem IsProper.not_skipped {name : Text} (h : IsProper name) : ¬(name = [] ∨ name = ['.']) := by
  rintro (hnil | hdot)
  · exact h.ne_nil hnil
  · exact h.ne_dot hdot

/-- The names in a tree are such as nodes can have. -/
structure WellNamed (fs : FileSystem) : Prop where
  plain : ∀ loc node, fs.node? loc = some node → ∀ name ∈ loc, IsPlain name
  nameable : ∀ loc node, fs.node? loc = some node → ∀ name ∈ loc, Path.isUnnameable name = false

theorem WellNamed.proper {fs : FileSystem} (h : fs.WellNamed) {loc : Location} {node : Node}
    (hnode : fs.node? loc = some node) {name : Text} (hname : name ∈ loc) : IsProper name :=
  have hplain := h.plain loc node hnode name hname
  ⟨hplain.ne_nil, hplain.ne_dot, hplain.ne_dots, h.nameable loc node hnode name hname⟩

/-- The names in a tree are such as nodes can have if those of its entries are. -/
theorem wellNamed_of_entries {fs : FileSystem}
    (h : ∀ entry ∈ fs.entries, ∀ name ∈ entry.1, IsPlain name ∧ Path.isUnnameable name = false) :
    fs.WellNamed := by
  have hall : ∀ loc node, fs.node? loc = some node → ∀ name ∈ loc,
      IsPlain name ∧ Path.isUnnameable name = false := by
    intro loc node hnode name hname
    rw [node?, if_neg (List.ne_nil_of_mem hname)] at hnode
    exact h _ (mem_of_nodeIn? hnode) name hname
  exact ⟨fun loc node hnode name hname => (hall loc node hnode name hname).1,
    fun loc node hnode name hname => (hall loc node hnode name hname).2⟩

end FileSystem

/-! ## The places of paths -/

namespace Path

theorem collapse_concat {name : Text} (hn : FileSystem.IsProper name) (names : List Text) :
    collapse (names ++ [name]) = collapse names ++ [name] := by
  rw [collapse, List.foldl_append]
  simp only [List.foldl_cons, List.foldl_nil, if_neg hn.not_skipped, if_neg hn.ne_dots]
  rfl

/-- Names without dots are kept. -/
theorem collapse_of_isProper {names : List Text} (h : ∀ name ∈ names, FileSystem.IsProper name) :
    collapse names = names := by
  induction names using List.reverseRecOn with
  | nil => rfl
  | append_singleton names name ih =>
    rw [collapse_concat (h name (by simp)), ih fun name' hname => h name' (by simp [hname])]

end Path

namespace FileSystem

open Text (splitOn)

variable {fs : FileSystem}

/-- The location that a path writes, as if no link lay on it. -/
def place (fs : FileSystem) (p : Path) : Location :=
  (fs.absolutePath p).names

@[simp] theorem place_absolute (names : List Text) :
    fs.place (.absolute names) = Path.collapse names := rfl

theorem place_child {name : Text} (hn : IsProper name) (p : Path) :
    fs.place (p.child name) = fs.place p ++ [name] := by
  unfold place absolutePath Path.child Path.isAbsolute
  by_cases ha : (p.anchor != .relative) = true
  · simp only [ha, if_true]
    exact Path.collapse_concat hn _
  · simp only [ha]
    rw [← List.append_assoc]
    exact Path.collapse_concat hn _

/-- The target of the link that stands at the place of a path. -/
def linkAt? (fs : FileSystem) (p : Path) : Option Text :=
  match fs.node? (fs.place p) with
  | some (.link target) => some target
  | _ => none

theorem linkAt?_eq_some {p : Path} {target : Text} :
    fs.linkAt? p = some target ↔ fs.node? (fs.place p) = some (.link target) := by
  unfold linkAt?
  rcases fs.node? (fs.place p) with _ | (content | _ | target') <;> simp

/-! ## What names lead to -/

/-- The path from which the target of a link is resolved that lies in the directory of `p`. -/
def linkStart (p : Path) (target : Text) : Path :=
  if target.head? = some '/' then .absolute [] else p

/-- Names lead from a path without links to another.  A link on the way is replaced by the path that its
target leads to. -/
inductive Resolves (fs : FileSystem) : Path → List Text → Path → Prop
  | arrived (p : Path) : Resolves fs p [] p
  | skip {p q : Path} {name : Text} {rest : List Text} (hn : name = [] ∨ name = ['.'])
      (h : Resolves fs p rest q) : Resolves fs p (name :: rest) q
  | up {p q : Path} {rest : List Text} (h : Resolves fs p.up rest q) :
      Resolves fs p (['.', '.'] :: rest) q
  | plain {p q : Path} {name : Text} {rest : List Text} (hn : IsProper name)
      (hl : fs.linkAt? (p.child name) = none) (h : Resolves fs (p.child name) rest q) :
      Resolves fs p (name :: rest) q
  | link {p known q : Path} {name target : Text} {rest : List Text} (hn : IsProper name)
      (hl : fs.linkAt? (p.child name) = some target)
      (ht : Resolves fs (linkStart p target) (splitOn '/' target) known)
      (h : Resolves fs known rest q) : Resolves fs p (name :: rest) q

/-- Names that are resolved from a path meet another: they lead to it or past it, or the target of a link
on the way does. -/
inductive Meets (fs : FileSystem) : Path → List Text → Path → Prop
  | here {p : Path} {name : Text} {rest : List Text} (hn : IsProper name) :
      Meets fs p (name :: rest) (p.child name)
  | skip {p met : Path} {name : Text} {rest : List Text} (hn : name = [] ∨ name = ['.'])
      (h : Meets fs p rest met) : Meets fs p (name :: rest) met
  | up {p met : Path} {rest : List Text} (h : Meets fs p.up rest met) :
      Meets fs p (['.', '.'] :: rest) met
  | plain {p met : Path} {name : Text} {rest : List Text} (hn : IsProper name)
      (hl : fs.linkAt? (p.child name) = none) (h : Meets fs (p.child name) rest met) :
      Meets fs p (name :: rest) met
  | inside {p met : Path} {name target : Text} {rest : List Text} (hn : IsProper name)
      (hl : fs.linkAt? (p.child name) = some target)
      (h : Meets fs (linkStart p target) (splitOn '/' target) met) : Meets fs p (name :: rest) met
  | behind {p known met : Path} {name target : Text} {rest : List Text} (hn : IsProper name)
      (hl : fs.linkAt? (p.child name) = some target)
      (ht : Resolves fs (linkStart p target) (splitOn '/' target) known)
      (h : Meets fs known rest met) : Meets fs p (name :: rest) met

/-- The links of a tree form no cycle: no link lies on the way to its own target. -/
def LinksAcyclic (fs : FileSystem) : Prop :=
  ∀ loc target, fs.node? loc = some (.link target) →
    ¬Meets fs (linkStart (.absolute loc.dropLast) target) (splitOn '/' target) (.absolute loc)

/-! ## Trees where no link leads to a link -/

/-- Names that no link has meet none. -/
theorem linkAt?_of_meets {p met : Path} {names : List Text}
    (h : ∀ name ∈ names, ∀ dir target, fs.node? (dir ++ [name]) ≠ some (.link target))
    (hmeets : Meets fs p names met) : fs.linkAt? met = none := by
  have hnone : ∀ {p : Path} {name : Text} {rest : List Text}, (∀ name' ∈ name :: rest, ∀ dir target,
      fs.node? (dir ++ [name']) ≠ some (.link target)) → IsProper name →
      fs.linkAt? (p.child name) = none := by
    intro p name rest hall hn
    rw [Option.eq_none_iff_forall_not_mem]
    intro target hlink
    rw [Option.mem_def, linkAt?_eq_some, place_child hn] at hlink
    exact hall name List.mem_cons_self _ target hlink
  induction hmeets with
  | here hn => exact hnone h hn
  | skip _ _ ih => exact ih fun name hname => h name (List.mem_cons_of_mem _ hname)
  | up _ ih => exact ih fun name hname => h name (List.mem_cons_of_mem _ hname)
  | plain _ _ _ ih => exact ih fun name hname => h name (List.mem_cons_of_mem _ hname)
  | inside hn hl => exact absurd (hl.symm.trans (hnone h hn)) (by simp)
  | behind hn hl => exact absurd (hl.symm.trans (hnone h hn)) (by simp)

/-- The target of a link. -/
def Node.target? : Node → Option Text
  | .link target => some target
  | _ => none

/-- **The links of a tree form no cycle** if no name in a target is the name of a link. -/
theorem linksAcyclic_of_entries (hnames : fs.WellNamed)
    (h : ∀ entry ∈ fs.entries, ∀ target ∈ Node.target? entry.2, ∀ other ∈ fs.entries,
      (Node.target? other.2).isSome = true → ∀ name ∈ splitOn '/' target,
        other.1.getLast? ≠ some name) : fs.LinksAcyclic := by
  have hmem : ∀ {loc target}, fs.node? loc = some (.link target) →
      (loc, Node.link target) ∈ fs.entries := by
    intro loc target hnode
    unfold node? at hnode
    split_ifs at hnode
    · exact absurd hnode (by simp)
    · exact mem_of_nodeIn? hnode
  intro loc target hlink hmeets
  have hnone : fs.linkAt? (.absolute loc) = none := by
    refine linkAt?_of_meets (fun name hname dir target' hnode => ?_) hmeets
    exact h _ (hmem hlink) target rfl _ (hmem hnode) rfl name hname (by simp)
  have hplace : fs.place (.absolute loc) = loc :=
    Path.collapse_of_isProper fun name hname => hnames.proper hlink hname
  rw [← hplace] at hlink
  exact absurd (hnone.symm.trans (linkAt?_eq_some.mpr hlink)) (by simp)

end FileSystem

end CrateSync
