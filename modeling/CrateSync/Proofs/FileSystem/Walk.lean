/-
# Walks, stride by stride

What one stride of a walk can do is said once: from a directory and a name it goes on to a directory,
goes behind a link, or ends (`Stride`, `walk_cons`).  Each fact on walks is then a fact on strides
and an induction with three cases.

* `walk_follow_eq` : where a walk ends does not depend on what it is made for;
* `walk_keeps` : a walk ends where it ended before, if directories and links are kept;
* `walk_append` : a walk along names and then more names passes the directory that the first names
  lead to;
* `stands_of_walk` : what a walk finds in a tree stands there, and a vacant place lies in a directory.
-/
import CrateSync.FileSystem.Lookup
import CrateSync.Proofs.FileSystem.Tree

namespace CrateSync

/-- The location that a look-up ends at, whether or not something stands there. -/
def Lookup.location? : Lookup → Option Location
  | .found loc _ => some loc
  | .vacant loc => some loc
  | .fault _ => none

/-- What a look-up found or missed is so: the node stands at its location, and nothing stands at the
vacant one, which lies in a directory. -/
def Lookup.Stands (fs : FileSystem) : Lookup → Prop
  | .found loc node => fs.node? loc = some node
  | .vacant loc => fs.node? loc = none
      ∧ ∃ dir name, loc = dir ++ [name] ∧ fs.node? dir = some .directory
  | .fault _ => True

namespace FileSystem

/-! ## Strides -/

/-- What one stride of a walk comes to. -/
inductive Stride where
  /-- The walk goes on from a directory. -/
  | on (loc : Location)
  /-- The walk goes on behind a link. -/
  | behind (loc : Location) (names : List Text)
  | ended (r : Lookup)

/-- A name that leads to what stands under it, and is not too long. -/
structure IsPlain (name : Text) : Prop where
  ne_nil : name ≠ []
  ne_dot : name ≠ ['.']
  ne_dots : name ≠ ['.', '.']
  short : (Text.encode name).length ≤ maxNameOctets

instance (name : Text) : Decidable (IsPlain name) :=
  decidable_of_iff (name ≠ [] ∧ name ≠ ['.'] ∧ name ≠ ['.', '.']
      ∧ (Text.encode name).length ≤ maxNameOctets)
    ⟨fun h => ⟨h.1, h.2.1, h.2.2.1, h.2.2.2⟩, fun h => ⟨h.1, h.2, h.3, h.4⟩⟩

/-- Some names, each of them plain. -/
structure ArePlain (names : List Text) : Prop where
  ne_nil : names ≠ []
  each : ∀ name ∈ names, IsPlain name

instance (names : List Text) : Decidable (ArePlain names) :=
  decidable_of_iff (names ≠ [] ∧ ∀ name ∈ names, IsPlain name)
    ⟨fun h => ⟨h.1, h.2⟩, fun h => ⟨h.1, h.2⟩⟩

theorem all_isEmpty_of_isPlain {names : List Text} (h : ∀ name ∈ names, IsPlain name) :
    names = [] ∨ names.all List.isEmpty = false := by
  cases names with
  | nil => exact Or.inl rfl
  | cons name rest => exact Or.inr (by simp [(h name (by simp)).ne_nil])

theorem ArePlain.not_blank {names : List Text} (h : ArePlain names) :
    names.all List.isEmpty = false :=
  (all_isEmpty_of_isPlain h.each).resolve_left h.ne_nil

theorem ArePlain.shorter {names some_ : List Text} (h : ArePlain names) (hne : some_ ≠ [])
    (hpre : some_ <+: names) : ArePlain some_ :=
  ⟨hne, fun name hn => h.each name (hpre.subset hn)⟩

/-- A stride to what stands under a name of a directory. -/
def landing (purpose : Purpose) (loc : Location) (name : Text) (rest : List Text) :
    Option Node → Stride
  | none => .ended (if rest = [] then .vacant (loc ++ [name]) else .fault .noEntry)
  | some (.file content) =>
    .ended (if rest = [] then .found (loc ++ [name]) (.file content) else .fault .notDirectory)
  | some .directory => .on (loc ++ [name])
  | some (.link target) =>
    if rest = [] ∧ purpose = .stay then .ended (.found (loc ++ [name]) (.link target))
    else .behind (targetStart loc target) (Text.splitOn '/' target ++ rest)

/-- One stride from a directory along a name, with the names that follow it. -/
def stride (fs : FileSystem) (purpose : Purpose) (loc : Location) (name : Text)
    (rest : List Text) : Stride :=
  if name = [] ∨ name = ['.'] then .on loc
  else if name = ['.', '.'] then .on loc.dropLast
  else if purpose = .write ∧ rest ≠ [] ∧ rest.all List.isEmpty then .ended (.fault .isDirectory)
  else if maxNameOctets < (Text.encode name).length then .ended (.fault .nameTooLong)
  else landing purpose loc name rest (fs.node? (loc ++ [name]))

/-- A stride along a plain name, unless a slash behind it forbids writing. -/
theorem stride_of_isPlain {purpose : Purpose} {name : Text} {rest : List Text}
    (hn : IsPlain name) (hr : purpose ≠ .write ∨ rest = [] ∨ rest.all List.isEmpty = false)
    (fs : FileSystem) (loc : Location) :
    stride fs purpose loc name rest
      = landing purpose loc name rest (fs.node? (loc ++ [name])) := by
  have h3 : ¬(purpose = .write ∧ rest ≠ [] ∧ rest.all List.isEmpty) := by
    rintro ⟨hw, hne, hall⟩
    rcases hr with hr | hr | hr
    · exact hr hw
    · exact hne hr
    · rw [hr] at hall
      exact absurd hall (by simp)
  unfold stride
  rw [if_neg (by simp [hn.ne_nil, hn.ne_dot]), if_neg hn.ne_dots, if_neg h3,
    if_neg (Nat.not_lt.mpr hn.short)]

/-- What a stride can be, as far as its name decides: it stays, goes up, or fails. -/
theorem stride_of_not_isPlain {name : Text} (hn : ¬IsPlain name) :
    (∀ fs purpose loc rest, stride fs purpose loc name rest = .on loc)
      ∨ (∀ fs purpose loc rest, stride fs purpose loc name rest = .on loc.dropLast)
      ∨ ∀ purpose rest, ∃ e, ∀ fs loc, stride fs purpose loc name rest = .ended (.fault e) := by
  unfold stride
  by_cases h1 : name = [] ∨ name = ['.']
  · exact Or.inl fun _ _ _ _ => if_pos h1
  by_cases h2 : name = ['.', '.']
  · refine Or.inr (Or.inl fun _ _ _ _ => ?_)
    rw [if_neg h1, if_pos h2]
  have h4 : maxNameOctets < (Text.encode name).length := by
    by_contra hshort
    exact hn ⟨fun h => h1 (Or.inl h), fun h => h1 (Or.inr h), h2, Nat.not_lt.mp hshort⟩
  refine Or.inr (Or.inr fun purpose rest => ?_)
  by_cases h3 : purpose = .write ∧ rest ≠ [] ∧ rest.all List.isEmpty
  · exact ⟨.isDirectory, fun _ _ => by rw [if_neg h1, if_neg h2, if_pos h3]⟩
  · exact ⟨.nameTooLong, fun _ _ => by rw [if_neg h1, if_neg h2, if_neg h3, if_pos h4]⟩

/-- **What a stride can be**: it stays, goes up, fails, or leads to what stands under the name.
Only the last depends on the file system. -/
theorem stride_cases (purpose : Purpose) (name : Text) (rest : List Text) :
    (∀ fs purpose' loc rest', stride fs purpose' loc name rest' = .on loc)
      ∨ (∀ fs purpose' loc rest', stride fs purpose' loc name rest' = .on loc.dropLast)
      ∨ (∃ e, ∀ fs loc, stride fs purpose loc name rest = .ended (.fault e))
      ∨ (IsPlain name ∧ ∀ fs loc, stride fs purpose loc name rest
          = landing purpose loc name rest (fs.node? (loc ++ [name]))) := by
  by_cases hn : IsPlain name
  · by_cases h3 : purpose = .write ∧ rest ≠ [] ∧ rest.all List.isEmpty
    · refine Or.inr (Or.inr (Or.inl ⟨.isDirectory, fun fs loc => ?_⟩))
      rw [stride, if_neg (by simp [hn.ne_nil, hn.ne_dot]), if_neg hn.ne_dots, if_pos h3]
    · refine Or.inr (Or.inr (Or.inr ⟨hn, stride_of_isPlain hn ?_⟩))
      by_cases hw : purpose = .write
      · by_cases hr : rest = []
        · exact Or.inr (Or.inl hr)
        · exact Or.inr (Or.inr (Bool.eq_false_iff.mpr fun hall => h3 ⟨hw, hr, hall⟩))
      · exact Or.inl hw
  · rcases stride_of_not_isPlain hn with h | h | h
    · exact Or.inl h
    · exact Or.inr (Or.inl h)
    · exact Or.inr (Or.inr (Or.inl (h purpose rest)))

/-! ## Walks as strides -/

/-- The walk behind a link, for which one link less may be followed. -/
def walkBehind (fs : FileSystem) (purpose : Purpose) : Nat → Location → List Text → Lookup
  | 0, _, _ => .fault .tooManyLinks
  | n + 1, loc, names => walk fs purpose n loc names

theorem walk_eq_walkWith (fs : FileSystem) (purpose : Purpose) (n : Nat) (loc : Location)
    (names : List Text) :
    walk fs purpose n loc names = walkWith fs purpose (walkBehind fs purpose n) loc names := by
  cases n with
  | zero => rfl
  | succ n => rfl

@[simp] theorem walk_nil (fs : FileSystem) (purpose : Purpose) (n : Nat) (loc : Location) :
    walk fs purpose n loc [] = .found loc .directory := by
  rw [walk_eq_walkWith, walkWith]

/-- The rest of a walk behind its first stride. -/
def Stride.goOn (fs : FileSystem) (purpose : Purpose) (n : Nat) (rest : List Text) :
    Stride → Lookup
  | .on loc => walk fs purpose n loc rest
  | .behind loc names => walkBehind fs purpose n loc names
  | .ended r => r

/-- **A walk is a stride and then a walk.** -/
theorem walk_cons (fs : FileSystem) (purpose : Purpose) (n : Nat) (loc : Location) (name : Text)
    (rest : List Text) :
    walk fs purpose n loc (name :: rest)
      = (stride fs purpose loc name rest).goOn fs purpose n rest := by
  rw [walk_eq_walkWith, walkWith]
  simp only [← walk_eq_walkWith]
  unfold stride
  by_cases h1 : name = [] ∨ name = ['.']
  · rw [if_pos h1, if_pos h1]
    rfl
  by_cases h2 : name = ['.', '.']
  · rw [if_neg h1, if_neg h1, if_pos h2, if_pos h2]
    rfl
  by_cases h3 : purpose = .write ∧ rest ≠ [] ∧ rest.all List.isEmpty
  · rw [if_neg h1, if_neg h1, if_neg h2, if_neg h2, if_pos h3, if_pos h3]
    rfl
  by_cases h4 : maxNameOctets < (Text.encode name).length
  · rw [if_neg h1, if_neg h1, if_neg h2, if_neg h2, if_neg h3, if_neg h3, if_pos h4, if_pos h4]
    rfl
  rw [if_neg h1, if_neg h1, if_neg h2, if_neg h2, if_neg h3, if_neg h3, if_neg h4, if_neg h4]
  rcases hn : fs.node? (loc ++ [name]) with _ | (content | _ | target)
  · rfl
  · rfl
  · rfl
  · by_cases hs : rest = [] ∧ purpose = .stay
    · simp [landing, Stride.goOn, hs]
    · simp [landing, Stride.goOn, hs]

/-- Induction along a walk: on the names that are left, and behind a link on the number of links that
may still be followed. -/
theorem walk_induction {motive : Nat → Location → List Text → Prop}
    (arrived : ∀ n loc, motive n loc [])
    (onward : ∀ n loc name rest, (∀ loc', motive n loc' rest) →
      (∀ m, n = m + 1 → ∀ loc' names, motive m loc' names) → motive n loc (name :: rest))
    (n : Nat) (loc : Location) (names : List Text) : motive n loc names := by
  induction n generalizing loc names with
  | zero =>
    induction names generalizing loc with
    | nil => exact arrived 0 loc
    | cons name rest ih => exact onward 0 loc name rest ih (by simp)
  | succ n ihn =>
    induction names generalizing loc with
    | nil => exact arrived (n + 1) loc
    | cons name rest ih =>
      refine onward (n + 1) loc name rest ih fun m hm loc' names => ?_
      obtain rfl := Nat.succ.inj hm
      exact ihn loc' names

/-! ## What a walk is made for -/

/-- A stride is the same for every purpose, unless it ends at a link or fails. -/
theorem stride_follow (fs : FileSystem) (purpose : Purpose) (loc : Location) (name : Text)
    (rest : List Text) :
    stride fs .follow loc name rest = stride fs purpose loc name rest
      ∨ (∃ e, stride fs purpose loc name rest = .ended (.fault e))
      ∨ ∃ place target, stride fs purpose loc name rest = .ended (.found place (.link target)) := by
  rcases stride_cases purpose name rest with h | h | ⟨e, h⟩ | ⟨hn, h⟩
  · exact Or.inl (by rw [h, h])
  · exact Or.inl (by rw [h, h])
  · exact Or.inr (Or.inl ⟨e, h fs loc⟩)
  · rw [h, stride_of_isPlain hn (Or.inl (by simp))]
    rcases fs.node? (loc ++ [name]) with _ | (content | _ | target)
    · exact Or.inl rfl
    · exact Or.inl rfl
    · exact Or.inl rfl
    · by_cases hs : rest = [] ∧ purpose = .stay
      · exact Or.inr (Or.inr ⟨loc ++ [name], target, if_pos hs⟩)
      · exact Or.inl (by simp [landing, hs])

/-- **Where a walk ends does not depend on what it is made for**, unless it ends at a link. -/
theorem walk_follow_eq {fs : FileSystem} {purpose : Purpose} {n : Nat} {loc place : Location}
    {names : List Text} (h : (walk fs purpose n loc names).location? = some place)
    (hl : ∀ target, walk fs purpose n loc names ≠ .found place (.link target)) :
    walk fs .follow n loc names = walk fs purpose n loc names := by
  induction n, loc, names using walk_induction with
  | arrived n loc => rw [walk_nil, walk_nil]
  | onward n loc name rest ih behind =>
    rw [walk_cons] at h hl ⊢
    rw [walk_cons]
    rcases stride_follow fs purpose loc name rest with heq | ⟨e, heq⟩ | ⟨place', target, heq⟩
    · rw [heq]
      rcases hs : stride fs purpose loc name rest with loc' | ⟨loc', names⟩ | r
      · rw [hs] at h hl
        exact ih loc' h hl
      · rw [hs] at h hl
        cases n with
        | zero => rfl
        | succ m => exact behind m rfl loc' names h hl
      · rfl
    · rw [heq] at h
      exact absurd h (by simp [Stride.goOn, Lookup.location?])
    · rw [heq] at h hl
      obtain rfl : place' = place := by simpa [Stride.goOn, Lookup.location?] using h
      exact absurd rfl (hl target)

/-- A stride that stops at a link is the same as one that follows it, but for that. -/
theorem stride_stay (fs : FileSystem) (loc : Location) (name : Text) (rest : List Text) :
    stride fs .stay loc name rest = stride fs .follow loc name rest
      ∨ ∃ place target, stride fs .stay loc name rest = .ended (.found place (.link target)) := by
  by_cases hn : IsPlain name
  · rw [stride_of_isPlain hn (Or.inl (by simp)), stride_of_isPlain hn (Or.inl (by simp))]
    rcases fs.node? (loc ++ [name]) with _ | (content | _ | target)
    · exact Or.inl rfl
    · exact Or.inl rfl
    · exact Or.inl rfl
    · by_cases hr : rest = []
      · exact Or.inr ⟨loc ++ [name], target, if_pos ⟨hr, rfl⟩⟩
      · exact Or.inl (by simp [landing, hr])
  · left
    unfold stride
    by_cases h4 : maxNameOctets < (Text.encode name).length
    · simp [h4]
    · have h1 : name = [] ∨ name = ['.'] ∨ name = ['.', '.'] := by
        by_contra h
        simp only [not_or] at h
        exact hn ⟨h.1, h.2.1, h.2.2, Nat.not_lt.mp h4⟩
      rcases h1 with rfl | rfl | rfl <;> rfl

/-- A walk that finds a node finds one, perhaps the last link, if it does not follow that. -/
theorem walk_stay_of_found {fs : FileSystem} {n : Nat} {loc place : Location}
    {names : List Text} {node : Node} (h : walk fs .follow n loc names = .found place node) :
    ∃ place' node', walk fs .stay n loc names = .found place' node' := by
  induction n, loc, names using walk_induction with
  | arrived n loc => exact ⟨loc, .directory, walk_nil ..⟩
  | onward n loc name rest ih behind =>
    rw [walk_cons] at h ⊢
    rcases stride_stay fs loc name rest with heq | ⟨place', target, heq⟩
    · rw [heq]
      rcases hs : stride fs .follow loc name rest with loc' | ⟨loc', names⟩ | r
      · rw [hs] at h
        exact ih loc' h
      · rw [hs] at h
        cases n with
        | zero => exact absurd h (by simp [Stride.goOn, walkBehind])
        | succ m => exact behind m rfl loc' names h
      · rw [hs] at h
        exact ⟨place, node, h⟩
    · rw [heq]
      exact ⟨place', .link target, rfl⟩

/-! ## What is kept -/

/-- A walk that lands on what stands under its last name has found it, unless it is a link. -/
theorem goOn_landing_nil (fs : FileSystem) (purpose : Purpose) (n : Nat) (loc : Location)
    (name : Text) {node : Node} (hl : ∀ target, node ≠ .link target) :
    (landing purpose loc name [] (some node)).goOn fs purpose n [] = .found (loc ++ [name]) node := by
  rcases node with content | _ | target
  · rfl
  · exact walk_nil fs purpose n _
  · exact absurd rfl (hl target)

/-- A walk that follows no last link has found what stands under its last name. -/
theorem goOn_landing_stay (fs : FileSystem) (n : Nat) (loc : Location) (name : Text) (node : Node) :
    (landing .stay loc name [] (some node)).goOn fs .stay n [] = .found (loc ++ [name]) node := by
  rcases node with content | _ | target
  · rfl
  · exact walk_nil fs .stay n _
  · rfl

/-- A walk that lands on nothing or on a file has ended, and has a place only if no names are left. -/
theorem place_of_goOn_landing {fs : FileSystem} {purpose : Purpose} {n : Nat} {loc place : Location}
    {name : Text} {rest : List Text} {node : Option Node}
    (hnode : node = none ∨ ∃ content, node = some (.file content))
    (h : ((landing purpose loc name rest node).goOn fs purpose n rest).location? = some place) :
    rest = [] ∧ loc ++ [name] = place := by
  by_cases hr : rest = []
  · rcases hnode with rfl | ⟨content, rfl⟩ <;>
      exact ⟨hr, by simpa [landing, hr, Stride.goOn, Lookup.location?] using h⟩
  · rcases hnode with rfl | ⟨content, rfl⟩ <;>
      simp [landing, Stride.goOn, Lookup.location?, hr] at h

/-- **A walk ends where it ended before, if directories and links are kept**: it finds what stands
there now. -/
theorem walk_keeps {fs fs' : FileSystem} (ht : fs.IsTree) (h : fs.KeepsWays fs')
    {purpose : Purpose} {n : Nat} {loc place : Location} {names : List Text} {node : Node}
    (hloc : fs.node? loc = some .directory)
    (hw : (walk fs purpose n loc names).location? = some place)
    (hn : fs'.node? place = some node) (hl : ∀ target, node ≠ .link target) :
    walk fs' purpose n loc names = .found place node := by
  induction n, loc, names using walk_induction with
  | arrived n loc =>
    rw [walk_nil] at hw ⊢
    obtain rfl : loc = place := by simpa [Lookup.location?] using hw
    rw [h.kept loc _ hloc rfl] at hn
    rw [Option.some.inj hn]
  | onward n loc name rest ih behind =>
    rw [walk_cons] at hw ⊢
    rcases stride_cases purpose name rest with hs | hs | ⟨e, hs⟩ | ⟨-, hs⟩
    · rw [hs] at hw ⊢
      exact ih loc hloc hw
    · rw [hs] at hw ⊢
      exact ih loc.dropLast (ht.dropLast hloc) hw
    · rw [hs] at hw
      exact absurd hw (by simp [Stride.goOn, Lookup.location?])
    · rw [hs] at hw ⊢
      rcases hnode : fs.node? (loc ++ [name]) with _ | (content | _ | target)
      -- where nothing or a file stood, the walk ended, and something else may stand there now
      · rw [hnode] at hw
        obtain ⟨rfl, rfl⟩ := place_of_goOn_landing (.inl rfl) hw
        rw [hn]
        exact goOn_landing_nil fs' purpose n loc name hl
      · rw [hnode] at hw
        obtain ⟨rfl, rfl⟩ := place_of_goOn_landing (.inr ⟨content, rfl⟩) hw
        rw [hn]
        exact goOn_landing_nil fs' purpose n loc name hl
      · rw [hnode] at hw
        rw [h.kept _ _ hnode rfl]
        exact ih (loc ++ [name]) hnode hw
      · -- a link has its target still, so that the walk goes on behind it as before
        have hkept := h.kept _ _ hnode rfl
        rw [hnode] at hw
        rw [hkept]
        by_cases hr : rest = [] ∧ purpose = .stay
        · obtain rfl : loc ++ [name] = place := by
            simpa [landing, hr, Stride.goOn, Lookup.location?] using hw
          rw [hn] at hkept
          exact absurd (Option.some.inj hkept) (hl target)
        · rw [landing, if_neg hr] at hw ⊢
          cases n with
          | zero => exact absurd hw (by simp [Stride.goOn, walkBehind, Lookup.location?])
          | succ m => exact behind m rfl _ _ (node?_targetStart hloc target) hw

/-! ## What stands at the end -/

/-- **What a walk finds in a tree stands there.** -/
theorem stands_of_walk {fs : FileSystem} (ht : fs.IsTree) (purpose : Purpose) (n : Nat)
    {loc : Location} (names : List Text) (hloc : fs.node? loc = some .directory) :
    (walk fs purpose n loc names).Stands fs := by
  induction n, loc, names using walk_induction with
  | arrived n loc => simpa [Lookup.Stands] using hloc
  | onward n loc name rest ih behind =>
    rw [walk_cons]
    rcases stride_cases purpose name rest with hs | hs | ⟨e, hs⟩ | ⟨-, hs⟩
    · rw [hs]
      exact ih loc hloc
    · rw [hs]
      exact ih loc.dropLast (ht.dropLast hloc)
    · rw [hs]
      trivial
    · rw [hs]
      rcases hnode : fs.node? (loc ++ [name]) with _ | (content | _ | target)
      · by_cases hr : rest = []
        · rw [landing, if_pos hr]
          exact ⟨hnode, loc, name, rfl, hloc⟩
        · rw [landing, if_neg hr]
          trivial
      · by_cases hr : rest = []
        · rw [landing, if_pos hr]
          exact hnode
        · rw [landing, if_neg hr]
          trivial
      · exact ih (loc ++ [name]) hnode
      · by_cases hr : rest = [] ∧ purpose = .stay
        · rw [landing, if_pos hr]
          exact hnode
        · rw [landing, if_neg hr]
          cases n with
          | zero => trivial
          | succ m => exact behind m rfl _ _ (node?_targetStart hloc target)

/-! ## More names -/

/-- A stride with more names behind it goes on alike, or behind the same link with more names, and it
fails where the walk would have ended, which is never at a directory. -/
theorem stride_append {purpose : Purpose} {more : List Text} (hm : more.all List.isEmpty = false)
    (fs : FileSystem) (loc : Location) (name : Text) (rest : List Text) :
    match stride fs .follow loc name rest with
    | .on loc' => stride fs purpose loc name (rest ++ more) = .on loc'
    | .behind loc' names => stride fs purpose loc name (rest ++ more) = .behind loc' (names ++ more)
    | .ended r => (∀ dir, r ≠ .found dir .directory)
        ∧ ∃ e, stride fs purpose loc name (rest ++ more) = .ended (.fault e) := by
  have hne : rest ++ more ≠ [] := by
    rintro h
    rw [(List.append_eq_nil_iff.mp h).2] at hm
    exact absurd hm (by simp)
  have hall : (rest ++ more).all List.isEmpty = false := by
    rw [List.all_append, hm, Bool.and_false]
  by_cases hn : IsPlain name
  · rw [stride_of_isPlain hn (Or.inl (by simp)), stride_of_isPlain hn (Or.inr (Or.inr hall))]
    rcases fs.node? (loc ++ [name]) with _ | (content | _ | target)
    · refine ⟨fun dir => ?_, .noEntry, by simp [landing, hne]⟩
      by_cases hr : rest = [] <;> simp [hr]
    · refine ⟨fun dir => ?_, .notDirectory, by simp [landing, hne]⟩
      by_cases hr : rest = [] <;> simp [hr]
    · rfl
    · simp [landing, hne]
  · rcases stride_of_not_isPlain hn with hs | hs | hs
    · rw [hs]
      exact hs fs purpose loc _
    · rw [hs]
      exact hs fs purpose loc _
    · obtain ⟨e, he⟩ := hs .follow rest
      obtain ⟨e', he'⟩ := hs purpose (rest ++ more)
      rw [he]
      exact ⟨by simp, e', he' fs loc⟩

/-- What a walk along names says of walks along these and more names: they pass the directory that the
first names lead to, with so many links left that may still be followed, or fail if there is none. -/
def Passes (fs : FileSystem) (n : Nat) (loc : Location) (names : List Text) (r : Lookup) : Prop :=
  (∃ dir m, r = .found dir .directory ∧
      ∀ purpose more, more.all List.isEmpty = false →
        walk fs purpose n loc (names ++ more) = walk fs purpose m dir more)
    ∨ ((∀ dir, r ≠ .found dir .directory) ∧
      ∀ purpose more, more.all List.isEmpty = false →
        ∃ e, walk fs purpose n loc (names ++ more) = .fault e)

/-- Of a walk that goes on as another one is said what is said of that. -/
theorem Passes.of_eq {fs : FileSystem} {n n' : Nat} {loc loc' : Location} {names names' : List Text}
    {r : Lookup} (h : fs.Passes n' loc' names' r)
    (heq : ∀ purpose more, more.all List.isEmpty = false →
      walk fs purpose n loc (names ++ more) = walk fs purpose n' loc' (names' ++ more)) :
    fs.Passes n loc names r := by
  rcases h with ⟨dir, m, hdir, hmore⟩ | ⟨hdir, hmore⟩
  · exact Or.inl ⟨dir, m, hdir, fun purpose more hm => (heq purpose more hm).trans (hmore purpose more hm)⟩
  · refine Or.inr ⟨hdir, fun purpose more hm => ?_⟩
    rw [heq purpose more hm]
    exact hmore purpose more hm

/-- **A walk along names and then more names passes the directory that the first names lead to.** -/
theorem walk_append (fs : FileSystem) (n : Nat) (loc : Location) (names : List Text) :
    fs.Passes n loc names (walk fs .follow n loc names) := by
  induction n, loc, names using walk_induction with
  | arrived n loc => exact Or.inl ⟨loc, n, walk_nil .., fun _ _ _ => rfl⟩
  | onward n loc name rest ih behind =>
    have happ := fun purpose more hm => @stride_append purpose more hm fs loc name rest
    rw [walk_cons]
    rcases hs : stride fs .follow loc name rest with loc' | ⟨loc', names⟩ | r
    · simp only [hs] at happ
      refine (ih loc').of_eq fun purpose more hm => ?_
      rw [List.cons_append, walk_cons, happ purpose more hm]
      rfl
    · -- behind the link the names are others, but fewer links may be followed
      simp only [hs] at happ
      cases n with
      | zero =>
        refine Or.inr ⟨by simp [Stride.goOn, walkBehind], fun purpose more hm => ?_⟩
        rw [List.cons_append, walk_cons, happ purpose more hm]
        exact ⟨.tooManyLinks, rfl⟩
      | succ n =>
        refine (behind n rfl loc' names).of_eq fun purpose more hm => ?_
        rw [List.cons_append, walk_cons, happ purpose more hm]
        rfl
    · -- that the walk ended at no directory is known as soon as there are more names, whichever
      simp only [hs] at happ
      refine Or.inr ⟨fun dir => (happ .follow [['x']] rfl).1 dir, fun purpose more hm => ?_⟩
      obtain ⟨-, e, he⟩ := happ purpose more hm
      rw [List.cons_append, walk_cons, he]
      exact ⟨e, rfl⟩

end FileSystem

end CrateSync
