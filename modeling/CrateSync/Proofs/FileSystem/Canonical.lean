/-
# Canonical paths

The search for the canonical path of what a path leads to.  Where links form no cycle and no path that is
looked at is too long, the search never ends in a circle, and it finds what the names resolve to
(`sound_trace`).  If that is a directory, its path passes no link and is its own canonical path, from any
working directory.

* `sound_trace` : the search;
* `IsCanonical` : the directories whose path is canonical; `IsCanonical.lookup_eq`,
  `IsCanonical.canonical_eq`;
* `isCanonical_of_canonical` : a canonical path that leads to a directory is the path of one of them.
-/
import CrateSync.Proofs.FileSystem.Effect
import CrateSync.Proofs.FileSystem.Traced

namespace CrateSync.FileSystem

open Text (splitOn)

variable {fs : FileSystem}

/-! ## The search, name by name -/

section

variable {enter : SeenLinks → Path → List Text → Trace × SeenLinks} {seen : SeenLinks} {p : Path}
  {name : Text} {rest : List Text}

theorem traceWith_skip (hn : name = [] ∨ name = ['.']) :
    traceWith fs enter seen p (name :: rest) = traceWith fs enter seen p rest :=
  if_pos hn

theorem traceWith_up :
    traceWith fs enter seen p (['.', '.'] :: rest) = traceWith fs enter seen p.up rest :=
  rfl

theorem traceWith_of_proper (hn : IsProper name) :
    traceWith fs enter seen p (name :: rest)
      = match fs.linkTarget? (p.child name) with
        | none => traceWith fs enter seen (p.child name) rest
        | some target =>
          match seen.lookup (p.child name) with
          | some (some known) => traceWith fs enter seen known rest
          | some none => (.circular ((p.child name).withRest rest), seen)
          | none =>
            match enter ((p.child name, none) :: seen) (linkStart p target) (splitOn '/' target) with
            | (.circular stuck, seen) => (.circular (stuck.withRest rest), seen)
            | (.tooDeep, seen) => (.tooDeep, seen)
            | (.unnameable, seen) => (.unnameable, seen)
            | (.resolved known, seen) =>
              traceWith fs enter ((p.child name, some known) :: seen) known rest := by
  rw [traceWith, if_neg hn.not_skipped, if_neg hn.ne_dots, if_neg (by simp [hn.nameable])]
  rfl

theorem traceWith_of_not_proper (hskip : ¬(name = [] ∨ name = ['.'])) (hdots : name ≠ ['.', '.'])
    (hn : ¬IsProper name) : traceWith fs enter seen p (name :: rest) = (.unnameable, seen) := by
  have hname : Path.isUnnameable name = true := by
    by_contra hfalse
    rw [Bool.not_eq_true] at hfalse
    exact hn ⟨fun h => hskip (Or.inl h), fun h => hskip (Or.inr h), hdots, hfalse⟩
  rw [traceWith, if_neg hskip, if_neg hdots, if_pos hname]

end

/-! ## What the search says -/

/-- No path that names meet is too long to be looked up. -/
def ShortWay (fs : FileSystem) (p : Path) (names : List Text) : Prop :=
  ∀ met, Meets fs p names met → ¬IsOverlong met

theorem shortWay_nil {p : Path} : fs.ShortWay p [] :=
  fun _ hmet => nomatch hmet

theorem shortWay_skip {p : Path} {name : Text} {rest : List Text} (hn : name = [] ∨ name = ['.'])
    (h : fs.ShortWay p rest) : fs.ShortWay p (name :: rest) := by
  intro met hmet
  cases hmet with
  | here hn' => exact absurd hn hn'.not_skipped
  | skip _ hmet => exact h met hmet
  | up => exact absurd hn (by simp)
  | plain hn' => exact absurd hn hn'.not_skipped
  | inside hn' => exact absurd hn hn'.not_skipped
  | behind hn' => exact absurd hn hn'.not_skipped

theorem shortWay_up {p : Path} {rest : List Text} (h : fs.ShortWay p.up rest) :
    fs.ShortWay p (['.', '.'] :: rest) := by
  intro met hmet
  cases hmet with
  | here hn => exact absurd rfl hn.ne_dots
  | skip hn => exact absurd hn (by simp)
  | up hmet => exact h met hmet
  | plain hn => exact absurd rfl hn.ne_dots
  | inside hn => exact absurd rfl hn.ne_dots
  | behind hn => exact absurd rfl hn.ne_dots

theorem shortWay_plain {p : Path} {name : Text} {rest : List Text} (hn : IsProper name)
    (hl : fs.linkAt? (p.child name) = none) (ho : ¬IsOverlong (p.child name))
    (h : fs.ShortWay (p.child name) rest) : fs.ShortWay p (name :: rest) := by
  intro met hmet
  cases hmet with
  | here => exact ho
  | skip hskip => exact absurd hskip hn.not_skipped
  | up => exact absurd rfl hn.ne_dots
  | plain _ _ hmet => exact h met hmet
  | inside _ hl' => exact absurd (hl.symm.trans hl') (by simp)
  | behind _ hl' => exact absurd (hl.symm.trans hl') (by simp)

theorem shortWay_link {p : Path} {name target : Text} {rest : List Text} (hn : IsProper name)
    (hl : fs.linkAt? (p.child name) = some target) (ho : ¬IsOverlong (p.child name))
    (ht : fs.ShortWay (linkStart p target) (splitOn '/' target))
    (h : ∀ known, Resolves fs (linkStart p target) (splitOn '/' target) known → fs.ShortWay known rest) :
    fs.ShortWay p (name :: rest) := by
  intro met hmet
  cases hmet with
  | here => exact ho
  | skip hskip => exact absurd hskip hn.not_skipped
  | up => exact absurd rfl hn.ne_dots
  | plain _ hl' => exact absurd (hl.symm.trans hl') (by simp)
  | inside _ hl' hmet =>
    obtain rfl := Option.some.inj (hl.symm.trans hl')
    exact ht met hmet
  | behind _ hl' hknown hmet =>
    obtain rfl := Option.some.inj (hl.symm.trans hl')
    exact h _ hknown met hmet

/-- The links that the search remembers have been resolved rightly. -/
def SeenLinks.Right (fs : FileSystem) (seen : SeenLinks) : Prop :=
  ∀ p known, seen.lookup p = some (some known) →
    ∃ target, fs.linkAt? p = some target
      ∧ Resolves fs (linkStart p.parent target) (splitOn '/' target) known

/-- What the search says of names: a path that they resolve to, when no link is unfinished that was not
before, or a link that is met again while its own target is resolved. -/
structure Sound (fs : FileSystem) (seen : SeenLinks) (p : Path) (names : List Text)
    (r : Trace × SeenLinks) : Prop where
  right : SeenLinks.Right fs r.2
  resolved : ∀ q, r.1 = .resolved q → Resolves fs p names q
  finished : ∀ q, r.1 = .resolved q → ∀ met, r.2.lookup met = some none → seen.lookup met = some none
  circular : ∀ q, r.1 = .circular q → ∃ met, seen.lookup met = some none ∧ Meets fs p names met

/-- What is said of the names that are left is said of all of them. -/
theorem Sound.extend {seen seen' : SeenLinks} {p p' : Path} {names names' : List Text}
    {r : Trace × SeenLinks} (h : Sound fs seen' p' names' r)
    (hopen : ∀ met, seen'.lookup met = some none → seen.lookup met = some none)
    (hresolves : ∀ q, Resolves fs p' names' q → Resolves fs p names q)
    (hmeets : ∀ met, Meets fs p' names' met → Meets fs p names met) : Sound fs seen p names r where
  right := h.right
  resolved q hq := hresolves q (h.resolved q hq)
  finished q hq met hmet := hopen met (h.finished q hq met hmet)
  circular q hq := by
    obtain ⟨met, hmet, hmeet⟩ := h.circular q hq
    exact ⟨met, hopen met hmet, hmeets met hmeet⟩

theorem SeenLinks.lookup_cons {seen : SeenLinks} {p met : Path} {o : Option Path} :
    List.lookup met ((p, o) :: seen) = if met = p then some o else seen.lookup met := by
  by_cases h : met = p
  · simp [h]
  · simp [List.lookup_cons, h, beq_eq_false_iff_ne.mpr h]

theorem SeenLinks.Right.cons {seen : SeenLinks} (h : SeenLinks.Right fs seen) {p : Path} {o : Option Path}
    (ho : ∀ known, o = some known → ∃ target, fs.linkAt? p = some target
      ∧ Resolves fs (linkStart p.parent target) (splitOn '/' target) known) :
    SeenLinks.Right fs ((p, o) :: seen) := by
  intro met known hmet
  rw [SeenLinks.lookup_cons] at hmet
  split_ifs at hmet with heq
  · subst heq
    exact ho known (Option.some.inj hmet)
  · exact h met known hmet

section

variable {seen seen' : SeenLinks} {p known stuck : Path} {name target : Text} {rest : List Text}
  {r : Trace × SeenLinks}

/-- Behind a link that is known the search goes on with the names that are left. -/
theorem Sound.behind (h : Sound fs seen' known rest r)
    (hopen : ∀ met, seen'.lookup met = some none → seen.lookup met = some none) (hn : IsProper name)
    (hlink : fs.linkAt? (p.child name) = some target)
    (hknown : Resolves fs (linkStart p target) (splitOn '/' target) known) :
    Sound fs seen p (name :: rest) r :=
  h.extend hopen (fun _ => .link hn hlink hknown) fun _ => .behind hn hlink hknown

/-- A link of which the target has been resolved is remembered rightly. -/
theorem Sound.right_link
    (h : Sound fs ((p.child name, none) :: seen) (linkStart p target) (splitOn '/' target)
      (.resolved known, seen')) (hlink : fs.linkAt? (p.child name) = some target) :
    SeenLinks.Right fs ((p.child name, some known) :: seen') := by
  refine h.right.cons fun known' heq => ⟨target, hlink, ?_⟩
  obtain rfl := Option.some.inj heq
  rw [Path.parent_child]
  exact h.resolved known rfl

/-- A link of which the target has been resolved is finished. -/
theorem Sound.finished_link
    (h : Sound fs ((p.child name, none) :: seen) (linkStart p target) (splitOn '/' target)
      (.resolved known, seen')) {met : Path}
    (hmet : List.lookup met ((p.child name, some known) :: seen') = some none) :
    seen.lookup met = some none := by
  rw [SeenLinks.lookup_cons] at hmet
  split_ifs at hmet with heq
  · exact absurd hmet (by simp)
  · have hopen := h.finished known rfl met hmet
    rwa [SeenLinks.lookup_cons, if_neg heq] at hopen

/-- Where the target of a link meets an unfinished one, this is not the link itself: it would go around. -/
theorem Sound.circular_link (ht : fs.IsTree) (hnames : fs.WellNamed) (hacyclic : fs.LinksAcyclic)
    (h : Sound fs ((p.child name, none) :: seen) (linkStart p target) (splitOn '/' target)
      (.circular stuck, seen')) (hp : fs.Traced p) (hn : IsProper name)
    (hlink : fs.linkAt? (p.child name) = some target) :
    Sound fs seen p (name :: rest) (.circular (stuck.withRest rest), seen') := by
  refine ⟨h.right, by simp, by simp, fun q _ => ?_⟩
  obtain ⟨met, hopen, hmeets⟩ := h.circular stuck rfl
  rw [SeenLinks.lookup_cons] at hopen
  split_ifs at hopen with heq
  · subst heq
    exact absurd hmeets (hacyclic.not_meets ht hnames hp hn hlink)
  · exact ⟨met, hopen, .inside hn hlink hmeets⟩

end

section

variable (ht : fs.IsTree) (hnames : fs.WellNamed) (hacyclic : fs.LinksAcyclic)

include ht hnames hacyclic

/-- The search along names from a link on is sound if it is for the names behind it and for targets. -/
theorem sound_link {enter : SeenLinks → Path → List Text → Trace × SeenLinks}
    (henter : ∀ seen p names, SeenLinks.Right fs seen → fs.Traced p → fs.ShortWay p names →
      Sound fs seen p names (enter seen p names))
    {seen : SeenLinks} (hseen : SeenLinks.Right fs seen) {p : Path} (hp : fs.Traced p)
    {name target : Text} {rest : List Text} (hshort : fs.ShortWay p (name :: rest)) (hn : IsProper name)
    (hlink : fs.linkAt? (p.child name) = some target)
    (hrest : ∀ {seen}, SeenLinks.Right fs seen → ∀ p, fs.Traced p → fs.ShortWay p rest →
      Sound fs seen p rest (traceWith fs enter seen p rest)) :
    Sound fs seen p (name :: rest)
      (match seen.lookup (p.child name) with
        | some (some known) => traceWith fs enter seen known rest
        | some none => (.circular ((p.child name).withRest rest), seen)
        | none =>
          match enter ((p.child name, none) :: seen) (linkStart p target) (splitOn '/' target) with
          | (.circular stuck, seen) => (.circular (stuck.withRest rest), seen)
          | (.tooDeep, seen) => (.tooDeep, seen)
          | (.unnameable, seen) => (.unnameable, seen)
          | (.resolved known, seen) =>
            traceWith fs enter ((p.child name, some known) :: seen) known rest) := by
  have hstart := hp.linkStart target
  cases hlookup : seen.lookup (p.child name) with
  | some o =>
    cases o with
    | none =>
      -- the link is unfinished, and the names meet it
      exact ⟨hseen, by simp, by simp, fun q _ => ⟨p.child name, hlookup, .here hn⟩⟩
    | some known =>
      obtain ⟨target', hlink', hknown⟩ := hseen _ _ hlookup
      obtain rfl := Option.some.inj (hlink.symm.trans hlink')
      rw [Path.parent_child] at hknown
      refine (hrest hseen known (hknown.traced hstart) fun met hmet => ?_).behind (fun _ h => h) hn hlink
        hknown
      exact hshort met (.behind hn hlink hknown hmet)
  | none =>
    have hinside := henter _ (linkStart p target) (splitOn '/' target)
      (hseen.cons (p := p.child name) (o := none) (by simp)) hstart
      fun met hmet => hshort met (.inside hn hlink hmet)
    rcases hresult : enter ((p.child name, none) :: seen) (linkStart p target) (splitOn '/' target)
      with ⟨known | stuck | _ | _, seen'⟩ <;> rw [hresult] at hinside
    · have hknown := hinside.resolved known rfl
      refine (hrest (hinside.right_link hlink) known (hknown.traced hstart) fun met hmet => ?_).behind
        (fun _ => hinside.finished_link) hn hlink hknown
      exact hshort met (.behind hn hlink hknown hmet)
    · exact hinside.circular_link ht hnames hacyclic hp hn hlink
    · exact ⟨hinside.right, by simp, by simp, by simp⟩
    · exact ⟨hinside.right, by simp, by simp, by simp⟩

/-- The search along names is sound if it is for the targets of links. -/
theorem sound_traceWith {enter : SeenLinks → Path → List Text → Trace × SeenLinks}
    (henter : ∀ seen p names, SeenLinks.Right fs seen → fs.Traced p → fs.ShortWay p names →
      Sound fs seen p names (enter seen p names))
    {seen : SeenLinks} (hseen : SeenLinks.Right fs seen) (p : Path) (hp : fs.Traced p) {names : List Text}
    (hshort : fs.ShortWay p names) : Sound fs seen p names (traceWith fs enter seen p names) := by
  induction names generalizing seen p with
  | nil =>
    refine ⟨hseen, fun q hq => ?_, fun _ _ _ hmet => hmet, fun q hq => absurd hq (by simp [traceWith])⟩
    obtain rfl : p = q := by simpa [traceWith] using hq
    exact .arrived p
  | cons name rest ih =>
    by_cases hskip : name = [] ∨ name = ['.']
    · rw [traceWith_skip hskip]
      refine (ih hseen p hp fun met hmet => ?_).extend (fun _ h => h) (fun _ => .skip hskip)
        fun _ => .skip hskip
      exact hshort met (.skip hskip hmet)
    by_cases hdots : name = ['.', '.']
    · subst hdots
      rw [traceWith_up]
      refine (ih hseen p.up hp.up fun met hmet => ?_).extend (fun _ h => h) (fun _ => .up) fun _ => .up
      exact hshort met (.up hmet)
    by_cases hn : IsProper name
    · rw [traceWith_of_proper hn, hp.linkTarget?_child ht hnames hn (hshort _ (.here hn))]
      cases hlink : fs.linkAt? (p.child name) with
      | none =>
        refine (ih hseen (p.child name) (hp.child hn hlink) fun met hmet => ?_).extend (fun _ h => h)
          (fun _ => .plain hn hlink) fun _ => .plain hn hlink
        exact hshort met (.plain hn hlink hmet)
      | some target =>
        exact sound_link ht hnames hacyclic henter hseen hp hshort hn hlink fun hseen p hp => ih hseen p hp
    · rw [traceWith_of_not_proper hskip hdots hn]
      exact ⟨hseen, by simp, by simp, by simp⟩

/-- **The search is sound** where links form no cycle. -/
theorem sound_trace (n : Nat) {seen : SeenLinks} (hseen : SeenLinks.Right fs seen) {p : Path}
    (hp : fs.Traced p) {names : List Text} (hshort : fs.ShortWay p names) :
    Sound fs seen p names (trace fs n seen p names) := by
  induction n generalizing seen p names with
  | zero =>
    exact sound_traceWith ht hnames hacyclic (fun seen p names h _ _ => ⟨h, by simp, by simp, by simp⟩)
      hseen p hp hshort
  | succ n ih =>
    exact sound_traceWith ht hnames hacyclic (fun seen p names h hp hshort => ih h hp hshort)
      hseen p hp hshort

end

/-! ## The canonical path -/

/-- Where resolving a path starts. -/
def resolvingStart (p : Path) : Path :=
  if p.isAbsolute then .absolute [] else ⟨.relative, []⟩

theorem traced_resolvingStart (p : Path) : fs.Traced (resolvingStart p) := by
  unfold resolvingStart
  split_ifs
  · exact .root
  · exact .above 0

theorem canonical_eq_of_trace (p : Path) :
    fs.canonical p
      = match (fs.trace nestingLimit [] (resolvingStart p) p.names).1 with
        | .resolved q => fs.checkLinks (fs.absolutePath q)
        | .circular q => fs.checkLinks (fs.absolutePath q)
        | .tooDeep => .error .tooDeep
        | .unnameable => .error .unnameable :=
  rfl

/-- Where no link has to be entered, the search does not depend on how deep it may go. -/
theorem canonical_of_traceWith {p q : Path}
    (h : ∀ enter, traceWith fs enter [] (resolvingStart p) p.names = (.resolved q, [])) :
    fs.canonical p = fs.checkLinks (fs.absolutePath q) := by
  have htrace : ∀ n, trace fs n [] (resolvingStart p) p.names = (.resolved q, []) := by
    intro n
    cases n with
    | zero => exact h _
    | succ n => exact h _
  rw [canonical_eq_of_trace, htrace]

theorem eq_of_checkLinks {p q : Path} (h : fs.checkLinks p = .ok q) : p = q := by
  unfold checkLinks at h
  split_ifs at h
  split at h
  · exact absurd h (by simp)
  · exact Except.ok.inj h

/-! ## Directories with canonical paths -/

/-- A directory whose path from the root is not too long to be looked up. -/
structure IsCanonical (fs : FileSystem) (names : Location) : Prop where
  directory : fs.node? names = some .directory
  short : ¬IsOverlong (.absolute names)

/-- The working directory does not matter. -/
theorem IsCanonical.elsewhere {names : Location} (h : fs.IsCanonical names) (cwd : Location) :
    { fs with cwd := cwd }.IsCanonical names :=
  ⟨h.directory, h.short⟩

section

variable (ht : fs.IsTree) (hnames : fs.WellNamed) {names : Location}

include ht hnames

/-- A directory above one with a canonical path has one as well. -/
theorem IsCanonical.above (h : fs.IsCanonical names) {some_ : Location} (hpre : some_ <+: names) :
    fs.IsCanonical some_ := by
  obtain ⟨more, rfl⟩ := hpre
  induction more using List.reverseRecOn with
  | nil => rwa [List.append_nil] at h
  | append_singleton more name ih =>
    rw [← List.append_assoc] at h
    have hproper : IsProper name := hnames.proper h.directory (by simp)
    exact ih ⟨ht.parent _ name _ h.directory,
      not_isOverlong_of_child (p := .absolute (some_ ++ more)) hproper h.short⟩

theorem IsCanonical.leads (h : fs.IsCanonical names) : fs.Leads (.absolute names) names .directory := by
  have htraced := traced_of_directory ht hnames h.directory
  refine (htraced.leads_iff ht hnames h.short names).mpr ⟨?_, h.directory⟩
  exact (Path.collapse_of_isProper fun name hname => hnames.proper h.directory hname).symm

/-- **A canonical path ends at its directory**, also if no link at its end is followed. -/
theorem IsCanonical.lookup_eq (h : fs.IsCanonical names) (purpose : Purpose) :
    fs.lookup purpose (.absolute names) = .found names .directory := by
  rcases List.eq_nil_or_concat names with rfl | ⟨dir, name, rfl⟩
  · rw [lookup_eq_walk h.short]
    exact walk_nil ..
  · rw [List.concat_eq_append] at h ⊢
    have hdir := (h.above ht hnames (List.prefix_append dir [name])).leads ht hnames
    obtain ⟨m, hlook⟩ := lookup_child hdir (hnames.plain _ _ h.directory name (by simp)) h.short purpose
    rw [h.directory] at hlook
    exact hlook.trans (walk_nil ..)

/-- The search keeps a canonical path. -/
theorem IsCanonical.traceWith_eq {enter : SeenLinks → Path → List Text → Trace × SeenLinks}
    {seen : SeenLinks} (dir : Location) {rest : List Text} (h : fs.IsCanonical (dir ++ rest)) :
    traceWith fs enter seen (.absolute dir) rest = (.resolved (.absolute (dir ++ rest)), seen) := by
  induction rest generalizing dir with
  | nil => rw [traceWith, List.append_nil]
  | cons name rest ih =>
    rw [List.append_cons] at h ⊢
    have hlook := (h.above ht hnames (List.prefix_append _ rest)).lookup_eq ht hnames .stay
    have hnone : fs.linkTarget? (Path.child (.absolute dir) name) = none := by
      unfold linkTarget?
      rw [show fs.lookup .stay (Path.child (.absolute dir) name) = _ from hlook]
    rw [traceWith_of_proper (hnames.proper h.directory (by simp)), hnone]
    exact ih (dir ++ [name]) h

/-- **A canonical path is its own canonical path.** -/
theorem IsCanonical.canonical_eq (h : fs.IsCanonical names) :
    fs.canonical (.absolute names) = .ok (.absolute names) := by
  have hproper : ∀ name ∈ names, IsProper name := fun _ hname => hnames.proper h.directory hname
  have hnameable : names.any Path.isUnnameable = false := by
    rw [List.any_eq_false]
    exact fun name hname => by simp [(hproper name hname).nameable]
  have habsolute : fs.absolutePath (.absolute names) = .absolute names := by
    change Path.absolute (Path.collapse names) = _
    rw [Path.collapse_of_isProper hproper]
  have hcheck : fs.checkLinks (.absolute names) = .ok (.absolute names) := by
    rw [checkLinks, if_neg (by simpa [Path.absolute] using hnameable), h.lookup_eq ht hnames]
  rw [canonical_of_traceWith fun _ => h.traceWith_eq ht hnames [], List.nil_append, habsolute, hcheck]

/-- **The canonical path of a path is the place of what its names resolve to**, where links form no
cycle. -/
theorem exists_resolves_of_canonical (hacyclic : fs.LinksAcyclic) {p q : Path}
    (hshort : fs.ShortWay (resolvingStart p) p.names) (h : fs.canonical p = .ok q) :
    ∃ r, Resolves fs (resolvingStart p) p.names r ∧ q = .absolute (fs.place r) := by
  have hstart : fs.Traced (resolvingStart p) := traced_resolvingStart p
  have hright : SeenLinks.Right fs [] := by simp [SeenLinks.Right]
  have hsound := sound_trace ht hnames hacyclic nestingLimit hright hstart hshort
  rw [canonical_eq_of_trace] at h
  rcases hresult : (fs.trace nestingLimit [] (resolvingStart p) p.names).1 with r | stuck | _ | _
  · rw [hresult] at h
    have hresolves := hsound.resolved r hresult
    refine ⟨r, hresolves, ?_⟩
    rw [← (hresolves.traced hstart).absolutePath_eq]
    exact (eq_of_checkLinks h).symm
  · -- no link is unfinished at first
    obtain ⟨met, hopen, -⟩ := hsound.circular stuck hresult
    exact absurd hopen (by simp)
  · rw [hresult] at h
    exact absurd h (by simp)
  · rw [hresult] at h
    exact absurd h (by simp)

/-- **A canonical path that leads to a directory is the path of that directory**, where links form no
cycle. -/
theorem isCanonical_of_canonical (hacyclic : fs.LinksAcyclic) {p q : Path}
    (hshort : fs.ShortWay (resolvingStart p) p.names) (h : fs.canonical p = .ok q)
    (hdirectory : fs.isDirectory q = .ok true) : ∃ names, q = .absolute names ∧ fs.IsCanonical names := by
  obtain ⟨r, hresolves, rfl⟩ := exists_resolves_of_canonical ht hnames hacyclic hshort h
  obtain ⟨loc, hleads⟩ := exists_leads_of_isDirectory hdirectory
  have hlong := not_isOverlong_of_location hleads.location
  have htraced := (hresolves.traced (traced_resolvingStart p)).absolute ht hnames
  obtain ⟨hloc, hnode⟩ := (htraced.leads_iff ht hnames hlong loc).mp hleads
  rw [(hresolves.traced (traced_resolvingStart p)).place_place ht hnames] at hloc
  subst hloc
  exact ⟨_, rfl, hnode, hlong⟩

end

end CrateSync.FileSystem
