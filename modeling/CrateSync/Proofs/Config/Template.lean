/-
# The template directory

The path of the template directory is canonical: it passes no link and no dots, leads to a directory, and
naming it leads to itself, wherever that is done.  The search looks links up along the path as it is
written, so this needs paths that are short enough for the system: behind too many steps up a link is not
recognised.

* `template_directory_canonical` : what holds of the path of a template directory;
* `template_directory_of_long_climb` : behind too many steps up it may be a link.
-/
import CrateSync.Config.Settings
import CrateSync.Proofs.FileSystem.Canonical

namespace CrateSync

open FileSystem

namespace Settings

/-! ## How a template directory is found -/

/-- The path of the template directory as it is named, with a home directory in place of a tilde and the
user behind it. -/
def IsCandidate (host : Host) (env : Environment) (explicit : Option Path) (p : Path) : Prop :=
  ∃ named, namedTemplate host.home env explicit = .ok named ∧ named.expandHome? host = some p

/-- **How a template directory is found**: its path is the canonical path of what is named, and leads to a
directory that may be read. -/
theorem templateDirectory_eq_ok {host : Host} {env : Environment} {explicit : Option Path} {p : Path} :
    templateDirectory host env explicit = .ok p
      ↔ ∃ candidate, IsCandidate host env explicit candidate
        ∧ host.fs.canonical candidate = .ok p ∧ host.fs.isDirectory p = .ok true
        ∧ host.unreadable.contains p.toText = false := by
  constructor
  · intro h
    unfold templateDirectory at h
    rcases hnamed : namedTemplate host.home env explicit with e | named
    · rw [hnamed] at h
      exact absurd h (by simp [bind, Except.bind])
    rw [hnamed] at h
    simp only [bind, Except.bind] at h
    rcases hexpanded : named.expandHome? host with _ | expanded
    · rw [hexpanded] at h
      exact absurd h (by simp)
    rw [hexpanded] at h
    simp only [canonical] at h
    rcases hcanonical : host.fs.canonical expanded with e | directory
    · rw [hcanonical] at h
      exact absurd h (by simp [Except.mapError])
    rw [hcanonical] at h
    simp only [Except.mapError] at h
    rcases hdirectory : host.fs.isDirectory directory with e | (_ | _)
    · rw [hdirectory] at h
      exact absurd h (by simp)
    · rw [hdirectory] at h
      exact absurd h (by simp)
    rw [hdirectory] at h
    by_cases hreadable : host.unreadable.contains directory.toText = true
    · simp only [hreadable, if_true] at h
      exact absurd h (by simp)
    · simp only [hreadable] at h
      obtain rfl : directory = p := Except.ok.inj h
      exact ⟨expanded, ⟨named, hnamed, hexpanded⟩, hcanonical, hdirectory, by simpa using hreadable⟩
  · rintro ⟨candidate, ⟨named, hnamed, hexpanded⟩, hcanonical, hdirectory, hreadable⟩
    unfold templateDirectory canonical
    simp only [hnamed, bind, Except.bind, hexpanded, hcanonical, Except.mapError, hdirectory, hreadable]
    rfl

/-! ## What is found -/

/-- An absolute path names itself. -/
theorem isCandidate_absolute (host : Host) (env : Environment) (names : List Text) :
    IsCandidate host env (some (.absolute names)) (.absolute names) :=
  ⟨_, rfl, rfl⟩

/-- **The path of a template directory is canonical** where links form no cycle and no path that is looked
at on the way is too long.  It is absolute and has no dots, no part of it from the start is a link, it leads
to a directory, and it is the path of the template directory that is found if it is named itself. -/
theorem template_directory_canonical {host : Host} {env : Environment} {explicit : Option Path} {p : Path}
    (ht : host.fs.IsTree) (hnames : host.fs.WellNamed) (hacyclic : host.fs.LinksAcyclic)
    (hshort : ∀ candidate, IsCandidate host env explicit candidate →
      host.fs.ShortWay (resolvingStart candidate) candidate.names)
    (h : templateDirectory host env explicit = .ok p) :
    ∃ names, p = .absolute names
      ∧ (∀ name ∈ names, name ≠ [] ∧ name ≠ ['.'] ∧ name ≠ ['.', '.'])
      ∧ (∀ some_, some_ <+: names → host.fs.lookup .stay (.absolute some_) = .found some_ .directory)
      ∧ host.fs.isDirectory p = .ok true
      ∧ ∀ cwd home users env', host.fs.node? cwd = some .directory →
          templateDirectory { host with fs := { host.fs with cwd := cwd }, home := home, users := users }
            env' (some p) = .ok p := by
  obtain ⟨candidate, hcandidate, hcanonical, hdirectory, hreadable⟩ := templateDirectory_eq_ok.mp h
  obtain ⟨names, rfl, hpath⟩ :=
    isCanonical_of_canonical ht hnames hacyclic (hshort candidate hcandidate) hcanonical hdirectory
  refine ⟨names, rfl, fun name hname => ?_, fun some_ hpre => ?_, hdirectory,
    fun cwd home users env' hcwd => ?_⟩
  · have hproper := hnames.proper hpath.directory hname
    exact ⟨hproper.ne_nil, hproper.ne_dot, hproper.ne_dots⟩
  · exact (hpath.above ht hnames hpre).lookup_eq ht hnames .stay
  · have ht' : { host.fs with cwd := cwd }.IsTree := ⟨ht.parent, hcwd⟩
    have hnames' : { host.fs with cwd := cwd }.WellNamed := ⟨hnames.plain, hnames.nameable⟩
    have hpath' := hpath.elsewhere cwd
    exact templateDirectory_eq_ok.mpr ⟨_, isCandidate_absolute .., hpath'.canonical_eq ht' hnames',
      isDirectory_of_leads (hpath'.leads ht' hnames'), hreadable⟩

/-- A template directory that is named by a link in the home directory of a user, wherever it is named
again. -/
theorem template_directory_behind_link :
    let fs : FileSystem := ⟨[(["home"], .directory), (["srv"], .directory),
      (["srv", "templates"], .directory), (["home", "current"], .link "../srv/./templates")], []⟩
    let host : Host := ⟨fs, "/", [("ann", "/home/")], []⟩
    templateDirectory host [] (some ⟨.relative, ["~ann", "current"]⟩) = .ok (.absolute ["srv", "templates"])
      ∧ ∀ cwd home users env', host.fs.node? cwd = some .directory →
          templateDirectory { host with fs := { host.fs with cwd := cwd }, home := home, users := users }
            env' (some (.absolute ["srv", "templates"])) = .ok (.absolute ["srv", "templates"]) := by
  intro fs host
  have hnames : host.fs.WellNamed := wellNamed_of_entries (by decide)
  have hfound : templateDirectory host [] (some ⟨.relative, ["~ann", "current"]⟩)
      = .ok (.absolute ["srv", "templates"]) := by decide +kernel
  have hshort : host.fs.ShortWay (.absolute []) ["home", "current"] := by
    refine shortWay_plain (by decide) (by decide) (by decide) ?_
    have hlink : host.fs.linkAt? (Path.child (.absolute ["home"]) "current") = some "../srv/./templates" := by
      decide
    refine shortWay_link (by decide) hlink (by decide) ?_ fun known _ => shortWay_nil
    refine shortWay_up (shortWay_plain (by decide) (by decide) (by decide) (shortWay_skip (Or.inr rfl) ?_))
    exact shortWay_plain (by decide) (by decide) (by decide) shortWay_nil
  have hway : ∀ candidate, IsCandidate host [] (some ⟨.relative, ["~ann", "current"]⟩) candidate →
      host.fs.ShortWay (resolvingStart candidate) candidate.names := by
    rintro candidate ⟨named, hnamed, hexpanded⟩
    obtain rfl := Except.ok.inj hnamed
    obtain rfl : Path.absolute ["home", "current"] = candidate := Option.some.inj hexpanded
    exact hshort
  have hacyclic : host.fs.LinksAcyclic := linksAcyclic_of_entries hnames (by decide)
  obtain ⟨names, hpath, -, -, -, hagain⟩ := template_directory_canonical
    (isTree_of_entries (by decide) (by decide)) hnames hacyclic hway hfound
  exact ⟨hfound, hagain⟩

/-! ## Too many steps up -/

/-- Steps up in front of a name take three octets each. -/
theorem three_mul_le_length_encode (n : Nat) (name : Text) :
    3 * n ≤ (Text.encode (Path.toText ⟨.relative, List.replicate n ['.', '.'] ++ [name]⟩)).length := by
  have hjoin : (Text.joinWith ['/'] (List.replicate n ['.', '.'] ++ [name])).length
      = 3 * n + name.length := by
    induction n with
    | zero => simp [Text.joinWith]
    | succ n ih =>
      have hcons : Text.joinWith ['/'] ([['.', '.']] ++ (List.replicate n ['.', '.'] ++ [name])) = _ :=
        Text.joinWith_append ['/'] (by simp) (by simp)
      rw [List.replicate_succ, List.cons_append]
      change (Text.joinWith ['/'] ([['.', '.']] ++ (List.replicate n ['.', '.'] ++ [name]))).length = _
      rw [hcons]
      simp only [List.length_append, ih, Text.joinWith, List.length_cons, List.length_nil]
      omega
  have htext : Path.toText ⟨.relative, List.replicate n ['.', '.'] ++ [name]⟩
      = Text.joinWith ['/'] (List.replicate n ['.', '.'] ++ [name]) := by
    simp [Path.toText]
  rw [htext]
  exact Nat.le_trans (by omega) (Text.length_le_length_encode _)

/-- The search goes up as often as it is told. -/
theorem traceWith_steps_up {fs : FileSystem} {enter : SeenLinks → Path → List Text → Trace × SeenLinks}
    {seen : SeenLinks} (k n : Nat) (rest : List Text) :
    traceWith fs enter seen ⟨.relative, List.replicate k ['.', '.']⟩ (List.replicate n ['.', '.'] ++ rest)
      = traceWith fs enter seen ⟨.relative, List.replicate (k + n) ['.', '.']⟩ rest := by
  induction n generalizing k with
  | zero => rfl
  | succ n ih =>
    rw [List.replicate_succ, List.cons_append, traceWith_up, Path.up_above, ih, Nat.add_right_comm,
      Nat.add_assoc]

/-- **Behind too many steps up a name is kept**, whether or not it is the name of a link. -/
theorem canonical_of_long_climb {fs : FileSystem} {n : Nat} (hlong : pathOctetsLimit ≤ 3 * n) {name : Text}
    (hn : IsProper name) :
    fs.canonical ⟨.relative, List.replicate n ['.', '.'] ++ [name]⟩
      = fs.checkLinks (.absolute (List.dropLast^[n] (Path.collapse fs.cwd) ++ [name])) := by
  let climbed : Path := ⟨.relative, List.replicate n ['.', '.']⟩
  have hover : IsOverlong (climbed.child name) := Nat.le_trans hlong (three_mul_le_length_encode n name)
  have hnone : fs.linkTarget? (climbed.child name) = none := by
    rw [linkTarget?, lookup_of_isOverlong hover]
  have htrace : ∀ enter, traceWith fs enter [] ⟨.relative, []⟩ (List.replicate n ['.', '.'] ++ [name])
      = (.resolved (climbed.child name), []) := by
    intro enter
    have hup : traceWith fs enter [] ⟨.relative, List.replicate 0 ['.', '.']⟩ _ = _ :=
      traceWith_steps_up 0 n [name]
    rw [Nat.zero_add, traceWith_of_proper hn, hnone] at hup
    exact hup
  have habsolute : fs.absolutePath (climbed.child name)
      = .absolute (List.dropLast^[n] (Path.collapse fs.cwd) ++ [name]) := by
    change Path.absolute (fs.place (climbed.child name)) = _
    rw [place_child hn, place_above]
  exact (canonical_of_traceWith htrace).trans (congrArg fs.checkLinks habsolute)

/-- The path of a template directory may be a link, although links form no cycle: it is when a link is named
behind so many steps up that its path is too long. -/
theorem template_directory_of_long_climb :
    let fs : FileSystem := ⟨[(["real"], .directory), (["link"], .link "real")], []⟩
    let host : Host := ⟨fs, "/", [], []⟩
    fs.IsTree ∧ fs.WellNamed ∧ fs.LinksAcyclic
      ∧ templateDirectory host [] (some ⟨.relative, List.replicate 1366 ['.', '.'] ++ [("link" : Text)]⟩)
          = .ok (.absolute ["link"])
      ∧ fs.node? ["link"] = some (.link "real")
      ∧ templateDirectory host [] (some (.absolute ["link"])) = .ok (.absolute ["real"]) := by
  intro fs host
  have hnames : fs.WellNamed := wellNamed_of_entries (by decide)
  have hcanonical : fs.canonical ⟨.relative, List.replicate 1366 ['.', '.'] ++ [("link" : Text)]⟩
      = .ok (.absolute ["link"]) := by
    have hroot : List.dropLast^[1366] (Path.collapse fs.cwd) = [] :=
      Function.iterate_fixed List.dropLast_nil 1366
    rw [canonical_of_long_climb (by decide) (by decide), hroot]
    decide
  refine ⟨isTree_of_entries (by decide) (by decide), hnames, linksAcyclic_of_entries hnames (by decide),
    ?_, by decide, by decide +kernel⟩
  exact templateDirectory_eq_ok.mpr ⟨_, ⟨_, rfl, rfl⟩, hcanonical, by decide, rfl⟩

end Settings

end CrateSync
