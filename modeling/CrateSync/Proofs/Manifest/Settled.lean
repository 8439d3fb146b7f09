/-
# A second edit

A section that sets every desired key once, with values that the package agrees on, and no other managed
key, is what the edit makes it.  An edited manifest has such a section, if every line that looks like a
managed entry is one, and then a second edit finds nothing to do.

* `Remains.eq_self`, `Layout.withLicense_eq_self` : lines that the edit leaves as they are;
* `edit_settles_manifest` : the second edit of a manifest;
* `edit_of_description_not_settled` : a manifest where the second edit goes on.
-/
import CrateSync.Proofs.Manifest.Cut
import CrateSync.Proofs.Manifest.Meaning

namespace CrateSync.Manifest

variable {mode : LicenseMode} {package : Toml.Table} {newline : Text} {r : Reading}

/-! ## Lines that are as they should be -/

/-- **Lines that set desired keys only**, each once and as the package has it, remain. -/
theorem Remains.eq_self {earlier lines kept : List Text}
    (h : Remains mode package newline earlier lines kept)
    (hagrees : ∀ line ∈ lines, ∀ key, managedKey? mode line = some key →
      ∃ s, setting? mode key = some s ∧ Agrees package key s)
    (honce : ((earlier ++ lines).filterMap (managedKey? mode)).Nodup) : kept = lines := by
  induction h with
  | nil => rfl
  | @cons earlier rest kept piece line h _ ih =>
    have hrest : kept = rest := by
      refine ih (fun l hl => hagrees l (List.mem_cons_of_mem _ hl)) ?_
      rwa [← List.append_cons]
    have hline := hagrees line List.mem_cons_self
    subst hrest
    cases h with
    | other => rfl
    | right => rfl
    | stale key hkey hs =>
      obtain ⟨s, hsome, -⟩ := hline key hkey
      rw [hs] at hsome
      exact absurd hsome (by simp)
    | repeated key hkey again =>
      obtain ⟨l, hl, hset⟩ := again
      rw [List.filterMap_append, List.filterMap_cons_some hkey, List.nodup_append] at honce
      have hmem : key ∈ earlier.filterMap (managedKey? mode) := List.mem_filterMap.mpr ⟨l, hl, hset⟩
      exact absurd rfl (honce.2.2 key hmem key List.mem_cons_self)
    | written key s hfirst hs ha =>
      obtain ⟨s', hs', ha'⟩ := hline key hfirst.sets
      obtain rfl : s = s' := Option.some.inj (hs.symm.trans hs')
      exact absurd ha' ha

/-- Where no lines are added, nothing is changed. -/
theorem Inserted.of_nil {header header' : Text} {kept body : List Text}
    (h : Inserted newline header kept [] header' body) : header' = header ∧ body = kept := by
  cases h with
  | nothing => exact ⟨rfl, rfl⟩
  | behind front blanks last hnew => exact absurd rfl hnew
  | first hnew => exact absurd rfl hnew

/-- **A section that the edit leaves as it is.** -/
theorem Layout.withLicense_eq_self {l : Layout}
    (hkeys : (l.body.filterMap (managedKey? mode)).Perm ((desired mode).map Prod.fst))
    (hagrees : ∀ entry ∈ desired mode, Agrees package entry.1 entry.2) :
    l.withLicense mode package = l := by
  have hwork := l.reworked_withLicense mode package
  have hkept : (editBody mode package l.newline [] l.body).1 = l.body := by
    refine hwork.remains.eq_self ?_ (hkeys.nodup_iff.mpr (nodup_desired mode))
    intro line hline key hkey
    have hmem : key ∈ (desired mode).map Prod.fst :=
      hkeys.mem_iff.mp (List.mem_filterMap.mpr ⟨line, hline, hkey⟩)
    obtain ⟨entry, hentry, rfl⟩ := List.mem_map.mp hmem
    exact ⟨entry.2, setting?_of_mem hentry, hagrees entry hentry⟩
  have habsent : absent mode l.body = [] := by
    refine List.eq_nil_iff_forall_not_mem.mpr fun entry hentry => ?_
    obtain ⟨hdesired, hnone⟩ := mem_absent.mp hentry
    have hmem := hkeys.mem_iff.mpr (List.mem_map_of_mem (f := Prod.fst) hdesired)
    obtain ⟨line, hline, hkey⟩ := List.mem_filterMap.mp hmem
    exact hnone line hline hkey
  have hinserted := hwork.inserted
  rw [hkept, habsent, List.map_nil] at hinserted
  obtain ⟨hheader, hbody⟩ := hinserted.of_nil
  have hbefore := hwork.before
  have hafter := hwork.after
  cases hedited : l.withLicense mode package with
  | mk before header body after =>
    rw [hedited] at hheader hbody hbefore hafter
    obtain ⟨rfl, rfl, rfl, rfl⟩ : before = l.before ∧ header = l.header ∧ body = l.body
      ∧ after = l.after := ⟨hbefore, hheader, hbody, hafter⟩
    rfl

/-- An edit of a document of which the section is as it should be. -/
theorem setLicense_eq_none {manifest : Text} {root : Toml.Table} {l : Layout}
    (hparse : Toml.parse manifest = .ok root) (hpackage : package? root = some package)
    (hl : Layout.ofLines? (Text.lines manifest) = some l)
    (hkeys : (l.body.filterMap (managedKey? mode)).Perm ((desired mode).map Prod.fst))
    (hagrees : ∀ entry ∈ desired mode, Agrees package entry.1 entry.2) :
    setLicense mode manifest = .ok none := by
  refine setLicense_eq_ok.mpr ⟨root, package, l, hparse, hpackage, hl, Or.inl ⟨?_, rfl⟩⟩
  rw [editedText, Layout.withLicense_eq_self hkeys hagrees, l.lines_ofLines hl, Text.flatten_lines]

/-! ## The second edit -/

/-- **A second edit finds nothing to do**, if every line of the package section that looks like a managed
entry is one. -/
theorem edit_settles_manifest {manifest updated : Text}
    (h : setLicense mode manifest = .ok (some updated)) {l : Layout}
    (hl : Layout.ofLines? (Text.lines manifest) = some l) (hread : l.ReadAs mode [] r) :
    setLicense mode updated = .ok none := by
  obtain ⟨package, ss, d₀, d₁, d₂, d₁', d₂', t₀, hstages⟩ := exists_editStages h hl hread
  obtain ⟨-, package', -, ht', -⟩ := hstages.new.tables
  have hagrees : ∀ entry ∈ desired mode, Agrees package' entry.1 entry.2 := by
    intro entry hentry
    obtain ⟨v, hv, hagree, -⟩ := hstages.old.agrees hstages.new hstages.rewritten
      (package?_eq_some.mp hstages.found) ht' entry hentry
    rw [Agrees, hv]
    exact hagree
  obtain ⟨l₂, hl₂, hkeys⟩ : ∃ l₂, Layout.ofLines? (Text.lines updated) = some l₂
      ∧ (l₂.body.filterMap (managedKey? mode)).Perm ((desired mode).map Prod.fst) := by
    obtain ⟨root, package, l', -, -, hl', hresult⟩ := setLicense_eq_ok.mp h
    obtain rfl : l = l' := Option.some.inj (hl.symm.trans hl')
    have hcut := hread.exists_cut hl package
    rwa [editedText_eq_getD hresult] at hcut
  exact setLicense_eq_none hstages.reparsed (package?_eq_some.mpr ht') hl₂ hkeys hagrees

/-- The manifest with a list of authors, edited twice. -/
theorem edit_settles_listed_authors :
    setLicense .proprietary listedAuthors.lines.flatten = .ok (some listedAuthorsEdited)
      ∧ Layout.ofLines? (Text.lines listedAuthors.lines.flatten) = some listedAuthors
      ∧ listedAuthors.ReadAs .proprietary [] listedAuthorsReading
      ∧ setLicense .proprietary listedAuthorsEdited = .ok none := by
  obtain ⟨h, hl⟩ := listedAuthors_edit
  have hread : listedAuthors.ReadAs .proprietary [] listedAuthorsReading :=
    listedAuthors_readAs.mono (by simp)
  exact ⟨h, hl, hread, edit_settles_manifest h hl hread⟩

/-- A line of a text over several lines looks like a license.  The first edit takes it for the license and
removes the entry behind it; the second writes the license into the text. -/
theorem edit_of_description_not_settled :
    let manifest : Text := "[package]\nname = \"demo\"\ndescription = \"\"\"\nlicense = \"foo\"\n\"\"\"\n"
      ++ "license = \"MIT\"\n"
    let once : Text :=
      "[package]\nname = \"demo\"\ndescription = \"\"\"\nlicense = \"foo\"\n\"\"\"\n"
    let twice : Text :=
      "[package]\nname = \"demo\"\ndescription = \"\"\"\nlicense = \"MIT\"\n\"\"\"\n"
    setLicense .permissive manifest = .ok (some once)
      ∧ setLicense .permissive once = .ok (some twice) := by
  decide +kernel

end CrateSync.Manifest
