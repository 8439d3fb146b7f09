/-
# What the edit does to the document

The edit of a manifest looks at its lines.  Where every line that looks like a managed entry is one, and
stands for itself, the document of the edited manifest is that of the manifest with the managed entries of
the package set, and nothing else of it is changed.

* `Opened`, `Staged` : a manifest is carried out up to the header, in the section and behind it;
* `Staged.frame` : with the managed keys left out the edited document is the same;
* `Staged.settles` : in the edited document the desired entries have their values;
* `Staged.accepts` : the edited manifest is a document;
* `exists_editStages` : the stages of a manifest before the edit and after it;
* `edit_keeps_other_entries`, `edit_sets_license` : the same of an edit that succeeds.
-/
import CrateSync.Proofs.Manifest.Spread

namespace CrateSync.Manifest

open Toml (Statement statements enact Draft Entries notSetting Apart)

variable {mode : LicenseMode} {package : Toml.Table} {names : List Text} {r : Reading}

/-! ## The stages of a manifest -/

/-- The document behind the package header, which has a table for the package. -/
structure Opened (r : Reading) (d : Draft) (t : Toml.Table) : Prop where
  enacted : enact (contents r.before ++ [.table [packageName]]) .empty = .ok d
  header : d.header = [packageName]
  table : d.root.get? packageName = some (.table t)
  free : Toml.isClosed d.closed [packageName] = false

theorem package?_eq_some {root : Toml.Table} :
    package? root = some package ↔ root.get? packageName = some (.table package) := by
  unfold package?
  split
  · rename_i found heq
    rw [heq]
    simp
  · rename_i hne
    constructor
    · intro h
      exact absurd h (by simp)
    · intro h
      exact absurd h (hne package)

/-- A header of the package table that is carried out, where there is a table under its name in the end. -/
theorem Opened.of_enact {ss : List Statement} {d e : Draft}
    (hopen : enact (contents r.before ++ [.table [packageName]]) .empty = .ok d)
    (hkeys : ∀ s ∈ ss, s.key ≠ []) (henact : enact ss d = .ok e)
    (hpackage : e.root.get? packageName = some (.table package)) : ∃ t, Opened r d t := by
  obtain ⟨f, -, htable⟩ := Toml.enact_append.mp hopen
  obtain ⟨g, hg, hnil⟩ := Toml.enact_cons.mp htable
  obtain rfl : g = d := Except.ok.inj hnil
  have hplace : (Statement.table [packageName]).place f.header = [packageName] := rfl
  obtain ⟨hfree, root, hroot, rfl⟩ :=
    (Statement.apply_eq_ok (by simp [Statement.key]) hplace).mp hg
  obtain ⟨v, -, rfl⟩ := Toml.Table.update_eq_ok.mp hroot
  have hv : (f.root.put packageName v).get? packageName = some v := f.root.get?_put_self _ v
  obtain ⟨w, hw, hshape⟩ := Toml.enact_root_within hkeys henact packageName v hv
  rw [hpackage, Option.some.injEq] at hw
  obtain ⟨t, rfl⟩ := Toml.Value.exists_table_of_shape (hw ▸ hshape)
  refine ⟨t, hopen, rfl, hv, ?_⟩
  show Toml.isClosed f.closed [packageName] = false
  by_contra hclosed
  rw [Bool.not_eq_false] at hclosed
  rw [Statement.refusal, hclosed, Bool.or_true, if_pos rfl] at hfree
  exact absurd hfree (by simp)

/-- A section that is carried out behind the header, and what stands behind it. -/
structure Staged (r : Reading) (d₀ : Draft) (t₀ : Toml.Table) (ss : List Statement) (d₁ d₂ : Draft) :
    Prop where
  opened : Opened r d₀ t₀
  entries : Entries ss
  after_keys : ∀ s ∈ contents r.after, s.key ≠ []
  inside : enact ss d₀ = .ok d₁
  behind : enact (contents r.after) d₁ = .ok d₂

theorem statements_eq (r : Reading) (ss : List Statement) :
    r.statements ss = contents r.before ++ [.table [packageName]] ++ (ss ++ contents r.after) := by
  simp [Reading.statements]

/-- A manifest with a package table is opened by its header. -/
theorem exists_opened {t : Text} {ss : List Statement} {root : Toml.Table}
    (hread : statements (Text.joinPairs t) = .ok (r.statements ss)) (hparse : Toml.parse t = .ok root)
    (hpackage : root.get? packageName = some (.table package)) : ∃ d t₀, Opened r d t₀ := by
  have hkeys := Toml.statements_key_ne_nil hread
  obtain ⟨e, henact, rfl⟩ := (Toml.parse_eq_ok hread).mp hparse
  rw [statements_eq] at hkeys henact
  obtain ⟨d, hopen, hrest⟩ := Toml.enact_append.mp henact
  obtain ⟨t₀, hopened⟩ :=
    Opened.of_enact hopen (fun s hs => hkeys s (List.mem_append_right _ hs)) hrest hpackage
  exact ⟨d, t₀, hopened⟩

/-- **The document of a manifest** is made by its section and what stands behind it, once its header has
opened the package table. -/
theorem parse_eq_ok_iff_staged {t : Text} {ss : List Statement} {root : Toml.Table} {d₀ : Draft}
    {t₀ : Toml.Table} (hread : statements (Text.joinPairs t) = .ok (r.statements ss))
    (hentries : Entries ss) (hopened : Opened r d₀ t₀) :
    Toml.parse t = .ok root ↔ ∃ d₁ d₂, Staged r d₀ t₀ ss d₁ d₂ ∧ d₂.root = root := by
  have hkeys := Toml.statements_key_ne_nil hread
  rw [Toml.parse_eq_ok hread]
  rw [statements_eq] at hkeys ⊢
  constructor
  · rintro ⟨d₂, henact, rfl⟩
    obtain ⟨d, hopen, hrest⟩ := Toml.enact_append.mp henact
    obtain rfl : d₀ = d := Except.ok.inj (hopened.enacted.symm.trans hopen)
    obtain ⟨d₁, hinside, hbehind⟩ := Toml.enact_append.mp hrest
    exact ⟨d₁, d₂, ⟨hopened, hentries, fun s hs => hkeys s (by simp [hs]), hinside, hbehind⟩, rfl⟩
  · rintro ⟨d₁, d₂, h, rfl⟩
    refine ⟨d₂, Toml.enact_append.mpr ⟨d₀, hopened.enacted, ?_⟩, rfl⟩
    exact Toml.enact_append.mpr ⟨d₁, h.inside, h.behind⟩

/-! ## The edited document -/

theorem Staged.tables {ss : List Statement} {d₀ d₁ d₂ : Draft} {t₀ : Toml.Table}
    (h : Staged r d₀ t₀ ss d₁ d₂) : ∃ t₁ t₂ : Toml.Table, d₁.root.get? packageName = some (.table t₁)
      ∧ d₂.root.get? packageName = some (.table t₂) ∧ t₁.Within t₂ := by
  obtain ⟨t₁, ht₁, -⟩ := Toml.enact_within (fun s hs => (h.entries s hs).2) h.inside h.opened.table
  obtain ⟨t₂, ht₂, hwithin⟩ := Toml.enact_within h.after_keys h.behind ht₁
  exact ⟨t₁, t₂, ht₁, ht₂, hwithin⟩

theorem Staged.header {ss : List Statement} {d₀ d₁ d₂ : Draft} {t₀ : Toml.Table}
    (h : Staged r d₀ t₀ ss d₁ d₂) : d₁.header = [packageName] :=
  (Toml.enact_header h.entries h.inside).trans h.opened.header

/-- Two sections with the same entries at other names look alike without the names. -/
theorem Staged.inside_alike {ss ss' : List Statement} {d₀ d₁ d₂ d₁' : Draft} {t₀ : Toml.Table}
    (h : Staged r d₀ t₀ ss d₁ d₂) (hentries : Entries ss') (hinside : enact ss' d₀ = .ok d₁')
    (hsame : notSetting names ss' = notSetting names ss) :
    d₁.leaveOut packageName names = d₁'.leaveOut packageName names := by
  have hleft : enact (notSetting names ss) (d₀.leaveOut packageName names)
      = .ok (d₁.leaveOut packageName names) :=
    Toml.enact_entries h.entries h.opened.header h.opened.table h.inside
  have hright : enact (notSetting names ss') (d₀.leaveOut packageName names)
      = .ok (d₁'.leaveOut packageName names) :=
    Toml.enact_entries hentries h.opened.header h.opened.table hinside
  rw [hsame, hleft] at hright
  exact Except.ok.inj hright

/-- **Nothing else is changed.**  If two sections have the same entries at other names, their documents
differ at the names in the package table only. -/
theorem Staged.frame {ss ss' : List Statement} {d₀ d₁ d₂ d₁' d₂' : Draft} {t₀ t t' : Toml.Table}
    (h : Staged r d₀ t₀ ss d₁ d₂) (h' : Staged r d₀ t₀ ss' d₁' d₂')
    (hsame : notSetting names ss' = notSetting names ss)
    (ht : d₂.root.get? packageName = some (.table t)) (ht' : d₂'.root.get? packageName = some (.table t')) :
    d₂'.root = d₂.root.put packageName (.table t') ∧ t'.without names = t.without names := by
  obtain ⟨t₁, -, ht₁, -⟩ := h.tables
  obtain ⟨t₁', -, ht₁', -⟩ := h'.tables
  have halike := h.inside_alike h'.entries h'.inside hsame
  have hend := Toml.enact_alike h.after_keys halike (by simp [h.header]) ht₁ ht₁' h.behind h'.behind
  have hroot : d₂.root.leaveOut packageName names = d₂'.root.leaveOut packageName names := by
    injection hend
  exact Toml.Table.eq_put_of_leaveOut hroot ht ht'

/-- What an entry of the section gives is in the document in the end. -/
theorem Staged.value {ss : List Statement} {d₀ d₁ d₂ : Draft} {t₀ t : Toml.Table}
    (h : Staged r d₀ t₀ ss d₁ d₂) (ht : d₂.root.get? packageName = some (.table t)) {name : Text}
    {key : Toml.Key} {value : Toml.Value} (hmem : Statement.entry (name :: key) value ∈ ss) :
    ∃ v, t.get? name = some v ∧ (key = [] → v.shape = value.shape)
      ∧ (key ≠ [] → v.isContainer = true) := by
  obtain ⟨t₁, v, ht₁, hv, hnone, hsome⟩ :=
    Toml.enact_entries_value h.entries h.opened.header h.opened.table h.inside hmem
  obtain ⟨t₂, ht₂, hwithin⟩ := Toml.enact_within h.after_keys h.behind ht₁
  obtain rfl : t₂ = t := by
    rw [ht, Option.some.injEq, Toml.Value.table.injEq] at ht₂
    exact ht₂.symm
  obtain ⟨w, hw, hshape⟩ := hwithin name v hv
  refine ⟨w, hw, ?_, ?_⟩
  · intro hkey
    rw [hshape, hnone hkey]
  · intro hkey
    rw [Toml.Value.isContainer_of_shape hshape, hsome hkey]

theorem Setting.isContainer_of_agrees {s : Setting} {v : Toml.Value} (h : s.agrees v = true) :
    v.isContainer = false := by
  cases v with
  | array items => cases s <;> exact absurd h (by simp [agrees, Toml.Value.isString, Toml.Value.isFalse])
  | table t => cases s <;> exact absurd h (by simp [agrees, Toml.Value.isString, Toml.Value.isFalse])
  | _ => rfl

/-- A value that a setting agrees with is its value, if what counts as false is false. -/
theorem Setting.eq_value_of_agrees {s : Setting} {v : Toml.Value} (h : s.agrees v = true)
    (hfalse : s = .off → v.isFalse = true → v = .boolean false) : v = s.value := by
  cases s with
  | off => exact hfalse rfl h
  | text t =>
    cases v with
    | string u => exact congrArg Toml.Value.string (by simpa [agrees, Toml.Value.isString] using h)
    | _ => exact absurd h (by simp [agrees, Toml.Value.isString])

theorem Setting.isContainer_value (s : Setting) : s.value.isContainer = false := by
  cases s <;> rfl

/-- An entry of a key that the package agrees on gives this very value, under the key alone. -/
theorem Staged.agreed {ss : List Statement} {d₀ d₁ d₂ : Draft} {t₀ : Toml.Table}
    (h : Staged r d₀ t₀ ss d₁ d₂) (ht : d₂.root.get? packageName = some (.table package)) {name : Text}
    {key : Toml.Key} {value : Toml.Value} {s : Setting}
    (hmem : Statement.entry (name :: key) value ∈ ss) (hagrees : Agrees package name s) :
    key = [] ∧ package.get? name = some value ∧ s.agrees value = true := by
  obtain ⟨v, hv, hnone, hsome⟩ := h.value ht hmem
  rw [Agrees, hv] at hagrees
  have hleaf : v.isContainer = false := Setting.isContainer_of_agrees hagrees
  have hkey : key = [] := by
    by_contra hne
    rw [hsome hne] at hleaf
    exact absurd hleaf (by simp)
  have hvalue : value = v := Toml.Value.eq_of_shape (hnone hkey).symm hleaf
  subst hvalue
  exact ⟨hkey, hv, hagrees⟩

theorem Setting.agrees_value (s : Setting) : s.agrees s.value = true := by
  cases s with
  | text t => exact beq_self_eq_true t
  | off => rfl

/-- **The package of the edited document agrees with every desired entry**: it has the value of the entry,
or the value that it had before. -/
theorem Staged.agrees {ss ss' : List Statement} {d₀ d₁ d₂ d₁' d₂' : Draft} {t₀ t' : Toml.Table}
    (h : Staged r d₀ t₀ ss d₁ d₂) (h' : Staged r d₀ t₀ ss' d₁' d₂')
    (hnew : Rewritten mode package names ss ss')
    (ht : d₂.root.get? packageName = some (.table package))
    (ht' : d₂'.root.get? packageName = some (.table t')) :
    ∀ entry ∈ desired mode, ∃ v, t'.get? entry.1 = some v ∧ entry.2.agrees v = true
      ∧ (v = entry.2.value ∨ Statement.entry [entry.1] v ∈ ss ∧ package.get? entry.1 = some v) := by
  intro entry hentry
  obtain ⟨s, hs, rfl | ⟨key, value, rfl, hold, hagrees⟩⟩ := hnew.all entry hentry
  · obtain ⟨v, hv, hnone, -⟩ := h'.value ht' hs
    obtain rfl := Toml.Value.eq_of_shape (hnone rfl) entry.2.isContainer_value
    exact ⟨_, hv, entry.2.agrees_value, Or.inl rfl⟩
  · -- the line stays, and its value is the one that the package agreed on
    obtain ⟨rfl, hvalue, hagree⟩ := h.agreed ht hold hagrees
    obtain ⟨v, hv, hnone, -⟩ := h'.value ht' hs
    obtain rfl := Toml.Value.eq_of_shape (hnone rfl) (Setting.isContainer_of_agrees hagree)
    exact ⟨_, hv, hagree, Or.inr ⟨hold, hvalue⟩⟩

/-- **The desired entries have their values in the edited document**, if what the package agrees on is
exactly the value. -/
theorem Staged.settles {ss ss' : List Statement} {d₀ d₁ d₂ d₁' d₂' : Draft} {t₀ t' : Toml.Table}
    (h : Staged r d₀ t₀ ss d₁ d₂) (h' : Staged r d₀ t₀ ss' d₁' d₂')
    (hnew : Rewritten mode package names ss ss')
    (ht : d₂.root.get? packageName = some (.table package))
    (ht' : d₂'.root.get? packageName = some (.table t'))
    (hexact : ∀ entry ∈ desired mode, ∀ value, Statement.entry [entry.1] value ∈ ss →
      package.get? entry.1 = some value → entry.2.agrees value = true → value = entry.2.value) :
    ∀ entry ∈ desired mode, t'.get? entry.1 = some entry.2.value := by
  intro entry hentry
  obtain ⟨v, hv, hagrees, rfl | ⟨hold, hvalue⟩⟩ := h.agrees h' hnew ht ht' entry hentry
  · exact hv
  · rw [hv, hexact entry hentry v hold hvalue hagrees]

/-- Before the header nothing is given of the names if the statements are about other things. -/
theorem Opened.clear {d : Draft} {t : Toml.Table} (h : Opened r d t)
    (hkeys : ∀ s ∈ contents r.before, s.key ≠ []) (hbefore : Apart packageName names [] (contents r.before)) :
    d.leaveOut packageName names = d := by
  obtain ⟨e, he, htable⟩ := Toml.enact_append.mp h.enacted
  have hclear : e.leaveOut packageName names = e := Toml.enact_clear hkeys hbefore rfl he
  have happart : Apart packageName names e.header [.table [packageName]] := by
    refine ⟨⟨rfl, ?_⟩, trivial⟩
    rintro key value heq
    exact absurd heq (by simp)
  exact Toml.enact_clear (by simp [Statement.key]) happart hclear htable

/-- **A key is not in the document** if nothing gives it. -/
theorem Staged.unset {ss : List Statement} {d₀ d₁ d₂ : Draft} {t₀ t : Toml.Table}
    (h : Staged r d₀ t₀ ss d₁ d₂) (hkeys : ∀ s ∈ contents r.before, s.key ≠ [])
    (hbefore : Apart packageName names [] (contents r.before))
    (hafter : Apart packageName names [packageName] (contents r.after))
    (hsection : ∀ s ∈ ss, s.sets names = false)
    (ht : d₂.root.get? packageName = some (.table t)) : ∀ key ∈ names, t.get? key = none := by
  intro key hkey
  have hclear₀ : d₀.leaveOut packageName names = d₀ := h.opened.clear hkeys hbefore
  have hclear₁ : d₁.leaveOut packageName names = d₁ := by
    refine Toml.enact_clear (fun s hs => (h.entries s hs).2) ?_ hclear₀ h.inside
    rw [h.opened.header]
    exact h.entries.apart hsection
  have hclear₂ : d₂.leaveOut packageName names = d₂ := by
    refine Toml.enact_clear h.after_keys ?_ hclear₁ h.behind
    rw [h.header]
    exact hafter
  exact Draft.get?_eq_none hclear₂ ht hkey

theorem nodup_of_setKeys {ss : List Statement} (hss : Entries ss) (h : (setKeys mode ss).Nodup) :
    ((ss.filter (Statement.sets (managed mode))).map Statement.key).Nodup := by
  have hheads : setKeys mode ss
      = ((ss.filter (Statement.sets (managed mode))).map Statement.key).map fun key => key.headD [] := by
    rw [setKeys, List.map_map, ← List.filterMap_eq_map]
    apply List.filterMap_congr
    intro s hs
    obtain ⟨name, key, hkey⟩ :=
      List.exists_cons_of_ne_nil (hss s (List.mem_of_mem_filter hs)).2
    simp [hkey]
  rw [hheads] at h
  exact h.of_map

/-- **The edited section is carried out**, if nothing but its managed lines is about the managed keys. -/
theorem Staged.accepts {ss ss' : List Statement} {d₀ d₁ d₂ : Draft} {t₀ : Toml.Table}
    (h : Staged r d₀ t₀ ss d₁ d₂) (hnew : Rewritten mode package (managed mode) ss ss')
    (ht : d₂.root.get? packageName = some (.table package)) (hkeys : ∀ s ∈ contents r.before, s.key ≠ [])
    (hbefore : Apart packageName (managed mode) [] (contents r.before))
    (hafter : Apart packageName (managed mode) [packageName] (contents r.after)) :
    ∃ d₁' d₂', Staged r d₀ t₀ ss' d₁' d₂' := by
  have hone : ∀ s ∈ ss', s.sets (managed mode) = true → ∃ name value, s = .entry [name] value := by
    intro s hs hsets
    rcases hnew.right s hs with hother | ⟨entry, -, rfl | ⟨key, value, rfl, hold, hagrees⟩⟩
    · rw [hother] at hsets
      exact absurd hsets (by simp)
    · exact ⟨entry.1, entry.2.value, rfl⟩
    · obtain ⟨rfl, -⟩ := h.agreed ht hold hagrees
      exact ⟨entry.1, value, rfl⟩
  -- none of the managed keys is there when the section begins
  have hclear : d₀.leaveOut packageName (managed mode) = d₀ := h.opened.clear hkeys hbefore
  have hfree : ∀ s ∈ ss', s.sets (managed mode) = true → ∀ name, s.key = [name] →
      t₀.get? name = none := by
    intro s hs hsets name hname
    refine Draft.get?_eq_none hclear h.opened.table ?_
    rw [Statement.sets, hname] at hsets
    simpa using hsets
  have hothers : enact (notSetting (managed mode) ss') (d₀.leaveOut packageName (managed mode))
      = .ok (d₁.leaveOut packageName (managed mode)) := by
    rw [hnew.others]
    exact Toml.enact_entries h.entries h.opened.header h.opened.table h.inside
  obtain ⟨d₁', hinside⟩ := Toml.enact_entries_ok hnew.entries hone
    (nodup_of_setKeys hnew.entries (hnew.once fun key hkey => hkey)) h.opened.header h.opened.free
    h.opened.table hfree hothers
  have halike := h.inside_alike hnew.entries hinside hnew.others
  obtain ⟨d₂', hbehind⟩ := Toml.enact_apart h.after_keys (h.header ▸ hafter) halike h.behind
  exact ⟨d₁', d₂', h.opened, hnew.entries, h.after_keys, hinside, hbehind⟩

/-- What is right for a desired entry sets no stale key. -/
theorem SaysRight.sets_stale {ss : List Statement} {entry : Text × Setting} {s : Statement}
    (h : SaysRight package ss entry s) (hentry : entry ∈ desired mode) :
    s.sets (stale mode) = false := by
  have hkey : entry.1 ∉ stale mode := by
    cases mode with
    | permissive =>
      obtain rfl := List.mem_singleton.mp hentry
      decide
    | proprietary =>
      rcases List.mem_cons.mp hentry with rfl | hentry
      · decide
      · obtain rfl := List.mem_singleton.mp hentry
        decide
  obtain rfl | ⟨key, value, rfl, -⟩ := h
  · simpa [Statement.sets, Statement.key] using hkey
  · simpa [Statement.sets, Statement.key] using hkey

/-- The edited section sets no stale key. -/
theorem Rewritten.sets_stale {ss ss' : List Statement} (h : Rewritten mode package names ss ss')
    (hnames : ∀ key ∈ stale mode, key ∈ names) : ∀ s ∈ ss', s.sets (stale mode) = false := by
  intro s hs
  rcases h.right s hs with hother | ⟨entry, hentry, hright⟩
  · exact sets_of_subset hnames hother
  · exact hright.sets_stale hentry

/-! ## The edit of a manifest -/

/-- The text that an edit results in. -/
theorem editedText_eq_getD {manifest : Text} {result : Option Text} {l : Layout}
    (h : editedText mode package l = manifest ∧ result = none
      ∨ editedText mode package l ≠ manifest ∧ result = some (editedText mode package l)
        ∧ ∃ root', Toml.parse (editedText mode package l) = .ok root') :
    editedText mode package l = result.getD manifest := by
  rcases h with ⟨hsame, rfl⟩ | ⟨-, rfl, -⟩
  · exact hsame
  · rfl

/-- An edit of a manifest that is read block by block: its document and that of the resulting text are made
in stages from the same beginning. -/
structure EditStages (mode : LicenseMode) (names : List Text) (r : Reading) (manifest : Text)
    (result : Option Text) (package : Toml.Table) (ss : List Statement) (d₀ d₁ d₂ d₁' d₂' : Draft)
    (t₀ : Toml.Table) : Prop where
  parsed : Toml.parse manifest = .ok d₂.root
  found : package? d₂.root = some package
  old : Staged r d₀ t₀ (contents r.body) d₁ d₂
  rewritten : Rewritten mode package names (contents r.body) ss
  new : Staged r d₀ t₀ ss d₁' d₂'
  reparsed : Toml.parse (result.getD manifest) = .ok d₂'.root
  before_keys : ∀ s ∈ contents r.before, s.key ≠ []

theorem exists_editStages {manifest : Text} {result : Option Text}
    (h : setLicense mode manifest = .ok result) {l : Layout}
    (hl : Layout.ofLines? (Text.lines manifest) = some l) (hread : l.ReadAs mode names r) :
    ∃ package ss d₀ d₁ d₂ d₁' d₂' t₀,
      EditStages mode names r manifest result package ss d₀ d₁ d₂ d₁' d₂' t₀ := by
  obtain ⟨root, package, l', hparse, hpackage, hl', hresult⟩ := setLicense_eq_ok.mp h
  obtain rfl : l = l' := Option.some.inj (hl.symm.trans hl')
  have hmanifest : l.lines.flatten = manifest := by
    rw [l.lines_ofLines hl, Text.flatten_lines]
  have hold := hread.statements
  rw [hmanifest] at hold
  obtain ⟨ss, hrewritten, hnew⟩ := hread.edited package
  have hreparse : ∃ root', Toml.parse (editedText mode package l) = .ok root' := by
    rcases hresult with ⟨hsame, -⟩ | ⟨-, -, hparsed⟩
    · exact ⟨root, by rw [hsame, hparse]⟩
    · exact hparsed
  rw [editedText_eq_getD hresult] at hnew hreparse
  obtain ⟨root', hreparse⟩ := hreparse
  have hkeys := Toml.statements_key_ne_nil hold
  obtain ⟨d₀, t₀, hopened⟩ := exists_opened hold hparse (package?_eq_some.mp hpackage)
  have hentries : Entries (contents r.body) :=
    entries_flatMap fun b hb => (hread.body b hb).entries
  obtain ⟨d₁, d₂, hstaged, rfl⟩ := (parse_eq_ok_iff_staged hold hentries hopened).mp hparse
  obtain ⟨d₁', d₂', hstaged', rfl⟩ :=
    (parse_eq_ok_iff_staged hnew hrewritten.entries hopened).mp hreparse
  exact ⟨package, ss, d₀, d₁, d₂, d₁', d₂', t₀, hparse, hpackage, hstaged, hrewritten, hstaged', hreparse,
    fun s hs => hkeys s (by simp [Reading.statements, hs])⟩

/-! ## A manifest with a list of authors -/

/-- A text that is a document whose package table passes a test. -/
theorem exists_package {t : Text} {test : Toml.Table → Bool}
    (h : ((Toml.parse t).toOption.bind package?).any test = true) :
    ∃ root package : Toml.Table, Toml.parse t = .ok root ∧ package? root = some package
      ∧ test package = true := by
  cases hparse : Toml.parse t with
  | error e =>
    rw [hparse] at h
    exact absurd h (by simp [Except.toOption])
  | ok root =>
    rw [hparse] at h
    obtain ⟨package, hpackage, htest⟩ := (Option.any_eq_true _ _).mp h
    exact ⟨root, package, rfl, hpackage, htest⟩

theorem eq_string_of_isString {o : Option Toml.Value} {t : Text}
    (h : o.any (Toml.Value.isString t) = true) : o = some (.string t) := by
  cases o with
  | none => exact absurd h (by simp)
  | some v =>
    cases v with
    | string u => simpa [Toml.Value.isString] using h
    | _ => exact absurd h (by simp [Toml.Value.isString])

/-- The lines of a manifest with a list of authors over several lines. -/
def listedAuthors : Layout where
  before := []
  header := "[package]\n".toList
  body := ["license = \"MIT\"\n".toList, "authors = [\n".toList, "  \"A\",\n".toList, "]\n".toList,
    "\n".toList]
  after := ["[lib]\n".toList]

/-- What the lines of the manifest say. -/
def listedAuthorsReading : Reading where
  before := []
  body :=
    [⟨["license = \"MIT\"\n".toList], [.entry ["license".toList] (.string "MIT".toList)]⟩,
      ⟨["authors = [\n".toList, "  \"A\",\n".toList, "]\n".toList],
        [.entry ["authors".toList] (.array [.string "A".toList])]⟩,
      ⟨["\n".toList], []⟩]
  after := [⟨["[lib]\n".toList], [.table ["lib".toList]]⟩]

theorem listedAuthors_readAs :
    listedAuthors.ReadAs .proprietary (managed .proprietary) listedAuthorsReading where
  before_lines := rfl
  before := by
    intro b hb
    exact absurd hb List.not_mem_nil
  header := ⟨by decide, by cbv⟩
  body_lines := rfl
  body := by
    intro b hb
    rcases List.mem_cons.mp hb with rfl | hb
    · exact .managed _ "license" [] _ (by decide) ⟨by decide, by cbv⟩
    rcases List.mem_cons.mp hb with rfl | hb
    · refine .other ["authors = [\n".toList, "  \"A\",\n".toList] "]\n".toList _ (by decide)
        (Or.inr (by decide)) ⟨by decide, by cbv⟩ ?_ ?_
      · intro s hs
        rw [List.mem_singleton.mp hs]
        exact ⟨rfl, by decide⟩
      · intro s hs
        rw [List.mem_singleton.mp hs]
        decide
    · rw [List.mem_singleton.mp hb]
      refine .other [] _ _ (by decide) (Or.inl rfl) ⟨by decide, by cbv⟩ ?_ ?_
      · intro s hs
        exact absurd hs List.not_mem_nil
      · intro s hs
        exact absurd hs List.not_mem_nil
  after_lines := rfl
  after := by
    intro b hb
    rw [List.mem_singleton.mp hb]
    exact ⟨by decide, by cbv⟩
  separate := by decide

/-- The text that the edit makes of the manifest with a list of authors. -/
def listedAuthorsEdited : Text :=
  "[package]\nauthors = [\n  \"A\",\n]\nlicense-file = \"LICENSE\"\npublish = false\n\n[lib]\n"

theorem listedAuthors_edit :
    setLicense .proprietary listedAuthors.lines.flatten = .ok (some listedAuthorsEdited)
      ∧ Layout.ofLines? (Text.lines listedAuthors.lines.flatten) = some listedAuthors := by
  decide +kernel

/-! ## What the edit keeps and sets -/

/-- **The edit keeps the other entries.**  If every line of the package section that looks like a managed
entry is one, the document of the edited manifest is that of the manifest with another package table, which
has the same entries in the same order at all keys that are not managed. -/
theorem edit_keeps_other_entries {manifest updated : Text}
    (h : setLicense mode manifest = .ok (some updated)) {l : Layout}
    (hl : Layout.ofLines? (Text.lines manifest) = some l) (hread : l.ReadAs mode [] r) :
    ∃ root package package' : Toml.Table, Toml.parse manifest = .ok root ∧ package? root = some package
      ∧ Toml.parse updated = .ok (root.put packageName (.table package'))
      ∧ package'.without (managed mode) = package.without (managed mode) := by
  obtain ⟨package, ss, d₀, d₁, d₂, d₁', d₂', t₀, hstages⟩ := exists_editStages h hl hread
  obtain ⟨-, package', -, ht', -⟩ := hstages.new.tables
  obtain ⟨hroot, hsame⟩ := hstages.old.frame hstages.new hstages.rewritten.others
    (package?_eq_some.mp hstages.found) ht'
  refine ⟨d₂.root, package, package', hstages.parsed, hstages.found, ?_, hsame⟩
  rw [← hroot]
  exact hstages.reparsed

/-- A list of authors over several lines is kept. -/
theorem edit_keeps_listed_authors :
    setLicense .proprietary listedAuthors.lines.flatten = .ok (some listedAuthorsEdited)
      ∧ Layout.ofLines? (Text.lines listedAuthors.lines.flatten) = some listedAuthors
      ∧ listedAuthors.ReadAs .proprietary [] listedAuthorsReading
      ∧ ∃ root package package' : Toml.Table, Toml.parse listedAuthors.lines.flatten = .ok root
        ∧ package? root = some package
        ∧ Toml.parse listedAuthorsEdited = .ok (root.put packageName (.table package'))
        ∧ package'.without (managed .proprietary) = package.without (managed .proprietary) := by
  obtain ⟨h, hl⟩ := listedAuthors_edit
  have hread : listedAuthors.ReadAs .proprietary [] listedAuthorsReading :=
    listedAuthors_readAs.mono (by simp)
  exact ⟨h, hl, hread, edit_keeps_other_entries h hl hread⟩

/-- A line of a text over several lines looks like a license, and the edit changes the text. -/
theorem edit_reaches_into_description :
    let manifest : Text := "[package]\nname = \"demo\"\ndescription = \"\"\"\nlicense = \"x\"\n\"\"\"\n"
    let updated : Text :=
      "[package]\nname = \"demo\"\ndescription = \"\"\"\nlicense = \"MIT\"\n\"\"\"\n"
    setLicense .permissive manifest = .ok (some updated)
      ∧ (∃ root package : Toml.Table, Toml.parse manifest = .ok root ∧ package? root = some package
        ∧ package.get? "description" = some (.string "license = \"x\"\n"))
      ∧ ∃ root package : Toml.Table, Toml.parse updated = .ok root ∧ package? root = some package
        ∧ package.get? "description" = some (.string "license = \"MIT\"\n") := by
  intro manifest updated
  have hedit : setLicense .permissive manifest = .ok (some updated) := by decide +kernel
  have hold : ((Toml.parse manifest).toOption.bind package?).any
      (fun package => (package.get? "description").any (Toml.Value.isString "license = \"x\"\n"))
        = true := by
    decide +kernel
  have hnew : ((Toml.parse updated).toOption.bind package?).any
      (fun package => (package.get? "description").any (Toml.Value.isString "license = \"MIT\"\n"))
        = true := by
    decide +kernel
  obtain ⟨root, package, hparse, hpackage, htest⟩ := exists_package hold
  obtain ⟨root', package', hparse', hpackage', htest'⟩ := exists_package hnew
  exact ⟨hedit, ⟨root, package, hparse, hpackage, eq_string_of_isString htest⟩,
    ⟨root', package', hparse', hpackage', eq_string_of_isString htest'⟩⟩

/-- **The edit sets the license.**  If every line of the package section that looks like a managed entry is
one, nothing else is about the stale keys, and the manifest writes a value that counts as false as false,
the package table of the resulting text has every desired entry with its value and no stale key. -/
theorem edit_sets_license {manifest : Text} {result : Option Text}
    (h : setLicense mode manifest = .ok result) {l : Layout}
    (hl : Layout.ofLines? (Text.lines manifest) = some l) (hread : l.ReadAs mode (stale mode) r)
    (hbefore : Apart packageName (stale mode) [] (contents r.before))
    (hafter : Apart packageName (stale mode) [packageName] (contents r.after))
    (hexact : ∀ key value, Statement.entry [key] value ∈ contents r.body → (key, .off) ∈ desired mode →
      value.isFalse = true → value = .boolean false) :
    ∃ root package : Toml.Table, Toml.parse (result.getD manifest) = .ok root
      ∧ package? root = some package
      ∧ (∀ entry ∈ desired mode, package.get? entry.1 = some entry.2.value)
      ∧ ∀ key ∈ stale mode, package.get? key = none := by
  obtain ⟨package, ss, d₀, d₁, d₂, d₁', d₂', t₀, hstages⟩ := exists_editStages h hl hread
  obtain ⟨-, package', -, ht', -⟩ := hstages.new.tables
  have hset : ∀ entry ∈ desired mode, package'.get? entry.1 = some entry.2.value := by
    refine hstages.old.settles hstages.new hstages.rewritten (package?_eq_some.mp hstages.found) ht' ?_
    intro entry hentry value hmem _ hagrees
    exact Setting.eq_value_of_agrees hagrees fun hoff hfalse =>
      hexact entry.1 value hmem (hoff ▸ hentry) hfalse
  have hunset : ∀ key ∈ stale mode, package'.get? key = none :=
    hstages.new.unset hstages.before_keys hbefore hafter
      (hstages.rewritten.sets_stale fun key hkey => hkey) ht'
  exact ⟨d₂'.root, package', hstages.reparsed, package?_eq_some.mpr ht', hset, hunset⟩

/-- The license of a package with a list of authors is set. -/
theorem edit_sets_license_beside_authors :
    setLicense .proprietary listedAuthors.lines.flatten = .ok (some listedAuthorsEdited)
      ∧ Layout.ofLines? (Text.lines listedAuthors.lines.flatten) = some listedAuthors
      ∧ listedAuthors.ReadAs .proprietary (stale .proprietary) listedAuthorsReading
      ∧ ∃ root package : Toml.Table, Toml.parse listedAuthorsEdited = .ok root
        ∧ package? root = some package
        ∧ (∀ entry ∈ desired .proprietary, package.get? entry.1 = some entry.2.value)
        ∧ ∀ key ∈ stale .proprietary, package.get? key = none := by
  obtain ⟨h, hl⟩ := listedAuthors_edit
  have hread : listedAuthors.ReadAs .proprietary (stale .proprietary) listedAuthorsReading :=
    listedAuthors_readAs.mono (by decide)
  have hafter : Apart packageName (stale .proprietary) [packageName]
      (contents listedAuthorsReading.after) := by
    rw [show contents listedAuthorsReading.after = [.table ["lib".toList]] from rfl]
    refine ⟨⟨by decide, ?_⟩, trivial⟩
    rintro key value heq
    exact absurd heq (by simp)
  have hexact : ∀ key value, Statement.entry [key] value ∈ contents listedAuthorsReading.body →
      (key, .off) ∈ desired .proprietary → value.isFalse = true → value = .boolean false := by
    intro key value hmem _ hfalse
    simp [contents, listedAuthorsReading] at hmem
    rcases hmem with ⟨-, rfl⟩ | ⟨-, rfl⟩
    · exact absurd hfalse (by simp [Toml.Value.isFalse])
    · exact absurd hfalse (by simp [Toml.Value.isFalse])
  have hset := edit_sets_license h hl hread trivial hafter hexact
  rw [Option.getD_some] at hset
  exact ⟨h, hl, hread, hset⟩

/-- A line of a text over several lines is taken for the license, and none is set. -/
theorem edit_takes_description_for_license :
    let manifest : Text := "[package]\nname = \"demo\"\ndescription = \"\"\"\nlicense = \"x\"\n\"\"\"\n"
    ∃ updated, setLicense .permissive manifest = .ok (some updated)
      ∧ ∃ root package : Toml.Table, Toml.parse updated = .ok root ∧ package? root = some package
        ∧ package.get? "license" = none := by
  intro manifest
  let updated : Text :=
    "[package]\nname = \"demo\"\ndescription = \"\"\"\nlicense = \"MIT\"\n\"\"\"\n"
  have hedit : setLicense .permissive manifest = .ok (some updated) := by decide +kernel
  have hnew : ((Toml.parse updated).toOption.bind package?).any
      (fun package => (package.get? "license").isNone) = true := by
    decide +kernel
  obtain ⟨root, package, hparse, hpackage, htest⟩ := exists_package hnew
  exact ⟨updated, hedit, root, package, hparse, hpackage, Option.isNone_iff_eq_none.mp htest⟩

/-- A number that counts as false stays where false is desired. -/
example : setLicense .proprietary "[package]\nlicense-file = \"LICENSE\"\npublish = 0\n" = .ok none := by
  decide +kernel

end CrateSync.Manifest
