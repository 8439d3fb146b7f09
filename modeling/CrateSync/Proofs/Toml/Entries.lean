/-
# Entries of one table

A run of entries below the header of a table, and what becomes of the document if some of the entries are
others.

* `enact_entries` : without some names, the entries at other names are what counts;
* `enact_entries_ok` : entries at names that are not there yet may be put anywhere;
* `enact_entries_value` : what an entry gives in the end.
-/
import CrateSync.Proofs.Toml.LeaveOut

namespace CrateSync.Toml

/-- Whether a statement is an entry. -/
def Statement.isEntry : Statement → Bool
  | entry _ _ => true
  | _ => false

/-- Whether the key of a statement begins with one of some names. -/
def Statement.sets (names : List Text) (s : Statement) : Bool :=
  match s.key with
  | name :: _ => names.contains name
  | [] => false

/-- The statements whose keys begin with none of some names. -/
def notSetting (names : List Text) (ss : List Statement) : List Statement :=
  ss.filter fun s => !s.sets names

section

variable {owner : Text} {names : List Text}

theorem Statement.hidden_place {s : Statement} (h : s.isEntry = true) :
    hidden owner names (s.place [owner]) = s.sets names := by
  cases s with
  | entry key value =>
    cases key with
    | nil => rfl
    | cons name key => simp [place, hidden, sets, Statement.key]
  | table key => exact absurd h (by simp [isEntry])
  | array key => exact absurd h (by simp [isEntry])

theorem Statement.nextHeader_of_isEntry {s : Statement} (h : s.isEntry = true) (header : Key) :
    s.nextHeader header = header := by
  cases s with
  | entry key value => rfl
  | table key => exact absurd h (by simp [isEntry])
  | array key => exact absurd h (by simp [isEntry])

theorem Statement.passBy_of_isEntry {s : Statement} (h : s.isEntry = true) (d : Draft) :
    s.passBy d = d := by
  cases s with
  | entry key value => rfl
  | table key => exact absurd h (by simp [isEntry])
  | array key => exact absurd h (by simp [isEntry])

/-- Statements that are entries with a key. -/
def Entries (ss : List Statement) : Prop :=
  ∀ s ∈ ss, s.isEntry = true ∧ s.key ≠ []

theorem Entries.tail {s : Statement} {ss : List Statement} (h : Entries (s :: ss)) : Entries ss :=
  fun s hs => h s (List.mem_cons_of_mem _ hs)

theorem enact_header {ss : List Statement} (hss : Entries ss) {d e : Draft} (h : enact ss d = .ok e) :
    e.header = d.header := by
  induction ss generalizing d with
  | nil => rw [← Except.ok.inj h]
  | cons s ss ih =>
    obtain ⟨f, hs, hrest⟩ := enact_cons.mp h
    obtain ⟨hentry, hkey⟩ := hss s (by simp)
    rw [ih hss.tail hrest, Statement.apply_header hkey hs, Statement.nextHeader_of_isEntry hentry]

/-- Entries of the table at other names are statements elsewhere. -/
theorem Entries.apart {ss : List Statement} (hss : Entries ss)
    (hnames : ∀ s ∈ ss, s.sets names = false) : Apart owner names [owner] ss := by
  induction ss with
  | nil => exact trivial
  | cons s ss ih =>
    obtain ⟨hentry, hkey⟩ := hss s (by simp)
    refine ⟨⟨by rw [Statement.hidden_place hentry, hnames s (by simp)], ?_⟩, ?_⟩
    · rintro key value rfl hplace
      exact absurd (List.append_cancel_left (hplace.trans (List.append_nil [owner]).symm)) hkey
    · rw [Statement.nextHeader_of_isEntry hentry]
      exact ih hss.tail fun s hs => hnames s (List.mem_cons_of_mem _ hs)

/-- **Without some names the other entries are what counts.** -/
theorem enact_entries {ss : List Statement} (hss : Entries ss) {d e : Draft} (hheader : d.header = [owner])
    {t : Table} (ht : d.root.get? owner = some (.table t)) (h : enact ss d = .ok e) :
    enact (notSetting names ss) (d.leaveOut owner names) = .ok (e.leaveOut owner names) := by
  induction ss generalizing d t with
  | nil => rw [← Except.ok.inj h]; rfl
  | cons s ss ih =>
    obtain ⟨f, hs, hrest⟩ := enact_cons.mp h
    obtain ⟨hentry, hkey⟩ := hss s (by simp)
    obtain ⟨t', ht', -⟩ := apply_within hkey hs ht
    have hheader' : f.header = [owner] := by
      rw [Statement.apply_header hkey hs, Statement.nextHeader_of_isEntry hentry, hheader]
    have hnext := ih hss.tail hheader' ht' hrest
    have hplace : hidden owner names (s.place d.header) = s.sets names := by
      rw [hheader, Statement.hidden_place hentry]
    by_cases hsets : s.sets names = true
    · -- the entry is left out
      have hsame : f.leaveOut owner names = d.leaveOut owner names := by
        rw [Statement.leaveOut_of_hidden hkey (by simp [hheader]) ht (hplace.trans hsets) hs,
          Statement.passBy_of_isEntry hentry]
      rw [notSetting, List.filter_cons_of_neg (by simp [hsets]), ← hsame]
      exact hnext
    · rw [Bool.not_eq_true] at hsets
      have happly : s.apply (d.leaveOut owner names) = .ok (f.leaveOut owner names) := by
        rw [Statement.apply_leaveOut hkey (hplace.trans hsets) (.inl (by rw [ht]; rfl)), hs]
        rfl
      rw [notSetting, List.filter_cons_of_pos (by simp [hsets])]
      exact enact_cons.mpr ⟨_, happly, hnext⟩

/-! ## Entries at new names -/

/-- An entry of a table gives nothing at other names. -/
theorem apply_entry_other {s : Statement} (hentry : s.isEntry = true) {d e : Draft} {name : Text}
    {key : Key} (hkey : s.key = name :: key) (hheader : d.header = [owner]) (h : s.apply d = .ok e)
    {t : Table} (ht : d.root.get? owner = some (.table t)) :
    ∃ t' : Table, e.root.get? owner = some (.table t') ∧
      ∀ other, other ≠ name → t'.get? other = t.get? other := by
  cases s with
  | table key => exact absurd hentry (by simp [Statement.isEntry])
  | array key => exact absurd hentry (by simp [Statement.isEntry])
  | entry k value =>
    obtain rfl : k = name :: key := hkey
    have hplace : (Statement.entry (name :: key) value).place d.header = owner :: name :: key := by
      rw [Statement.place, hheader]
      rfl
    obtain ⟨-, root, hroot, rfl⟩ := (Statement.apply_eq_ok (by simp [Statement.key]) hplace).mp h
    obtain ⟨w, hw, rfl⟩ := Table.update_eq_ok.mp hroot
    rw [ht] at hw
    obtain ⟨t', ht', rfl⟩ := map_eq_ok.mp hw
    exact ⟨t', by rw [Statement.outcome_root, Table.get?_put_self], fun other hne =>
      Table.update_get?_ne ht' hne⟩

/-- Below the header of a table its key is not closed by its entries. -/
theorem apply_entry_open {s : Statement} (hentry : s.isEntry = true) (hkey : s.key ≠ []) {d e : Draft}
    (hheader : d.header = [owner]) (hopen : isClosed d.closed [owner] = false)
    (h : s.apply d = .ok e) : isClosed e.closed [owner] = false := by
  cases s with
  | table key => exact absurd hentry (by simp [Statement.isEntry])
  | array key => exact absurd hentry (by simp [Statement.isEntry])
  | entry key value =>
    obtain ⟨name, rest, rfl⟩ := List.exists_cons_of_ne_nil hkey
    have hplace : (Statement.entry (name :: rest) value).place d.header = owner :: name :: rest := by
      rw [Statement.place, hheader]
      rfl
    obtain ⟨-, root, -, rfl⟩ := (Statement.apply_eq_ok hkey hplace).mp h
    unfold isClosed at hopen ⊢
    simp only [Statement.outcome, hheader]
    split_ifs
    · simp [hopen, List.isPrefixOf]
    · exact hopen

/-- An entry may be put at a name that is not there yet. -/
theorem apply_new {name : Text} {value : Value} {d : Draft} (hheader : d.header = [owner])
    (hopen : isClosed d.closed [owner] = false) {t : Table}
    (ht : d.root.get? owner = some (.table t)) (hnew : t.get? name = none) :
    ∃ e, (Statement.entry [name] value).apply d = .ok e := by
  have hplace : (Statement.entry [name] value).place d.header = [owner, name] := by
    rw [Statement.place, hheader]
    rfl
  have hupdate : d.root.update owner (descend (Statement.entry [name] value).act [name])
      = .ok (d.root.put owner (.table (t.put name value))) := by
    unfold Table.update
    rw [ht]
    show ((t.update name (enter value .overwritesValue)).map Value.table).map (d.root.put owner) = _
    unfold Table.update
    rw [hnew]
    rfl
  refine ⟨_, (Statement.apply_eq_ok (by simp [Statement.key]) hplace).mpr ⟨?_, _, hupdate, rfl⟩⟩
  simp [Statement.refusal, Statement.passed, properBeginnings, hheader, hopen]

/-- A first entry is carried out if it is at a new name or is carried out without some names, and the others
stay without these. -/
theorem apply_of_leaveOut {s : Statement} {ss : List Statement} (hentry : s.isEntry = true)
    (hkey : s.key ≠ []) (hone : s.sets names = true → ∃ name value, s = .entry [name] value) {d f : Draft}
    (hheader : d.header = [owner]) (hopen : isClosed d.closed [owner] = false) {t : Table}
    (ht : d.root.get? owner = some (.table t))
    (hnew : s.sets names = true → ∀ name, s.key = [name] → t.get? name = none)
    (h : enact (notSetting names (s :: ss)) (d.leaveOut owner names) = .ok f) :
    ∃ e, s.apply d = .ok e ∧ enact (notSetting names ss) (e.leaveOut owner names) = .ok f := by
  have hplace : hidden owner names (s.place d.header) = s.sets names := by
    rw [hheader, Statement.hidden_place hentry]
  by_cases hsets : s.sets names = true
  · obtain ⟨name, value, rfl⟩ := hone hsets
    obtain ⟨e, he⟩ : ∃ e, (Statement.entry [name] value).apply d = .ok e :=
      apply_new hheader hopen ht (hnew hsets name rfl)
    refine ⟨e, he, ?_⟩
    rw [Statement.leaveOut_of_hidden hkey (by simp [hheader]) ht (hplace.trans hsets) he]
    rwa [notSetting, List.filter_cons_of_neg (by simp [hsets])] at h
  · rw [Bool.not_eq_true] at hsets
    rw [notSetting, List.filter_cons_of_pos (by simp [hsets])] at h
    obtain ⟨g, hg, hrest⟩ := enact_cons.mp h
    rw [Statement.apply_leaveOut hkey (hplace.trans hsets) (.inl (by rw [ht]; rfl))] at hg
    obtain ⟨e, he, rfl⟩ := map_eq_ok.mp hg
    exact ⟨e, he, hrest⟩

/-- **Entries at new names may be put anywhere** among entries at others: if those are carried out, so are
all. -/
theorem enact_entries_ok {ss : List Statement} (hss : Entries ss)
    (hone : ∀ s ∈ ss, s.sets names = true → ∃ name value, s = .entry [name] value)
    (hnodup : ((ss.filter (Statement.sets names)).map Statement.key).Nodup) {d f : Draft}
    (hheader : d.header = [owner]) (hopen : isClosed d.closed [owner] = false) {t : Table}
    (ht : d.root.get? owner = some (.table t))
    (hnew : ∀ s ∈ ss, s.sets names = true → ∀ name, s.key = [name] → t.get? name = none)
    (h : enact (notSetting names ss) (d.leaveOut owner names) = .ok f) :
    ∃ e, enact ss d = .ok e := by
  induction ss generalizing d t with
  | nil => exact ⟨d, rfl⟩
  | cons s ss ih =>
    obtain ⟨hentry, hkey⟩ := hss s (by simp)
    obtain ⟨name, key, hname⟩ := List.exists_cons_of_ne_nil hkey
    obtain ⟨e, he, hrest⟩ :=
      apply_of_leaveOut hentry hkey (hone s (by simp)) hheader hopen ht (hnew s (by simp)) h
    obtain ⟨t', ht', hother⟩ := apply_entry_other hentry hname hheader he ht
    have hheader' : e.header = [owner] := by
      rw [Statement.apply_header hkey he, Statement.nextHeader_of_isEntry hentry, hheader]
    -- the new names of the entries behind it are still free, as none is there twice
    have hfree : ∀ s' ∈ ss, s'.sets names = true → ∀ name', s'.key = [name'] → t'.get? name' = none := by
      intro s' hs' hsets' name' hname'
      rw [hother name' ?_]
      · exact hnew s' (List.mem_cons_of_mem _ hs') hsets' name' hname'
      · rintro rfl
        have hsets : s.sets names = true := by
          unfold Statement.sets at hsets' ⊢
          rw [hname]
          rwa [hname'] at hsets'
        obtain ⟨only, value, rfl⟩ := hone s (by simp) hsets
        obtain ⟨rfl, rfl⟩ := List.cons.inj hname
        rw [List.filter_cons_of_pos hsets, List.map_cons, List.nodup_cons] at hnodup
        exact hnodup.1 (List.mem_map.mpr ⟨s', by simp [hs', hsets'], hname'⟩)
    have hnodup' : ((ss.filter (Statement.sets names)).map Statement.key).Nodup := by
      refine hnodup.sublist (List.Sublist.map _ ?_)
      exact List.Sublist.filter _ (List.sublist_cons_self s ss)
    obtain ⟨e', he'⟩ := ih hss.tail (fun s hs => hone s (List.mem_cons_of_mem _ hs)) hnodup' hheader'
      (apply_entry_open hentry hkey hheader hopen he) ht' hfree hrest
    exact ⟨e', enact_cons.mpr ⟨e, he, he'⟩⟩

end

/-! ## What an entry gives in the end -/

/-- **The value of an entry stays**: it is found under its name in the end, or an array or a table is if its
key has more parts. -/
theorem enact_entries_value {owner : Text} {ss : List Statement} (hss : Entries ss) {d e : Draft}
    (hheader : d.header = [owner]) {t : Table} (ht : d.root.get? owner = some (.table t))
    (h : enact ss d = .ok e) {name : Text} {key : Key} {value : Value}
    (hmem : Statement.entry (name :: key) value ∈ ss) :
    ∃ (t' : Table) (v : Value), e.root.get? owner = some (.table t') ∧ t'.get? name = some v
      ∧ (key = [] → v.shape = value.shape) ∧ (key ≠ [] → v.isContainer = true) := by
  obtain ⟨front, rest, rfl⟩ := List.append_of_mem hmem
  have hfront : Entries front := fun s hs => hss s (by simp [hs])
  have hrest : Entries rest := fun s hs => hss s (by simp [hs])
  obtain ⟨f, hf, hbehind⟩ := enact_append.mp h
  obtain ⟨g, hg, hlast⟩ := enact_cons.mp hbehind
  obtain ⟨t₁, ht₁, -⟩ := enact_within (fun s hs => (hfront s hs).2) hf ht
  obtain ⟨t₂, v, ht₂, hv, hnone, hsome⟩ := apply_entry ((enact_header hfront hf).trans hheader) hg ht₁
  obtain ⟨t₃, ht₃, hwithin⟩ := enact_within (fun s hs => (hrest s hs).2) hlast ht₂
  obtain ⟨w, hw, hshape⟩ := hwithin name v hv
  refine ⟨t₃, w, ht₃, hw, ?_, ?_⟩
  · intro hkey
    rw [hshape, hnone hkey]
  · intro hkey
    rw [Value.isContainer_of_shape hshape, hsome hkey]

end CrateSync.Toml
