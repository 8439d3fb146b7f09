/-
# What one statement does

A statement happens at a place, the full key of what it gives.  It is refused if the document does not
allow it there; otherwise it updates the document at its place and notes what may still be done.

* `Statement.apply_eq` : a statement as its refusal, its update and its outcome;
* `apply_within`, `enact_within` : a table under a name of the document stays a table there, and its values
  stay;
* `apply_entry` : what an entry of a table gives.
-/
import CrateSync.Proofs.Toml.Statements
import CrateSync.Proofs.Toml.Update

namespace CrateSync.Toml

namespace Statement

/-! ## One form for all statements -/

/-- The full key of what a statement gives below a header. -/
def place (header : Key) : Statement → Key
  | entry key _ => header ++ key
  | table key => key
  | array key => key

/-- What a statement does at its place. -/
def act : Statement → Option Value → Except Cause Value
  | entry _ value => enter value .overwritesValue
  | table _ => behind .ok
  | array _ => grow

/-- The header behind a statement. -/
def nextHeader (header : Key) : Statement → Key
  | entry _ _ => header
  | table key => key
  | array key => key

/-- The tables that the key of an entry leads through. -/
def passed (header key : Key) : List Key :=
  (properBeginnings key).map (header ++ ·)

/-- Why a document does not allow a statement, if it does not. -/
def refusal (d : Draft) : Statement → Option Cause
  | entry key _ =>
    match (passed d.header key).find? d.declared.contains with
    | some path => some (.redefinesNamespace path)
    | none =>
      if isClosed d.closed (d.header ++ key.dropLast) then
        some (.closedNamespace (d.header ++ key.dropLast))
      else none
  | table key =>
    if (d.declared ++ d.pending).contains key || isClosed d.closed key then some (.declaredTwice key)
    else none
  | array key => if isClosed d.closed key then some (.closedNamespace key) else none

/-- What is noted of a statement beside the changed tables. -/
def outcome (d : Draft) (root : Table) : Statement → Draft
  | entry key value =>
    { root
      declared := d.declared
      closed := if value.isContainer then (d.header ++ key) :: d.closed else d.closed
      pending := d.pending ++ passed d.header key
      header := d.header }
  | table key =>
    { root
      declared := key :: (d.declared ++ d.pending)
      closed := d.closed
      pending := []
      header := key }
  | array key =>
    { root
      declared := key :: keysOutside key (d.declared ++ d.pending)
      closed := keysOutside key d.closed
      pending := []
      header := key }

@[simp] theorem outcome_root (s : Statement) (d : Draft) (root : Table) :
    (s.outcome d root).root = root := by
  cases s <;> rfl

@[simp] theorem outcome_header (s : Statement) (d : Draft) (root : Table) :
    (s.outcome d root).header = s.nextHeader d.header := by
  cases s <;> rfl

theorem dropLast_append_getLastD {key : Key} (h : key ≠ []) :
    key.dropLast ++ [key.getLastD []] = key := by
  rcases List.eq_nil_or_concat key with rfl | ⟨front, last, rfl⟩
  · exact absurd rfl h
  · simp

theorem place_ne_nil {s : Statement} (h : s.key ≠ []) (header : Key) : s.place header ≠ [] := by
  cases s with
  | entry key value => exact List.append_ne_nil_of_right_ne_nil _ h
  | table key => exact h
  | array key => exact h

/-- **A statement** is refused, or updates the document at its place and is noted. -/
theorem apply_eq {s : Statement} (hkey : s.key ≠ []) (d : Draft) {name : Text} {rest : Key}
    (hplace : s.place d.header = name :: rest) :
    s.apply d = match s.refusal d with
      | some cause => .error cause
      | none => (d.root.update name (descend s.act rest)).map fun root => s.outcome d root := by
  -- the document is walked from the first name of the place, a key is taken apart at its last name
  cases s with
  | entry key value =>
    have hsplit : d.header ++ key.dropLast ++ [key.getLastD []] = name :: rest := by
      have hend : key.dropLast ++ [key.getLastD []] = key := dropLast_append_getLastD hkey
      rw [List.append_assoc, hend]
      exact hplace
    show d.assign key value = _
    rw [refusal, Draft.assign, Table.add_eq_update, Table.change_eq_update _ hsplit]
    show (match (passed d.header key).find? d.declared.contains with | some _ => _ | none => _) = _
    cases (passed d.header key).find? d.declared.contains with
    | some path => rfl
    | none =>
      by_cases hclosed : isClosed d.closed (d.header ++ key.dropLast) = true
      · simp [hclosed]
      · simp only [hclosed]
        rfl
  | table key =>
    have hsplit : key = name :: rest := hplace
    show d.settle.openTable key = _
    rw [refusal, Draft.openTable]
    show (if ((d.declared ++ d.pending).contains key || isClosed d.closed key) = true then _ else _) = _
    by_cases hrefused : ((d.declared ++ d.pending).contains key || isClosed d.closed key) = true
    · rw [if_pos hrefused, if_pos hrefused]
    · rw [if_neg hrefused, if_neg hrefused, hsplit, Table.change_ok_eq_update]
      rfl
  | array key =>
    have hsplit : key.dropLast ++ [key.getLastD []] = name :: rest :=
      (dropLast_append_getLastD hkey).trans hplace
    show d.settle.extendArray key = _
    rw [refusal, Draft.extendArray, Table.extend_eq_update, Table.change_eq_update _ hsplit]
    show (if isClosed d.closed key = true then _ else _) = _
    by_cases hclosed : isClosed d.closed key = true
    · rw [if_pos hclosed, if_pos hclosed]
    · rw [if_neg hclosed, if_neg hclosed]
      rfl

theorem apply_eq_ok {s : Statement} (hkey : s.key ≠ []) {d e : Draft} {name : Text} {rest : Key}
    (hplace : s.place d.header = name :: rest) :
    s.apply d = .ok e ↔ s.refusal d = none
      ∧ ∃ root, d.root.update name (descend s.act rest) = .ok root ∧ s.outcome d root = e := by
  rw [apply_eq hkey d hplace]
  cases s.refusal d with
  | some cause => simp
  | none => simp [map_eq_ok]

theorem apply_header {s : Statement} (hkey : s.key ≠ []) {d e : Draft} (h : s.apply d = .ok e) :
    e.header = s.nextHeader d.header := by
  obtain ⟨name, rest, hplace⟩ := List.exists_cons_of_ne_nil (place_ne_nil hkey d.header)
  obtain ⟨-, root, -, rfl⟩ := (apply_eq_ok hkey hplace).mp h
  exact outcome_header s d root

/-! ## What stays -/

theorem keeps_act (s : Statement) : Keeps s.act := by
  cases s with
  | entry key value => exact keeps_enter value _
  | table key => exact keeps_behind _
  | array key => exact keeps_grow

/-- A statement at the place of a table leaves the table as it is. -/
theorem act_table (s : Statement) {t : Table} {v : Value} (h : s.act (some (.table t)) = .ok v) :
    v = .table t := by
  cases s with
  | entry key value => exact absurd h (by simp [act, enter])
  | table key => exact (Except.ok.inj h).symm
  | array key => exact absurd h (by simp [act, grow])

end Statement

/-- **A statement keeps the values of the document**, but for arrays and tables that may grow. -/
theorem apply_root_within {s : Statement} (hkey : s.key ≠ []) {d e : Draft} (h : s.apply d = .ok e) :
    d.root.Within e.root := by
  obtain ⟨name, rest, hplace⟩ := List.exists_cons_of_ne_nil (s.place_ne_nil hkey d.header)
  obtain ⟨-, root, hroot, rfl⟩ := (s.apply_eq_ok hkey hplace).mp h
  rw [s.outcome_root]
  exact Table.update_within (keeps_descend s.keeps_act rest) hroot

theorem enact_root_within {ss : List Statement} (hkeys : ∀ s ∈ ss, s.key ≠ []) {d e : Draft}
    (h : enact ss d = .ok e) : d.root.Within e.root := by
  induction ss generalizing d with
  | nil =>
    rw [← Except.ok.inj h]
    exact .refl d.root
  | cons s ss ih =>
    obtain ⟨f, hs, hss⟩ := enact_cons.mp h
    exact (apply_root_within (hkeys s (by simp)) hs).trans (ih (fun s hs => hkeys s (by simp [hs])) hss)

/-- **A statement keeps a table of the document** and the values in it. -/
theorem apply_within {s : Statement} (hkey : s.key ≠ []) {d e : Draft} (h : s.apply d = .ok e)
    {owner : Text} {t : Table} (ht : d.root.get? owner = some (.table t)) :
    ∃ t', e.root.get? owner = some (.table t') ∧ t.Within t' := by
  obtain ⟨name, rest, hplace⟩ := List.exists_cons_of_ne_nil (s.place_ne_nil hkey d.header)
  obtain ⟨-, root, hroot, rfl⟩ := (s.apply_eq_ok hkey hplace).mp h
  rw [s.outcome_root]
  by_cases hname : owner = name
  · subst hname
    obtain ⟨v, hv, rfl⟩ := Table.update_eq_ok.mp hroot
    rw [ht] at hv
    rw [Table.get?_put_self]
    cases rest with
    | nil => exact ⟨t, by rw [s.act_table hv], .refl t⟩
    | cons next key =>
      obtain ⟨t', ht', rfl⟩ := map_eq_ok.mp hv
      exact ⟨t', rfl, Table.update_within (keeps_descend s.keeps_act key) ht'⟩
  · exact ⟨t, by rw [Table.update_get?_ne hroot hname, ht], .refl t⟩

theorem enact_within {ss : List Statement} (hkeys : ∀ s ∈ ss, s.key ≠ []) {d e : Draft}
    (h : enact ss d = .ok e) {owner : Text} {t : Table} (ht : d.root.get? owner = some (.table t)) :
    ∃ t', e.root.get? owner = some (.table t') ∧ t.Within t' := by
  induction ss generalizing d t with
  | nil => exact ⟨t, by rw [← Except.ok.inj h, ht], .refl t⟩
  | cons s ss ih =>
    obtain ⟨f, hs, hss⟩ := enact_cons.mp h
    obtain ⟨t₁, ht₁, hw₁⟩ := apply_within (hkeys s (by simp)) hs ht
    obtain ⟨t₂, ht₂, hw₂⟩ := ih (fun s hs => hkeys s (by simp [hs])) hss ht₁
    exact ⟨t₂, ht₂, hw₁.trans hw₂⟩

/-- **An entry of a table gives its value**, or an array or a table if its key has more parts. -/
theorem apply_entry {owner name : Text} {key : Key} {value : Value} {d e : Draft}
    (hheader : d.header = [owner]) (h : (Statement.entry (name :: key) value).apply d = .ok e)
    {t : Table} (ht : d.root.get? owner = some (.table t)) :
    ∃ (t' : Table) (v : Value), e.root.get? owner = some (.table t') ∧ t'.get? name = some v
      ∧ (key = [] → v = value) ∧ (key ≠ [] → v.isContainer = true) := by
  have hplace : (Statement.entry (name :: key) value).place d.header = owner :: name :: key := by
    rw [Statement.place, hheader]
    rfl
  obtain ⟨-, root, hroot, rfl⟩ := (Statement.apply_eq_ok (by simp [Statement.key]) hplace).mp h
  obtain ⟨w, hw, rfl⟩ := Table.update_eq_ok.mp hroot
  rw [ht] at hw
  obtain ⟨t', ht', rfl⟩ := map_eq_ok.mp hw
  obtain ⟨v, hv, rfl⟩ := Table.update_eq_ok.mp ht'
  refine ⟨_, v, by rw [Statement.outcome_root, Table.get?_put_self], Table.get?_put_self t name v, ?_, ?_⟩
  · rintro rfl
    cases hg : t.get? name with
    | none =>
      rw [hg] at hv
      exact (Except.ok.inj hv).symm
    | some u =>
      rw [hg] at hv
      exact absurd hv (by simp [descend, Statement.act, enter])
  · intro hne
    obtain ⟨next, more, rfl⟩ := List.exists_cons_of_ne_nil hne
    exact behind_isContainer hv

end CrateSync.Toml
