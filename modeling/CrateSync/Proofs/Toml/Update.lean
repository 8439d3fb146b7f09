/-
# Changes of a table

What a statement does to a document happens at one place, behind a key.  Seen from any table on the way,
it changes the value under one name and leaves the others alone.

* `Table.update` : changing the value under one name;
* `Table.change_eq_update` : a change behind a key is an update under its first part, which `descend`
  describes;
* `Table.update_within` : a value stays; only an array or a table may grow;
* `Table.without` : a table without some names, and what updates do to it.
-/
import CrateSync.Proofs.Toml.Locality

namespace CrateSync.Toml

namespace Table

/-! ## Putting values -/

theorem put_put (t : Table) (name : Text) (v w : Value) : (t.put name v).put name w = t.put name w := by
  induction t with
  | nil => simp [put]
  | cons e t ih =>
    obtain ⟨k, u⟩ := e
    by_cases h : k = name <;> simp [put, h, ih]

theorem put_get? {t : Table} {name : Text} {v : Value} (h : t.get? name = some v) :
    t.put name v = t := by
  induction t with
  | nil => simp [get?] at h
  | cons e t ih =>
    obtain ⟨k, u⟩ := e
    by_cases hk : k = name
    · simp only [get?, hk, if_true, Option.some.injEq] at h
      simp [put, hk, h]
    · simp only [get?, hk, if_false] at h
      simp [put, hk, ih h]

/-- Values under two names may be put in either order, if one of the names is there already. -/
theorem put_comm {t : Table} {name other : Text} (hne : name ≠ other) (v w : Value)
    (h : (t.get? name).isSome = true) : (t.put other w).put name v = (t.put name v).put other w := by
  induction t with
  | nil => simp [get?] at h
  | cons e t ih =>
    obtain ⟨k, u⟩ := e
    by_cases hk : k = name
    · subst hk
      simp [put, hne]
    · simp only [get?, hk, if_false] at h
      by_cases ho : k = other
      · subst ho
        simp [put, hk]
      · simp [put, hk, ho, ih h]

/-! ## Updating one name -/

/-- Changes the value under a name, or makes one if there is none. -/
def update (name : Text) (act : Option Value → Except Cause Value) (t : Table) : Change :=
  (act (t.get? name)).map (t.put name)

theorem update_eq_ok {name : Text} {act : Option Value → Except Cause Value} {t t' : Table} :
    t.update name act = .ok t' ↔ ∃ v, act (t.get? name) = .ok v ∧ t.put name v = t' :=
  map_eq_ok

/-- **An update leaves the other names alone.** -/
theorem update_get?_ne {name other : Text} {act : Option Value → Except Cause Value} {t t' : Table}
    (h : t.update name act = .ok t') (hne : other ≠ name) : t'.get? other = t.get? other := by
  obtain ⟨v, -, rfl⟩ := update_eq_ok.mp h
  exact get?_put_ne t v hne

end Table

/-! ## What happens at a place -/

/-- What a change of tables does to a value: to a table, to the last table of an array, or to a new
table. -/
def behind (f : Table → Change) : Option Value → Except Cause Value
  | none => (f []).map .table
  | some (.table t) => (f t).map .table
  | some (.array items) =>
    match items.getLast? with
    | some (.table t) => (f t).map fun t => .array (items.dropLast ++ [.table t])
    | _ => .error .overwritesValue
  | some _ => .error .overwritesValue

/-- What an act at the end of a key does to the value that the key leads from. -/
def descend (act : Option Value → Except Cause Value) : Key → Option Value → Except Cause Value
  | [] => act
  | name :: key => behind (Table.update name (descend act key))

/-- Puts a value where there is none. -/
def enter (value : Value) (cause : Cause) : Option Value → Except Cause Value
  | none => .ok value
  | some _ => .error cause

/-- Adds an empty table to an array. -/
def grow : Option Value → Except Cause Value
  | none => .ok (.array [.table []])
  | some (.array items) => .ok (.array (items ++ [.table []]))
  | some _ => .error .overwritesValue

namespace Table

theorem add_eq_update (name : Text) (value : Value) (taken : Cause) :
    add name value taken = update name (enter value taken) := by
  funext t
  unfold add update
  cases t.get? name with
  | none => rfl
  | some v => rfl

theorem extend_eq_update (name : Text) : extend name = update name grow := by
  funext t
  unfold extend update
  cases t.get? name with
  | none => rfl
  | some v => cases v <;> rfl

theorem change_cons (f : Table → Change) (name : Text) (key : Key) :
    change true f (name :: key) = update name (behind (change true f key)) := by
  funext t
  rw [change, update]
  cases ht : t.get? name with
  | none =>
    simp only [behind]
    cases change true f key [] <;> rfl
  | some v =>
    cases v with
    | table inner =>
      simp only [behind]
      cases change true f key inner <;> rfl
    | array items =>
      simp only [behind]
      cases items.getLast? with
      | none => rfl
      | some last =>
        cases last with
        | table inner =>
          dsimp only
          cases change true f key inner <;> rfl
        | _ => rfl
    | _ => rfl

/-- **A change behind a key is an update under its first part.** -/
theorem change_eq_update (act : Option Value → Except Cause Value) {key rest : Key} {last name : Text}
    (h : key ++ [last] = name :: rest) :
    change true (update last act) key = update name (descend act rest) := by
  induction key generalizing name rest with
  | nil =>
    obtain ⟨rfl, rfl⟩ := List.cons.inj h
    rfl
  | cons part key ih =>
    obtain ⟨next, more, hnext⟩ : ∃ next more, key ++ [last] = next :: more :=
      List.exists_cons_of_ne_nil (by simp)
    rw [List.cons_append, hnext] at h
    obtain ⟨rfl, rfl⟩ := List.cons.inj h
    rw [change_cons, ih hnext]
    rfl

/-- Going to a table is an update as well. -/
theorem change_ok_eq_update (name : Text) (key : Key) :
    change true .ok (name :: key) = update name (descend (behind .ok) key) := by
  induction key generalizing name with
  | nil =>
    rw [change_cons]
    rfl
  | cons next key ih =>
    rw [change_cons, ih]
    rfl

end Table

/-! ## What stays -/

/-- What is left of a value if only its kind counts where it may grow. -/
def Value.shape : Value → Value
  | .array _ => .array []
  | .table _ => .table []
  | v => v

/-- A value that holds no others is its shape. -/
theorem Value.eq_of_shape {v w : Value} (h : v.shape = w.shape) (hw : w.isContainer = false) : v = w := by
  cases w with
  | array items => exact absurd hw (by simp [isContainer])
  | table t => exact absurd hw (by simp [isContainer])
  | _ => cases v <;> simp_all [shape]

theorem Value.isContainer_of_shape {v w : Value} (h : v.shape = w.shape) :
    v.isContainer = w.isContainer := by
  cases v <;> cases w <;> simp_all [shape, isContainer]

theorem Value.exists_table_of_shape {v : Value} {t : Table} (h : (Value.table t).shape = v.shape) :
    ∃ u : Table, v = .table u := by
  cases v with
  | table u => exact ⟨u, rfl⟩
  | _ => exact absurd h (by simp [shape])

/-- An act keeps values: it changes an array or a table at most. -/
def Keeps (act : Option Value → Except Cause Value) : Prop :=
  ∀ v v', act (some v) = .ok v' → v'.shape = v.shape

theorem keeps_behind (f : Table → Change) : Keeps (behind f) := by
  intro v v' h
  cases v with
  | table t =>
    obtain ⟨t', -, rfl⟩ := map_eq_ok.mp h
    rfl
  | array items =>
    simp only [behind] at h
    split at h
    · obtain ⟨t', -, rfl⟩ := map_eq_ok.mp h
      rfl
    · exact absurd h (by simp)
  | _ => exact absurd h (by simp [behind])

/-- Behind a name there is an array or a table. -/
theorem behind_isContainer {f : Table → Change} {o : Option Value} {v : Value}
    (h : behind f o = .ok v) : v.isContainer = true := by
  cases o with
  | none =>
    obtain ⟨t, -, rfl⟩ := map_eq_ok.mp h
    rfl
  | some w =>
    rw [Value.isContainer_of_shape (keeps_behind f w v h)]
    cases w with
    | table t => rfl
    | array items => rfl
    | _ => exact absurd h (by simp [behind])

theorem keeps_enter (value : Value) (cause : Cause) : Keeps (enter value cause) := by
  intro v v' h
  exact absurd h (by simp [enter])

theorem keeps_grow : Keeps grow := by
  intro v v' h
  cases v with
  | array items =>
    rw [← Except.ok.inj h]
    rfl
  | _ => exact absurd h (by simp [grow])

theorem keeps_descend {act : Option Value → Except Cause Value} (h : Keeps act) (key : Key) :
    Keeps (descend act key) := by
  cases key with
  | nil => exact h
  | cons name key => exact keeps_behind _

namespace Table

/-- Every value of a table is in another table too, or is an array or a table there that may have
grown. -/
def Within (t t' : Table) : Prop :=
  ∀ name v, t.get? name = some v → ∃ v', t'.get? name = some v' ∧ v'.shape = v.shape

theorem Within.refl (t : Table) : t.Within t :=
  fun _ v h => ⟨v, h, rfl⟩

theorem Within.trans {t t' t'' : Table} (h : t.Within t') (h' : t'.Within t'') : t.Within t'' := by
  intro name v hv
  obtain ⟨v', hv', hs⟩ := h name v hv
  obtain ⟨v'', hv'', hs'⟩ := h' name v' hv'
  exact ⟨v'', hv'', hs'.trans hs⟩

/-- **An update keeps the values of a table.** -/
theorem update_within {name : Text} {act : Option Value → Except Cause Value} (ha : Keeps act)
    {t t' : Table} (h : t.update name act = .ok t') : t.Within t' := by
  obtain ⟨v, hv, rfl⟩ := update_eq_ok.mp h
  intro other w hw
  by_cases hne : other = name
  · subst hne
    rw [hw] at hv
    exact ⟨v, get?_put_self t other v, ha w v hv⟩
  · exact ⟨w, by rw [get?_put_ne t v hne, hw], rfl⟩

/-! ## Leaving out names -/

/-- The table without the entries under some names. -/
def without (names : List Text) (t : Table) : Table :=
  t.filter fun e => !names.contains e.1

variable {names : List Text} {name : Text}

theorem without_cons_of_mem (t : Table) (v : Value) (h : name ∈ names) :
    without names ((name, v) :: t) = t.without names := by
  simp [without, h]

theorem without_cons (t : Table) (v : Value) (h : name ∉ names) :
    without names ((name, v) :: t) = (name, v) :: t.without names := by
  simp [without, h]

theorem get?_without (t : Table) (h : name ∉ names) : (t.without names).get? name = t.get? name := by
  induction t with
  | nil => rfl
  | cons e t ih =>
    obtain ⟨k, v⟩ := e
    by_cases hn : k ∈ names
    · have hk : k ≠ name := fun hk => h (hk ▸ hn)
      simp [without_cons_of_mem t v hn, get?, hk, ih]
    · simp [without_cons t v hn, get?, ih]

theorem get?_without_of_mem (t : Table) (h : name ∈ names) : (t.without names).get? name = none := by
  induction t with
  | nil => rfl
  | cons e t ih =>
    obtain ⟨k, v⟩ := e
    by_cases hn : k ∈ names
    · rw [without_cons_of_mem t v hn, ih]
    · have hk : k ≠ name := fun hk => hn (hk ▸ h)
      simp [without_cons t v hn, get?, hk, ih]

theorem without_put (t : Table) (v : Value) (h : name ∉ names) :
    (t.put name v).without names = (t.without names).put name v := by
  induction t with
  | nil => simp [put, without, h]
  | cons e t ih =>
    obtain ⟨k, w⟩ := e
    by_cases hk : k = name
    · subst hk
      simp [put, without_cons _ _ h]
    · by_cases hn : k ∈ names
      · simp [put, hk, without_cons_of_mem _ _ hn, ih]
      · simp [put, hk, without_cons _ _ hn, ih]

theorem without_put_of_mem (t : Table) (v : Value) (h : name ∈ names) :
    (t.put name v).without names = t.without names := by
  induction t with
  | nil => simp [put, without, h]
  | cons e t ih =>
    obtain ⟨k, w⟩ := e
    by_cases hk : k = name
    · subst hk
      simp [put, without_cons_of_mem _ _ h]
    · by_cases hn : k ∈ names
      · simp [put, hk, without_cons_of_mem _ _ hn, ih]
      · simp [put, hk, without_cons _ _ hn, ih]

/-- **Leaving out names and updating another one** may be done in either order. -/
theorem update_without (act : Option Value → Except Cause Value) (t : Table) (h : name ∉ names) :
    (t.without names).update name act = (t.update name act).map (without names) := by
  unfold update
  rw [get?_without t h]
  cases act (t.get? name) with
  | error e => rfl
  | ok v => exact congrArg Except.ok (without_put t v h).symm

/-- Updating a name that is left out changes nothing of the rest. -/
theorem without_of_update {act : Option Value → Except Cause Value} {t t' : Table} (h : name ∈ names)
    (hu : t.update name act = .ok t') : t'.without names = t.without names := by
  obtain ⟨v, -, rfl⟩ := update_eq_ok.mp hu
  exact without_put_of_mem t v h

end Table

end CrateSync.Toml
