/-
# Plain statements

What the statements of plain lines do to a document: they make no arrays, a table that they have once
declared stays so, and below a header they are about nothing else.

* `declared_of_enact` : what is declared stays declared;
* `arrayFree_of_enact` : there are no arrays;
* `apart_below`, `apart_before_table` : statements that are about other things than some names of a table.
-/
import CrateSync.Proofs.Toml.LeaveOut
import CrateSync.Proofs.Toml.PlainLine

namespace CrateSync.Toml

/-! ## Plain statements -/

/-- A statement of a plain line. -/
inductive PlainStatement : Statement → Prop
  | entry (key : Key) (written : Text) (value : Value) (h : PlainValue written value) :
      PlainStatement (.entry key value)
  | table (key : Key) : PlainStatement (.table key)

theorem PlainLine.plain {t : Text} {ss : List Statement} (h : PlainLine t ss) :
    ∀ s ∈ ss, PlainStatement s := by
  intro s hs
  cases h with
  | nothing => exact absurd hs List.not_mem_nil
  | header w₁ w₂ w₃ name behind key =>
    rw [List.mem_singleton.mp hs]
    exact .table key
  | entry w₁ w₂ w₃ name written behind key value h₁ h₂ h₃ hk hv =>
    rw [List.mem_singleton.mp hs]
    exact .entry key written value hv

theorem PlainValue.isContainer {written : Text} {value : Value} (h : PlainValue written value) :
    value.isContainer = false := by
  cases h <;> rfl

/-- Of the plain values only the truth value counts as false. -/
theorem PlainValue.eq_false {written : Text} {value : Value} (h : PlainValue written value)
    (hfalse : value.isFalse = true) : value = .boolean false := by
  cases h with
  | on => exact absurd hfalse (by decide)
  | off => rfl
  | string content => exact absurd hfalse (by simp [Value.isFalse])

theorem Value.without_of_leaf {v : Value} (h : v.isContainer = false) (names : List Text) :
    v.without names = v := by
  cases v with
  | table t => exact absurd h (by simp [isContainer])
  | _ => rfl

/-- **A table that has been declared stays so**, or is declared by the next header. -/
theorem declared_of_enact {ss : List Statement} (hplain : ∀ s ∈ ss, PlainStatement s)
    (hkeys : ∀ s ∈ ss, s.key ≠ []) {d e : Draft} (henact : enact ss d = .ok e) {path : Key}
    (hpath : path ∈ d.declared ++ d.pending) : path ∈ e.declared ++ e.pending := by
  induction ss generalizing d with
  | nil => rwa [← Except.ok.inj henact]
  | cons s ss ih =>
    obtain ⟨f, hs, hss⟩ := enact_cons.mp henact
    have hkey : s.key ≠ [] := hkeys s (by simp)
    obtain ⟨name, rest, hplace⟩ := List.exists_cons_of_ne_nil (s.place_ne_nil hkey d.header)
    obtain ⟨-, root, -, rfl⟩ := (s.apply_eq_ok hkey hplace).mp hs
    refine ih (fun s hs => hplain s (by simp [hs])) (fun s hs => hkeys s (by simp [hs])) hss ?_
    cases hplain s (by simp) with
    | entry key written value h =>
      show path ∈ d.declared ++ (d.pending ++ Statement.passed d.header key)
      rw [← List.append_assoc]
      exact List.mem_append_left _ hpath
    | table key =>
      exact List.mem_append_left _ (List.mem_cons_of_mem key hpath)

/-- A table without arrays directly in it. -/
def Table.ArrayFree (t : Table) : Prop :=
  ∀ name items, t.get? name ≠ some (.array items)

theorem behind_ne_array {f : Table → Change} {o : Option Value} {v : Value}
    (ho : ∀ items, o ≠ some (.array items)) (h : behind f o = .ok v) : ∃ t, v = .table t := by
  cases o with
  | none =>
    obtain ⟨t, -, rfl⟩ := map_eq_ok.mp h
    exact ⟨t, rfl⟩
  | some w =>
    cases w with
    | table t =>
      obtain ⟨t', -, rfl⟩ := map_eq_ok.mp h
      exact ⟨t', rfl⟩
    | array items => exact absurd rfl (ho items)
    | _ => exact absurd h (by simp [behind])

/-- A plain statement makes no array. -/
theorem PlainStatement.act_ne_array {s : Statement} (hs : PlainStatement s) {rest : Key}
    {o : Option Value} {v : Value} (ho : ∀ items, o ≠ some (.array items))
    (h : descend s.act rest o = .ok v) : ∀ items, v ≠ .array items := by
  rintro items rfl
  cases rest with
  | cons name rest =>
    obtain ⟨t, ht⟩ := behind_ne_array ho h
    exact absurd ht (by simp)
  | nil =>
    cases hs with
    | table key =>
      obtain ⟨t, ht⟩ := behind_ne_array ho h
      exact absurd ht (by simp)
    | entry key written value hv =>
      cases o with
      | none =>
        have hvalue : value = .array items := Except.ok.inj h
        have hleaf := hv.isContainer
        rw [hvalue] at hleaf
        exact absurd hleaf (by simp [Value.isContainer])
      | some w => exact absurd h (by simp [descend, Statement.act, enter])

/-- **Plain statements make no arrays.** -/
theorem arrayFree_of_enact {ss : List Statement} (hplain : ∀ s ∈ ss, PlainStatement s)
    (hkeys : ∀ s ∈ ss, s.key ≠ []) {d e : Draft} (henact : enact ss d = .ok e)
    (hfree : d.root.ArrayFree) : e.root.ArrayFree := by
  induction ss generalizing d with
  | nil => rwa [← Except.ok.inj henact]
  | cons s ss ih =>
    obtain ⟨f, hs, hss⟩ := enact_cons.mp henact
    have hkey : s.key ≠ [] := hkeys s (by simp)
    refine ih (fun s hs => hplain s (by simp [hs])) (fun s hs => hkeys s (by simp [hs])) hss ?_
    obtain ⟨name, rest, hplace⟩ := List.exists_cons_of_ne_nil (s.place_ne_nil hkey d.header)
    obtain ⟨-, root, hroot, rfl⟩ := (s.apply_eq_ok hkey hplace).mp hs
    rw [s.outcome_root]
    obtain ⟨v, hv, rfl⟩ := Table.update_eq_ok.mp hroot
    intro other items
    by_cases hother : other = name
    · subst hother
      rw [Table.get?_put_self, ne_eq, Option.some.injEq]
      exact (hplain s (by simp)).act_ne_array (hfree other) hv items
    · rw [Table.get?_put_ne _ _ hother]
      exact hfree other items

/-! ## Statements elsewhere -/

section

variable {owner : Text} {names : List Text}

/-- Whether a header is one of other things than the names of a table, and what stands below it too. -/
structure Elsewhere (owner : Text) (names : List Text) (header : Key) : Prop where
  ne_nil : header ≠ []
  ne_owner : header ≠ [owner]
  shown : hidden owner names header = false

theorem Elsewhere.append {header : Key} (h : Elsewhere owner names header) (key : Key) :
    hidden owner names (header ++ key) = false := by
  match header, h with
  | [part], h =>
    have hpart : part ≠ owner := fun heq => h.ne_owner (by rw [heq])
    cases key with
    | nil => rfl
    | cons name key => simp [hidden, hpart]
  | part :: name :: rest, h => exact h.shown
  | [], h => exact absurd rfl h.ne_nil

theorem PlainStatement.without {s : Statement} (hs : PlainStatement s) {key : Key} {value : Value}
    (heq : s = .entry key value) : value.without names = value := by
  cases hs with
  | entry k written v h =>
    obtain ⟨rfl, rfl⟩ := Statement.entry.inj heq
    exact Value.without_of_leaf h.isContainer names
  | table k => exact absurd heq (by simp)

/-- **Below other headers plain statements are about other things.** -/
theorem apart_below {ss : List Statement} (hplain : ∀ s ∈ ss, PlainStatement s)
    (htables : ∀ key, .table key ∈ ss → Elsewhere owner names key) {header : Key}
    (hheader : Elsewhere owner names header) : Apart owner names header ss := by
  induction ss generalizing header with
  | nil => exact trivial
  | cons s ss ih =>
    have hs : PlainStatement s := hplain s (by simp)
    have hrest : ∀ header, Elsewhere owner names header → Apart owner names header ss :=
      fun header => ih (fun s hs => hplain s (by simp [hs])) fun key hkey => htables key (by simp [hkey])
    have hwithout : ∀ key value, s = .entry key value → header ++ key = [owner] →
        value.without names = value := fun key value heq _ => hs.without heq
    cases hs with
    | entry key written value h => exact ⟨⟨hheader.append key, hwithout⟩, hrest header hheader⟩
    | table key =>
      have hkey : Elsewhere owner names key := htables key (by simp)
      exact ⟨⟨hkey.shown, hwithout⟩, hrest key hkey⟩

/-- A declared table gets no header. -/
theorem not_declared {key : Key} (hkey : key ≠ []) {d e : Draft}
    (h : (Statement.table key).apply d = .ok e) : key ∉ d.declared ++ d.pending := by
  obtain ⟨name, rest, rfl⟩ := List.exists_cons_of_ne_nil hkey
  obtain ⟨hfree, -⟩ := (Statement.apply_eq_ok (s := .table (name :: rest)) hkey rfl).mp h
  intro hmem
  rw [Statement.refusal, List.contains_iff_mem.mpr hmem, Bool.true_or, if_pos rfl] at hfree
  exact absurd hfree (by simp)

/-- **In front of the header of a table plain statements are about other things.**  An entry in front of all
headers that leads into the table would declare it. -/
theorem apart_before_table {ss : List Statement} (hplain : ∀ s ∈ ss, PlainStatement s)
    (hkeys : ∀ s ∈ ss, s.key ≠ []) (htables : ∀ key, .table key ∈ ss → Elsewhere owner names key)
    {d e : Draft} (hheader : d.header = [] ∨ Elsewhere owner names d.header)
    (henact : enact (ss ++ [.table [owner]]) d = .ok e) : Apart owner names d.header ss := by
  induction ss generalizing d with
  | nil => exact trivial
  | cons s ss ih =>
    have hs : PlainStatement s := hplain s (by simp)
    have hkey : s.key ≠ [] := hkeys s (by simp)
    have hplain' : ∀ s ∈ ss, PlainStatement s := fun s hs => hplain s (by simp [hs])
    have hkeys' : ∀ s ∈ ss, s.key ≠ [] := fun s hs => hkeys s (by simp [hs])
    obtain ⟨f, hf, hrest⟩ := enact_cons.mp henact
    have hnext : f.header = s.nextHeader d.header := Statement.apply_header hkey hf
    have htail := ih hplain' hkeys' (fun key hkey => htables key (by simp [hkey])) (d := f)
    rw [hnext] at htail
    have hwithout : ∀ key value, s = .entry key value → d.header ++ key = [owner] →
        value.without names = value := fun key value heq _ => hs.without heq
    cases hs with
    | table key =>
      have hkey : Elsewhere owner names key := htables key (by simp)
      exact ⟨⟨hkey.shown, hwithout⟩, htail (Or.inr hkey) hrest⟩
    | entry key written value h =>
      refine ⟨⟨?_, hwithout⟩, htail hheader hrest⟩
      rcases hheader with hroot | helse
      · by_contra hhidden
        rw [Bool.not_eq_false, Statement.place, hroot, List.nil_append] at hhidden
        obtain ⟨name, rest, rfl, -⟩ := hidden_iff.mp hhidden
        -- the entry leads through the table
        have hplace : (Statement.entry (owner :: name :: rest) value).place d.header
            = owner :: name :: rest := by
          rw [Statement.place, hroot]
          rfl
        obtain ⟨-, root, -, rfl⟩ := (Statement.apply_eq_ok hkey hplace).mp hf
        have hpassed : [owner] ∈ d.declared ++ (d.pending
            ++ Statement.passed d.header (owner :: name :: rest)) := by
          simp [Statement.passed, properBeginnings, hroot]
        obtain ⟨g, hg, htable⟩ := enact_append.mp hrest
        obtain ⟨g', hg', -⟩ := enact_cons.mp htable
        exact not_declared (by simp) hg' (declared_of_enact hplain' hkeys' hg hpassed)
      · exact helse.append key

end

end CrateSync.Toml
