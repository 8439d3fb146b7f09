/-
# Leaving names of a table out of a document

A document in the making may be looked at without some names of one of its tables.  Statements elsewhere
do not notice: they may be carried out before the names are left out or afterwards.  Statements at these
names do not show.

* `Draft.leaveOut` : the document without the names, and without the notes about them;
* `Statement.apply_leaveOut` : a statement elsewhere and leaving out may change places;
* `Statement.leaveOut_of_hidden` : what a statement at the names leaves to be seen;
* `enact_alike` : two documents that look alike look alike behind the same statements;
* `enact_apart`, `enact_clear` : statements elsewhere are carried out in both, and give none of the names.
-/
import CrateSync.Proofs.Toml.Effect

namespace CrateSync.Toml

/-! ## Tables -/

/-- The value without the entries under some names, if it is a table. -/
def Value.without (names : List Text) : Value → Value
  | .table t => .table (Table.without names t)
  | v => v

/-- The document without some names of the table under `owner`. -/
def Table.leaveOut (owner : Text) (names : List Text) (root : Table) : Table :=
  match root.get? owner with
  | some v => root.put owner (v.without names)
  | none => root

/-- Whether a key leads to or below one of the names of the table under `owner`. -/
def hidden (owner : Text) (names : List Text) : Key → Bool
  | part :: name :: _ => part == owner && names.contains name
  | _ => false

section

variable {owner : Text} {names : List Text}

theorem Table.get?_leaveOut_self (root : Table) :
    (root.leaveOut owner names).get? owner = (root.get? owner).map (Value.without names) := by
  unfold leaveOut
  cases h : root.get? owner with
  | none => rw [h]; rfl
  | some v => rw [get?_put_self]; rfl

theorem Table.get?_leaveOut_ne (root : Table) {name : Text} (h : name ≠ owner) :
    (root.leaveOut owner names).get? name = root.get? name := by
  unfold leaveOut
  cases root.get? owner with
  | none => rfl
  | some v => exact get?_put_ne root _ h

theorem Table.leaveOut_put_self (root : Table) (v : Value) :
    (root.put owner v).leaveOut owner names = (root.leaveOut owner names).put owner (v.without names) := by
  have hleft : (root.put owner v).leaveOut owner names = root.put owner (v.without names) := by
    unfold leaveOut
    rw [get?_put_self]
    exact put_put root owner v _
  rw [hleft]
  unfold leaveOut
  cases root.get? owner with
  | none => rfl
  | some w => exact (put_put root owner _ _).symm

theorem Table.leaveOut_put_ne (root : Table) {name : Text} (v : Value) (h : name ≠ owner) :
    (root.put name v).leaveOut owner names = (root.leaveOut owner names).put name v := by
  unfold leaveOut
  rw [get?_put_ne root v (Ne.symm h)]
  cases howner : root.get? owner with
  | none => rfl
  | some w => exact put_comm (Ne.symm h) _ v (by rw [howner]; rfl)

/-- Two documents that look alike differ in the table under `owner` only. -/
theorem Table.eq_put_of_leaveOut {root root' : Table} {t t' : Table}
    (h : root.leaveOut owner names = root'.leaveOut owner names) (ht : root.get? owner = some (.table t))
    (ht' : root'.get? owner = some (.table t')) :
    root' = root.put owner (.table t') ∧ t'.without names = t.without names := by
  have hget := congrArg (Table.get? · owner) h
  simp only [get?_leaveOut_self, ht, ht', Option.map_some, Value.without, Option.some.injEq,
    Value.table.injEq] at hget
  have hput := congrArg (Table.put · owner (.table t')) h
  simp only [leaveOut, ht, ht', put_put] at hput
  rw [put_get? ht'] at hput
  exact ⟨hput.symm, hget.symm⟩

/-! ## Acts -/

theorem update_leaveOut_ne (act : Option Value → Except Cause Value) (root : Table) {name : Text}
    (h : name ≠ owner) : (root.leaveOut owner names).update name act
      = (root.update name act).map (Table.leaveOut owner names) := by
  unfold Table.update
  rw [root.get?_leaveOut_ne h]
  cases act (root.get? name) with
  | error e => rfl
  | ok v => exact congrArg Except.ok (root.leaveOut_put_ne v h).symm

theorem update_leaveOut_self {act : Option Value → Except Cause Value} {root : Table}
    (h : act ((root.get? owner).map (Value.without names))
      = (act (root.get? owner)).map (Value.without names)) :
    (root.leaveOut owner names).update owner act
      = (root.update owner act).map (Table.leaveOut owner names) := by
  unfold Table.update
  rw [root.get?_leaveOut_self, h]
  cases act (root.get? owner) with
  | error e => rfl
  | ok v => exact congrArg Except.ok (root.leaveOut_put_self v).symm

theorem behind_without {f : Table → Change}
    (h : ∀ t, f (t.without names) = (f t).map (Table.without names)) (o : Option Value) :
    behind f (o.map (Value.without names)) = (behind f o).map (Value.without names) := by
  cases o with
  | none =>
    have hnil : f [] = (f []).map (Table.without names) := h []
    show (f []).map .table = ((f []).map Value.table).map (Value.without names)
    cases hf : f [] with
    | error e => rfl
    | ok t =>
      rw [hf] at hnil
      exact congrArg (fun t => Except.ok (Value.table t)) (Except.ok.inj hnil)
  | some v =>
    cases v with
    | table t =>
      show (f (Table.without names t)).map .table = ((f t).map Value.table).map (Value.without names)
      rw [h t]
      cases f t with
      | error e => rfl
      | ok t => rfl
    | array items =>
      show behind f (some (.array items)) = (behind f (some (.array items))).map (Value.without names)
      rw [behind]
      split
      · rename_i t hlast
        cases f t with
        | error e => rfl
        | ok t => rfl
      · rfl
    | _ => rfl

/-- Acts on a value that is there do not look into a table. -/
theorem Statement.act_without (s : Statement) (v : Value) :
    s.act (some (v.without names)) = (s.act (some v)).map (Value.without names) := by
  cases s with
  | entry key value => cases v <;> rfl
  | table key => exact behind_without (fun t => rfl) (some v)
  | array key => cases v <;> rfl

/-- **A statement elsewhere** updates the document without the names as it does the document. -/
theorem Statement.update_leaveOut (s : Statement) {root : Table} {name : Text} {rest : Key}
    (h : hidden owner names (name :: rest) = false)
    (hfree : rest = [] → name = owner → s.act ((root.get? owner).map (Value.without names))
      = (s.act (root.get? owner)).map (Value.without names)) :
    (root.leaveOut owner names).update name (descend s.act rest)
      = (root.update name (descend s.act rest)).map (Table.leaveOut owner names) := by
  by_cases hname : name = owner
  · subst hname
    apply update_leaveOut_self
    cases rest with
    | nil => exact hfree rfl rfl
    | cons next key =>
      have hnext : next ∉ names := by
        intro hmem
        simp [hidden, hmem] at h
      exact behind_without (fun t => Table.update_without _ t hnext) _
  · exact update_leaveOut_ne _ root hname

/-- A statement at the names leaves the document without them as it is. -/
theorem leaveOut_of_update {act : Option Value → Except Cause Value} {root root' t : Table} {name : Text}
    {rest : Key} (hname : name ∈ names) (ht : root.get? owner = some (.table t))
    (h : root.update owner (descend act (name :: rest)) = .ok root') :
    root'.leaveOut owner names = root.leaveOut owner names := by
  obtain ⟨v, hv, rfl⟩ := Table.update_eq_ok.mp h
  rw [ht] at hv
  obtain ⟨t', ht', rfl⟩ := map_eq_ok.mp hv
  rw [root.leaveOut_put_self, Value.without, Table.without_of_update hname ht', ← Value.without]
  apply Table.put_get?
  rw [root.get?_leaveOut_self, ht]
  rfl

/-! ## Keys -/

theorem hidden_append {key : Key} (h : hidden owner names key = true) (more : Key) :
    hidden owner names (key ++ more) = true := by
  match key, h with
  | part :: name :: rest, h => exact h

theorem hidden_of_longer {key more : Key} (h : key <+: more) (hmore : hidden owner names more = false) :
    hidden owner names key = false := by
  obtain ⟨rest, rfl⟩ := h
  by_contra hk
  rw [Bool.not_eq_false] at hk
  rw [hidden_append hk rest] at hmore
  exact absurd hmore (by simp)

/-- The keys of a set that do not lead to the names. -/
def seen (owner : Text) (names : List Text) (keys : List Key) : List Key :=
  keys.filter fun key => !hidden owner names key

theorem contains_seen (keys : List Key) {key : Key} (h : hidden owner names key = false) :
    (seen owner names keys).contains key = keys.contains key := by
  rw [Bool.eq_iff_iff]
  simp [seen, h]

theorem seen_append (keys more : List Key) :
    seen owner names (keys ++ more) = seen owner names keys ++ seen owner names more :=
  List.filter_append keys more

theorem seen_cons (keys : List Key) {key : Key} (h : hidden owner names key = false) :
    seen owner names (key :: keys) = key :: seen owner names keys := by
  simp [seen, h]

theorem seen_cons_of_hidden (keys : List Key) {key : Key} (h : hidden owner names key = true) :
    seen owner names (key :: keys) = seen owner names keys := by
  simp [seen, h]

theorem isClosed_seen (keys : List Key) {key : Key} (h : hidden owner names key = false) :
    isClosed (seen owner names keys) key = isClosed keys key := by
  rw [Bool.eq_iff_iff]
  simp only [isClosed, seen, List.any_eq_true, List.mem_filter, List.isPrefixOf_iff_prefix]
  constructor
  · rintro ⟨path, ⟨hmem, -⟩, hpath⟩
    exact ⟨path, hmem, hpath⟩
  · rintro ⟨path, hmem, hpath⟩
    exact ⟨path, ⟨hmem, by simp [hidden_of_longer hpath h]⟩, hpath⟩

theorem seen_keysOutside (key : Key) (keys : List Key) :
    seen owner names (keysOutside key keys) = keysOutside key (seen owner names keys) := by
  simp [seen, keysOutside, List.filter_filter, Bool.and_comm]

theorem seen_keysOutside_of_hidden (keys : List Key) {key : Key} (h : hidden owner names key = true) :
    seen owner names (keysOutside key keys) = seen owner names keys := by
  unfold seen keysOutside
  rw [List.filter_filter]
  apply List.filter_congr
  intro path _
  by_cases hp : key.isPrefixOf path = true
  · obtain ⟨rest, rfl⟩ := List.isPrefixOf_iff_prefix.mp hp
    simp [hidden_append h rest]
  · simp [hp]

theorem prefix_of_mem_properBeginnings {key path : Key} (h : path ∈ properBeginnings key) :
    path <+: key := by
  induction key generalizing path with
  | nil => exact absurd h (by simp [properBeginnings])
  | cons name key ih =>
    cases key with
    | nil => exact absurd h (by simp [properBeginnings])
    | cons next key =>
      rcases List.mem_cons.mp h with rfl | h
      · exact ⟨next :: key, rfl⟩
      · obtain ⟨path', hpath', rfl⟩ := List.mem_map.mp h
        exact List.cons_prefix_cons.mpr ⟨rfl, ih hpath'⟩

/-! ## Documents in the making -/

/-- The document without the names, and without what is noted about them. -/
def Draft.leaveOut (owner : Text) (names : List Text) (d : Draft) : Draft where
  root := d.root.leaveOut owner names
  declared := seen owner names d.declared
  closed := seen owner names d.closed
  pending := seen owner names d.pending
  header := d.header

/-- A key that an entry leads through is the beginning of its place. -/
theorem prefix_of_mem_passed {header key path : Key} (h : path ∈ Statement.passed header key) :
    path <+: header ++ key := by
  obtain ⟨part, hpart, rfl⟩ := List.mem_map.mp h
  exact (List.prefix_append_right_inj _).mpr (prefix_of_mem_properBeginnings hpart)

theorem seen_passed {header key : Key} (h : hidden owner names (header ++ key) = false) :
    seen owner names (Statement.passed header key) = Statement.passed header key := by
  apply List.filter_eq_self.mpr
  intro path hpath
  rw [hidden_of_longer (prefix_of_mem_passed hpath) h]
  rfl

theorem find?_congr_of_mem {α : Type} {p q : α → Bool} {l : List α} (h : ∀ a ∈ l, p a = q a) :
    l.find? p = l.find? q := by
  induction l with
  | nil => rfl
  | cons a l ih =>
    rw [List.find?_cons, List.find?_cons, h a (by simp), ih fun b hb => h b (by simp [hb])]

theorem Statement.refusal_leaveOut (s : Statement) (d : Draft)
    (h : hidden owner names (s.place d.header) = false) :
    s.refusal (d.leaveOut owner names) = s.refusal d := by
  cases s with
  | entry key value =>
    have hparent : hidden owner names (d.header ++ key.dropLast) = false :=
      hidden_of_longer ((List.prefix_append_right_inj _).mpr (List.dropLast_prefix key)) h
    have hfind : (passed d.header key).find? (seen owner names d.declared).contains
        = (passed d.header key).find? d.declared.contains := by
      apply find?_congr_of_mem
      intro path hpath
      exact contains_seen _ (hidden_of_longer (prefix_of_mem_passed hpath) h)
    simp only [refusal, Draft.leaveOut, hfind, isClosed_seen _ hparent]
  | table key =>
    have hkey : hidden owner names key = false := h
    simp only [refusal, Draft.leaveOut, ← seen_append, contains_seen _ hkey, isClosed_seen _ hkey]
  | array key =>
    have hkey : hidden owner names key = false := h
    simp only [refusal, Draft.leaveOut, isClosed_seen _ hkey]

theorem Statement.outcome_leaveOut (s : Statement) (d : Draft) (root : Table)
    (h : hidden owner names (s.place d.header) = false) :
    (s.outcome d root).leaveOut owner names
      = s.outcome (d.leaveOut owner names) (root.leaveOut owner names) := by
  cases s with
  | entry key value =>
    have hplace : hidden owner names (d.header ++ key) = false := h
    simp only [outcome, Draft.leaveOut, seen_append, seen_passed hplace]
    split_ifs
    · rw [seen_cons _ hplace]
    · rfl
  | table key =>
    have hkey : hidden owner names key = false := h
    simp only [outcome, Draft.leaveOut, seen_cons _ hkey, seen_append]
    rfl
  | array key =>
    have hkey : hidden owner names key = false := h
    simp only [outcome, Draft.leaveOut, seen_cons _ hkey, seen_keysOutside, seen_append]
    rfl

/-- Whether a statement below a header is about other things than the names: it does not lead to them, and
is no entry of a whole table with them. -/
structure Statement.Apart (owner : Text) (names : List Text) (header : Key) (s : Statement) :
    Prop where
  elsewhere : hidden owner names (s.place header) = false
  without : ∀ key value, s = .entry key value → header ++ key = [owner] →
    value.without names = value

/-- **A statement elsewhere and leaving out may change places.** -/
theorem Statement.apply_leaveOut {s : Statement} (hkey : s.key ≠ []) {d : Draft}
    (h : hidden owner names (s.place d.header) = false)
    (howner : (d.root.get? owner).isSome = true ∨ s.Apart owner names d.header) :
    s.apply (d.leaveOut owner names) = (s.apply d).map (Draft.leaveOut owner names) := by
  obtain ⟨name, rest, hplace⟩ := List.exists_cons_of_ne_nil (place_ne_nil hkey d.header)
  have hplace' : s.place (d.leaveOut owner names).header = name :: rest := hplace
  rw [apply_eq hkey d hplace, apply_eq hkey _ hplace', s.refusal_leaveOut d h]
  cases s.refusal d with
  | some cause => rfl
  | none =>
    have hfree : rest = [] → name = owner → s.act ((d.root.get? owner).map (Value.without names))
        = (s.act (d.root.get? owner)).map (Value.without names) := by
      rintro rfl rfl
      cases hget : d.root.get? name with
      | some v => exact s.act_without v
      | none =>
        have hapart : s.Apart name names d.header := by
          rcases howner with hsome | hapart
          · rw [hget] at hsome
            exact absurd hsome (by simp)
          · exact hapart
        cases s with
        | entry key value =>
          exact congrArg Except.ok (hapart.without key value rfl hplace).symm
        | table key => rfl
        | array key => rfl
    have hvisible : hidden owner names (name :: rest) = false := hplace ▸ h
    show (Table.update name (descend s.act rest) (d.root.leaveOut owner names)).map _ = _
    rw [s.update_leaveOut hvisible hfree]
    cases d.root.update name (descend s.act rest) with
    | error e => rfl
    | ok root => exact congrArg Except.ok (s.outcome_leaveOut d root h).symm

/-! ## Statements at the names -/

theorem hidden_iff {key : Key} :
    hidden owner names key = true ↔ ∃ name rest, key = owner :: name :: rest ∧ name ∈ names := by
  match key with
  | [] => simp [hidden]
  | [part] => simp [hidden]
  | part :: name :: rest =>
    simp only [hidden, Bool.and_eq_true, beq_iff_eq, List.contains_iff_mem]
    constructor
    · rintro ⟨rfl, hname⟩
      exact ⟨name, rest, rfl, hname⟩
    · rintro ⟨name', rest', heq, hname⟩
      obtain ⟨rfl, htail⟩ := List.cons.inj heq
      obtain ⟨rfl, -⟩ := List.cons.inj htail
      exact ⟨rfl, hname⟩

/-- Of a key to the names, all that is longer than the name of the table leads to them. -/
theorem hidden_beginning {key path : Key} (h : hidden owner names key = true) (hpath : path <+: key)
    (hlen : 2 ≤ path.length) : hidden owner names path = true := by
  match path, hlen with
  | part :: name :: rest, _ =>
    obtain ⟨more, rfl⟩ := hpath
    exact h

theorem ne_nil_of_mem_properBeginnings {key path : Key} (h : path ∈ properBeginnings key) :
    path ≠ [] := by
  match key, h with
  | name :: next :: key, h =>
    rcases List.mem_cons.mp h with rfl | h
    · simp
    · obtain ⟨path', -, rfl⟩ := List.mem_map.mp h
      simp

theorem seen_passed_of_hidden {header key : Key} (hheader : header ≠ [])
    (h : hidden owner names (header ++ key) = true) :
    seen owner names (Statement.passed header key) = [] := by
  rw [seen, List.filter_eq_nil_iff]
  intro path hpath
  have hlen : 2 ≤ path.length := by
    obtain ⟨part, hpart, rfl⟩ := List.mem_map.mp hpath
    have h₁ : 0 < header.length := List.length_pos_iff.mpr hheader
    have h₂ : 0 < part.length := List.length_pos_iff.mpr (ne_nil_of_mem_properBeginnings hpart)
    rw [List.length_append]
    omega
  rw [hidden_beginning h (prefix_of_mem_passed hpath) hlen]
  simp

/-- What shows of a statement that is not seen: only the header that it may be. -/
def Statement.passBy (d : Draft) : Statement → Draft
  | entry _ _ => d
  | table key => { d.settle with header := key }
  | array key => { d.settle with header := key }

/-- **A statement at the names** does not show but for the header that it may be. -/
theorem Statement.leaveOut_of_hidden {s : Statement} (hkey : s.key ≠ []) {d e : Draft}
    (hheader : d.header ≠ []) {t : Table} (ht : d.root.get? owner = some (.table t))
    (h : hidden owner names (s.place d.header) = true) (happly : s.apply d = .ok e) :
    e.leaveOut owner names = s.passBy (d.leaveOut owner names) := by
  obtain ⟨name, rest, hplace, hname⟩ := hidden_iff.mp h
  obtain ⟨-, root, hroot, rfl⟩ := (apply_eq_ok hkey hplace).mp happly
  have hsame : root.leaveOut owner names = d.root.leaveOut owner names :=
    leaveOut_of_update hname ht hroot
  cases s with
  | entry key value =>
    have hkeyHidden : hidden owner names (d.header ++ key) = true := h
    simp only [outcome, passBy, Draft.leaveOut, hsame, seen_append,
      seen_passed_of_hidden hheader hkeyHidden, List.append_nil]
    split_ifs
    · rw [seen_cons_of_hidden _ hkeyHidden]
    · rfl
  | table key =>
    have hkeyHidden : hidden owner names key = true := h
    simp only [outcome, passBy, Draft.settle, Draft.leaveOut, hsame, seen_append,
      seen_cons_of_hidden _ hkeyHidden]
    rfl
  | array key =>
    have hkeyHidden : hidden owner names key = true := h
    simp only [outcome, passBy, Draft.settle, Draft.leaveOut, hsame, seen_append,
      seen_cons_of_hidden _ hkeyHidden, seen_keysOutside_of_hidden _ hkeyHidden]
    rfl

/-! ## Several statements -/

theorem header_eq_of_alike {d d' : Draft} (h : d.leaveOut owner names = d'.leaveOut owner names) :
    d.header = d'.header := by
  injection h

/-- **One statement on two documents that look alike.** -/
theorem apply_alike {s : Statement} (hkey : s.key ≠ []) {d d' e e' : Draft}
    (halike : d.leaveOut owner names = d'.leaveOut owner names) (hheader : d.header ≠ [])
    {t t' : Table} (ht : d.root.get? owner = some (.table t))
    (ht' : d'.root.get? owner = some (.table t')) (h : s.apply d = .ok e) (h' : s.apply d' = .ok e') :
    e.leaveOut owner names = e'.leaveOut owner names := by
  have hsame : d.header = d'.header := header_eq_of_alike halike
  by_cases hplace : hidden owner names (s.place d.header) = true
  · have hleft := Statement.leaveOut_of_hidden hkey hheader ht hplace h
    have hright := Statement.leaveOut_of_hidden hkey (hsame ▸ hheader) ht' (hsame ▸ hplace) h'
    rw [hleft, hright, halike]
  · rw [Bool.not_eq_true] at hplace
    have hleft := Statement.apply_leaveOut hkey hplace (.inl (by rw [ht]; rfl))
    have hright := Statement.apply_leaveOut hkey (hsame ▸ hplace) (.inl (by rw [ht']; rfl))
    rw [← halike, hleft, h, h'] at hright
    exact Except.ok.inj hright

/-- **Documents that look alike look alike behind the same statements.** -/
theorem enact_alike {ss : List Statement} (hkeys : ∀ s ∈ ss, s.key ≠ []) {d d' e e' : Draft}
    (halike : d.leaveOut owner names = d'.leaveOut owner names) (hheader : d.header ≠ [])
    {t t' : Table} (ht : d.root.get? owner = some (.table t))
    (ht' : d'.root.get? owner = some (.table t')) (h : enact ss d = .ok e) (h' : enact ss d' = .ok e') :
    e.leaveOut owner names = e'.leaveOut owner names := by
  induction ss generalizing d d' t t' with
  | nil => rwa [← Except.ok.inj h, ← Except.ok.inj h']
  | cons s ss ih =>
    have hkey : s.key ≠ [] := hkeys s (by simp)
    obtain ⟨f, hs, hss⟩ := enact_cons.mp h
    obtain ⟨f', hs', hss'⟩ := enact_cons.mp h'
    obtain ⟨t₁, ht₁, -⟩ := apply_within hkey hs ht
    obtain ⟨t₂, ht₂, -⟩ := apply_within hkey hs' ht'
    have hheader' : f.header ≠ [] := by
      rw [Statement.apply_header hkey hs]
      cases s with
      | entry key value => exact hheader
      | table key => exact hkey
      | array key => exact hkey
    exact ih (fun s hs => hkeys s (by simp [hs])) (apply_alike hkey halike hheader ht ht' hs hs')
      hheader' ht₁ ht₂ hss hss'

/-- Whether statements below a header are about other things than the names. -/
def Apart (owner : Text) (names : List Text) : Key → List Statement → Prop
  | _, [] => True
  | header, s :: ss => s.Apart owner names header ∧ Apart owner names (s.nextHeader header) ss

/-- **Statements elsewhere and leaving out may change places.** -/
theorem enact_leaveOut {ss : List Statement} (hkeys : ∀ s ∈ ss, s.key ≠ []) {d : Draft}
    (h : Apart owner names d.header ss) :
    enact ss (d.leaveOut owner names) = (enact ss d).map (Draft.leaveOut owner names) := by
  induction ss generalizing d with
  | nil => rfl
  | cons s ss ih =>
    have hkey : s.key ≠ [] := hkeys s (by simp)
    have hs : s.apply (d.leaveOut owner names) = (s.apply d).map (Draft.leaveOut owner names) :=
      Statement.apply_leaveOut hkey h.1.elsewhere (.inr h.1)
    show (s.apply (d.leaveOut owner names)).bind (enact ss)
      = ((s.apply d).bind (enact ss)).map (Draft.leaveOut owner names)
    rw [hs]
    cases happly : s.apply d with
    | error e => rfl
    | ok e =>
      refine ih (fun s hs => hkeys s (by simp [hs])) ?_
      rw [Statement.apply_header hkey happly]
      exact h.2

/-- **Statements elsewhere give none of the names.** -/
theorem enact_clear {ss : List Statement} (hkeys : ∀ s ∈ ss, s.key ≠ []) {d e : Draft}
    (h : Apart owner names d.header ss) (hclear : d.leaveOut owner names = d)
    (henact : enact ss d = .ok e) : e.leaveOut owner names = e := by
  have hboth := enact_leaveOut hkeys h
  rw [hclear, henact] at hboth
  exact (Except.ok.inj hboth).symm

/-- **Statements elsewhere are carried out in both** of two documents that look alike. -/
theorem enact_apart {ss : List Statement} (hkeys : ∀ s ∈ ss, s.key ≠ []) {d d' e : Draft}
    (h : Apart owner names d.header ss) (halike : d.leaveOut owner names = d'.leaveOut owner names)
    (henact : enact ss d = .ok e) : ∃ e', enact ss d' = .ok e' := by
  have hleft := enact_leaveOut hkeys h
  have hheader : d.header = d'.header := header_eq_of_alike halike
  have hright := enact_leaveOut hkeys (hheader ▸ h)
  rw [halike, hright, henact] at hleft
  obtain ⟨e', he', -⟩ := map_eq_ok.mp hleft
  exact ⟨e', he'⟩

/-- A document that looks the same without the names has none of them. -/
theorem Draft.get?_eq_none {d : Draft} (h : d.leaveOut owner names = d) {t : Table}
    (ht : d.root.get? owner = some (.table t)) {name : Text} (hname : name ∈ names) :
    t.get? name = none := by
  have hroot : (d.leaveOut owner names).root = d.root := by rw [h]
  have hroot : d.root.leaveOut owner names = d.root := hroot
  have hget : (d.root.leaveOut owner names).get? owner
      = (d.root.get? owner).map (Value.without names) := d.root.get?_leaveOut_self
  rw [hroot, ht] at hget
  have hsame : t = t.without names := by simpa [Value.without] using hget
  rw [hsame]
  exact t.get?_without_of_mem hname

end

end CrateSync.Toml
