/-
# What the lines of a manifest say

The edit of a manifest looks at lines, a document is made of statements.  Here the lines are cut into parts
that are read for themselves, so that what the edit does to lines can be told of the statements.

* `Reads` : the statements of some lines read for themselves;
* `statements_blocks` : what lines say together;
* `Part` : a part of the package section of which the edit sees what it says;
* `Edited`, `remains_blocks` : what the edit does to the parts of a section;
* `Insertable`, `Insertable.exists_putIn` : where it puts new ones.
-/
import Mathlib.Data.List.Induction
import CrateSync.Proofs.Manifest.Rework
import CrateSync.Proofs.Toml.Entries

namespace CrateSync.Manifest

open Toml (Statement statements Entries notSetting)

/-! ## Lines read for themselves -/

theorem getLast?_joinPairs (t : Text) : (Text.joinPairs t).getLast? = t.getLast? := by
  fun_induction Text.joinPairs t with
  | case1 => rfl
  | case2 rest ih => simp [List.getLast?_cons, ih]
  | case3 c rest _ ih => simp [List.getLast?_cons, ih]

theorem joinPairs_append {t : Text} (h : t.getLast? ≠ some '\r') (u : Text) :
    Text.joinPairs (t ++ u) = Text.joinPairs t ++ Text.joinPairs u := by
  fun_induction Text.joinPairs t with
  | case1 => rfl
  | case2 rest ih =>
    have hrest : rest.getLast? ≠ some '\r' := by
      cases rest with
      | nil => simp
      | cons d rest => simpa [List.getLast?_cons] using h
    rw [List.cons_append, List.cons_append, Text.joinPairs, ih hrest]
    rfl
  | case3 c rest hne ih =>
    cases rest with
    | nil =>
      have hc : c ≠ '\r' := by simpa using h
      rw [List.singleton_append, Text.joinPairs.eq_3 _ _ (fun _ h => absurd h hc)]
      rfl
    | cons d rest =>
      have hrest : (d :: rest).getLast? ≠ some '\r' := by simpa [List.getLast?_cons] using h
      rw [List.cons_append, Text.joinPairs.eq_3 _ _ ?_, ih hrest]
      · rfl
      · rintro rest' rfl heq
        obtain ⟨rfl, -⟩ := List.cons.inj heq
        exact hne rest rfl rfl

/-- The text without a line feed at its end. -/
def withoutFeed (t : Text) : Text :=
  if Text.endsLine t then t.dropLast else t

/-- What some lines say that are read for themselves.  They do not end inside of a line break. -/
structure Reads (t : Text) (ss : List Statement) : Prop where
  whole : t.getLast? ≠ some '\r'
  read : statements (withoutFeed (Text.joinPairs t)) = .ok ss

theorem endsLine_iff {t : Text} : Text.endsLine t = true ↔ ∃ s, t = s ++ ['\n'] := by
  unfold Text.endsLine
  rw [beq_iff_eq, List.getLast?_eq_some_iff]

theorem endsLine_joinPairs (t : Text) : Text.endsLine (Text.joinPairs t) = Text.endsLine t := by
  unfold Text.endsLine
  rw [getLast?_joinPairs]

theorem Reads.nil {ss : List Statement} (h : Reads [] ss) : ss = [] :=
  (Except.ok.inj h.read).symm

theorem Reads.of_endsLine {t : Text} {ss : List Statement} (h : Reads t ss)
    (hend : Text.endsLine t = true) :
    ∃ s, Text.joinPairs t = s ++ ['\n'] ∧ statements s = .ok ss := by
  rw [← endsLine_joinPairs] at hend
  obtain ⟨s, hs⟩ := endsLine_iff.mp hend
  refine ⟨s, hs, ?_⟩
  have hread := h.read
  rw [withoutFeed, if_pos hend, hs, List.dropLast_concat] at hread
  exact hread

/-- Whether a text ends its line, if it has one. -/
def Closed (t : Text) : Prop :=
  t = [] ∨ Text.endsLine t = true

instance (t : Text) : Decidable (Closed t) :=
  inferInstanceAs (Decidable (t = [] ∨ Text.endsLine t = true))

/-- A text that has another behind it ends its line. -/
def Separate (ts : List Text) : Prop :=
  ts.Pairwise fun t u => u ≠ [] → Closed t

instance (ts : List Text) : Decidable (Separate ts) :=
  inferInstanceAs (Decidable (ts.Pairwise fun t u => u ≠ [] → Closed t))

theorem Separate.append {ts us : List Text} (hts : ∀ t ∈ ts, Closed t) (hus : Separate us) :
    Separate (ts ++ us) := by
  refine List.pairwise_append.mpr ⟨?_, hus, fun t ht u _ _ => hts t ht⟩
  exact List.pairwise_of_forall_mem_list fun t ht u _ _ => hts t ht

/-- Some lines and the statements that they say. -/
structure Block where
  lines : List Text
  content : List Statement

/-- The lines of a block as one text. -/
def Block.text (b : Block) : Text :=
  b.lines.flatten

/-- **What lines say together** is what their parts say one after the other. -/
theorem statements_blocks {bs : List Block} (hreads : ∀ b ∈ bs, Reads b.text b.content)
    (hsep : Separate (bs.map Block.text)) :
    statements (Text.joinPairs (bs.map Block.text).flatten) = .ok (bs.flatMap Block.content) := by
  induction bs with
  | nil => rfl
  | cons b bs ih =>
    obtain ⟨hfirst, hrest⟩ := List.pairwise_cons.mp hsep
    have hb : Reads b.text b.content := hreads b (by simp)
    have hbs := ih (fun b hb => hreads b (by simp [hb])) hrest
    rw [List.map_cons, List.flatten_cons, List.flatMap_cons, joinPairs_append hb.whole]
    by_cases hend : Text.endsLine b.text = true
    · obtain ⟨s, hs, hread⟩ := hb.of_endsLine hend
      rw [hs, List.append_assoc, List.singleton_append]
      exact Toml.statements_append hread hbs
    by_cases hnil : b.text = []
    · rw [hnil] at hb ⊢
      rw [hb.nil]
      exact hbs
    · -- nothing stands behind a line that is not ended
      have hflat : (bs.map Block.text).flatten = [] := by
        rw [List.flatten_eq_nil_iff]
        intro u hu
        by_contra hne
        rcases hfirst u hu hne with h | h
        · exact hnil h
        · exact hend h
      rw [hflat] at hbs ⊢
      have hread := hb.read
      rw [withoutFeed, endsLine_joinPairs, if_neg hend] at hread
      rw [← Except.ok.inj hbs, List.append_nil, ← hread]
      exact congrArg statements (List.append_nil _)

/-! ## Lines that the edit writes -/

/-- What may be the end of a line that the edit writes. -/
def IsNewline (newline : Text) : Prop :=
  newline = ['\n'] ∨ newline = ['\r', '\n']

theorem Layout.isNewline (l : Layout) : IsNewline l.newline := by
  unfold Layout.newline
  split_ifs
  · exact Or.inr rfl
  · exact Or.inl rfl

/-- **A line that the edit writes** is an entry with the value that goes with its key. -/
theorem reads_entryLine {mode : LicenseMode} {entry : Text × Setting} (h : entry ∈ desired mode)
    {ending : Text} (hending : ending = [] ∨ IsNewline ending) :
    Reads (entryLine entry.1 entry.2 ending) [.entry [entry.1] entry.2.value] := by
  cases mode with
  | permissive =>
    obtain rfl := List.mem_singleton.mp h
    rcases hending with rfl | rfl | rfl <;> exact ⟨by decide, by cbv⟩
  | proprietary =>
    rcases List.mem_cons.mp h with rfl | h
    · rcases hending with rfl | rfl | rfl <;> exact ⟨by decide, by cbv⟩
    · obtain rfl := List.mem_singleton.mp h
      rcases hending with rfl | rfl | rfl <;> exact ⟨by decide, by cbv⟩

/-! ## The parts of a section -/

theorem managedKey?_mem {mode : LicenseMode} {line key : Text} (h : managedKey? mode line = some key) :
    key ∈ managed mode :=
  List.mem_of_find?_eq_some h

theorem managedKey?_nil (mode : LicenseMode) : managedKey? mode [] = none := by
  cases mode <;> rfl

/-- A part of a section of which the edit sees what it says: a line that sets a managed key and is one
entry under this key; or lines that set none, with entries at other keys than some names, of which the last
is not blank if they are several. -/
inductive Part (mode : LicenseMode) (names : List Text) : Block → Prop
  | managed (line key : Text) (rest : Toml.Key) (value : Toml.Value)
      (h : managedKey? mode line = some key) (hr : Reads line [.entry (key :: rest) value]) :
      Part mode names ⟨[line], [.entry (key :: rest) value]⟩
  | other (front : List Text) (last : Text) (content : List Statement)
      (h : ∀ line ∈ front ++ [last], managedKey? mode line = none)
      (hlast : front = [] ∨ Text.allBlank last = false)
      (hr : Reads (front ++ [last]).flatten content) (he : Entries content)
      (hn : ∀ s ∈ content, s.sets names = false) : Part mode names ⟨front ++ [last], content⟩

section

variable {mode : LicenseMode} {package : Toml.Table} {newline : Text} {names : List Text}

/-- What sets none of some names sets none of fewer. -/
theorem sets_of_subset {more : List Text} (hsub : ∀ name ∈ names, name ∈ more) {s : Statement}
    (h : s.sets more = false) : s.sets names = false := by
  unfold Statement.sets at h ⊢
  split
  · rename_i name key heq
    rw [heq] at h
    by_contra hmem
    have hin : name ∈ names := by simpa using hmem
    simp [hsub name hin] at h
  · rfl

theorem Part.mono {more : List Text} (hsub : ∀ name ∈ names, name ∈ more) {b : Block}
    (h : Part mode more b) : Part mode names b := by
  cases h with
  | managed line key rest value h hr => exact .managed line key rest value h hr
  | other front last content h hlast hr he hn =>
    exact .other front last content h hlast hr he fun s hs => sets_of_subset hsub (hn s hs)

theorem Part.reads {b : Block} (h : Part mode names b) : Reads b.text b.content := by
  cases h with
  | managed line key rest value h hr =>
    rw [Block.text, List.flatten_singleton]
    exact hr
  | other front last content h hlast hr => exact hr

theorem Part.entries {b : Block} (h : Part mode names b) : Entries b.content := by
  cases h with
  | managed line key rest value =>
    intro s hs
    rw [List.mem_singleton.mp hs]
    exact ⟨rfl, by simp [Statement.key]⟩
  | other front last content h hlast hr he => exact he

theorem Part.lines {b : Block} (h : Part mode names b) :
    ∃ front last, b.lines = front ++ [last] ∧ (front = [] ∨ Text.allBlank last = false) := by
  cases h with
  | managed line key rest value => exact ⟨[], line, rfl, Or.inl rfl⟩
  | other front last content h hlast => exact ⟨front, last, rfl, hlast⟩

theorem entries_flatMap {bs : List Block} (h : ∀ b ∈ bs, Entries b.content) :
    Entries (bs.flatMap Block.content) := by
  intro s hs
  obtain ⟨b, hb, hs⟩ := List.mem_flatMap.mp hs
  exact h b hb s hs

/-- The managed keys that statements set, one after the other. -/
def setKeys (mode : LicenseMode) (ss : List Statement) : List Text :=
  (ss.filter (Statement.sets (managed mode))).filterMap fun s => s.key.head?

theorem setKeys_append (ss us : List Statement) :
    setKeys mode (ss ++ us) = setKeys mode ss ++ setKeys mode us := by
  simp [setKeys]

theorem setKeys_eq_nil {ss : List Statement} (h : ∀ s ∈ ss, s.sets (managed mode) = false) :
    setKeys mode ss = [] := by
  have hnone : ss.filter (Statement.sets (managed mode)) = [] := by
    rw [List.filter_eq_nil_iff]
    intro s hs
    simp [h s hs]
  rw [setKeys, hnone]
  rfl

theorem setKeys_entry {key : Text} {rest : Toml.Key} {value : Toml.Value} (h : key ∈ managed mode) :
    setKeys mode [.entry (key :: rest) value] = [key] := by
  have hsets : (Statement.entry (key :: rest) value).sets (managed mode) = true := by
    simpa [Statement.sets, Statement.key] using h
  rw [setKeys, List.filter_cons_of_pos hsets]
  rfl

theorem Part.setKeys_eq (hnames : ∀ key ∈ Manifest.managed mode, key ∈ names) {b : Block}
    (h : Part mode names b) :
    setKeys mode b.content = b.lines.filterMap (managedKey? mode) := by
  cases h with
  | managed line key rest value h =>
    rw [setKeys_entry (managedKey?_mem h), List.filterMap_cons_some h]
    rfl
  | other front last content h hlast hr he hn =>
    have hlines : (front ++ [last]).filterMap (managedKey? mode) = [] :=
      List.filterMap_eq_nil_iff.mpr h
    rw [hlines]
    exact setKeys_eq_nil fun s hs => sets_of_subset hnames (hn s hs)

/-! ## What the edit does to the parts -/

/-- What becomes of the parts of a section: parts without managed keys stay; a line that sets one goes, or
stays as the package has the value, or is written anew. -/
inductive Edited (mode : LicenseMode) (package : Toml.Table) (newline : Text) :
    List Block → List Block → Prop
  | nil : Edited mode package newline [] []
  | stays (b : Block) {bs bs' : List Block} (h : ∀ line ∈ b.lines, managedKey? mode line = none)
      (hr : Edited mode package newline bs bs') : Edited mode package newline (b :: bs) (b :: bs')
  | goes (line key : Text) (rest : Toml.Key) (value : Toml.Value) {bs bs' : List Block}
      (h : managedKey? mode line = some key) (hr : Edited mode package newline bs bs') :
      Edited mode package newline (⟨[line], [.entry (key :: rest) value]⟩ :: bs) bs'
  | right (line key : Text) (rest : Toml.Key) (value : Toml.Value) (s : Setting) {bs bs' : List Block}
      (h : managedKey? mode line = some key) (hs : setting? mode key = some s)
      (ha : Agrees package key s) (hr : Edited mode package newline bs bs') :
      Edited mode package newline (⟨[line], [.entry (key :: rest) value]⟩ :: bs)
        (⟨[line], [.entry (key :: rest) value]⟩ :: bs')
  | written (line key : Text) (rest : Toml.Key) (value : Toml.Value) (s : Setting) {bs bs' : List Block}
      (h : managedKey? mode line = some key) (hs : setting? mode key = some s)
      (hr : Edited mode package newline bs bs') :
      Edited mode package newline (⟨[line], [.entry (key :: rest) value]⟩ :: bs)
        (⟨[entryLine key s (if Text.endsLine line then newline else [])],
          [.entry [key] s.value]⟩ :: bs')

/-- Lines that set no managed key remain. -/
theorem Remains.of_append {earlier lines rest kept : List Text}
    (hlines : ∀ line ∈ lines, managedKey? mode line = none)
    (h : Remains mode package newline earlier (lines ++ rest) kept) :
    ∃ kept', kept = lines ++ kept' ∧ Remains mode package newline (earlier ++ lines) rest kept' := by
  induction lines generalizing earlier kept with
  | nil => exact ⟨kept, rfl, by rwa [List.append_nil]⟩
  | cons line lines ih =>
    have hline := hlines line (by simp)
    cases h with
    | cons hb hr =>
      obtain ⟨kept', rfl, hr'⟩ := ih (fun l hl => hlines l (by simp [hl])) hr
      cases hb with
      | other => exact ⟨kept', rfl, by rwa [List.append_cons]⟩
      | stale key h => simp [hline] at h
      | repeated key h => simp [hline] at h
      | right key s h => exact absurd h.sets (by simp [hline])
      | written key s h => exact absurd h.sets (by simp [hline])

theorem remains_blocks {bs : List Block} (hparts : ∀ b ∈ bs, Part mode names b)
    {earlier kept : List Text} (h : Remains mode package newline earlier (bs.flatMap Block.lines) kept) :
    ∃ bs', kept = bs'.flatMap Block.lines ∧ Edited mode package newline bs bs' := by
  induction bs generalizing earlier kept with
  | nil =>
    cases h with
    | nil => exact ⟨[], rfl, .nil⟩
  | cons b bs ih =>
    have hrest : ∀ b ∈ bs, Part mode names b := fun c hc => hparts c (by simp [hc])
    rw [List.flatMap_cons] at h
    cases hparts b (by simp) with
    | other front last content hnone =>
      obtain ⟨kept', rfl, hr⟩ := h.of_append hnone
      obtain ⟨bs', rfl, he⟩ := ih hrest hr
      exact ⟨_ :: bs', rfl, .stays _ hnone he⟩
    | managed line key rest value hkey =>
      cases h with
      | cons hb hr =>
        obtain ⟨bs', rfl, he⟩ := ih hrest hr
        cases hb with
        | other h => simp [hkey] at h
        | stale => exact ⟨bs', rfl, .goes line key rest value hkey he⟩
        | repeated => exact ⟨bs', rfl, .goes line key rest value hkey he⟩
        | right key' s h hs ha =>
          obtain rfl : key = key' := Option.some.inj (hkey.symm.trans h.sets)
          exact ⟨_ :: bs', rfl, .right line key rest value s hkey hs ha he⟩
        | written key' s h hs =>
          obtain rfl : key = key' := Option.some.inj (hkey.symm.trans h.sets)
          exact ⟨_ :: bs', rfl, .written line key rest value s hkey hs he⟩

/-- Where the parts of the edited section come from: they were there before, or are lines that are written
anew. -/
theorem Edited.origin {bs bs' : List Block} (h : Edited mode package newline bs bs') :
    ∀ b ∈ bs', b ∈ bs ∨ ∃ entry ∈ desired mode, ∃ ending, (ending = [] ∨ ending = newline)
      ∧ b = ⟨[entryLine entry.1 entry.2 ending], [.entry [entry.1] entry.2.value]⟩ := by
  induction h with
  | nil => simp
  | stays b h hr ih =>
    intro c hc
    rcases List.mem_cons.mp hc with rfl | hc
    · exact Or.inl (by simp)
    · exact (ih c hc).imp_left (List.mem_cons_of_mem _)
  | goes line key rest value h hr ih =>
    intro c hc
    exact (ih c hc).imp_left (List.mem_cons_of_mem _)
  | right line key rest value s h hs ha hr ih =>
    intro c hc
    rcases List.mem_cons.mp hc with rfl | hc
    · exact Or.inl (by simp)
    · exact (ih c hc).imp_left (List.mem_cons_of_mem _)
  | written line key rest value s h hs hr ih =>
    intro c hc
    rcases List.mem_cons.mp hc with rfl | hc
    · refine Or.inr ⟨(key, s), mem_desired_of_setting? hs, _, ?_, rfl⟩
      split_ifs
      · exact Or.inr rfl
      · exact Or.inl rfl
    · exact (ih c hc).imp_left (List.mem_cons_of_mem _)

theorem setting?_of_mem {entry : Text × Setting} (h : entry ∈ desired mode) :
    setting? mode entry.1 = some entry.2 := by
  revert entry
  cases mode <;> decide

/-- A line that the edit writes is a part of the section. -/
theorem part_entryLine {entry : Text × Setting} (h : entry ∈ desired mode) {ending : Text}
    (hending : ending = [] ∨ IsNewline ending) :
    Part mode names ⟨[entryLine entry.1 entry.2 ending], [.entry [entry.1] entry.2.value]⟩ :=
  .managed _ entry.1 [] _ (managedKey?_entryLine _ (setting?_of_mem h)) (reads_entryLine h hending)

theorem Edited.parts {bs bs' : List Block} (h : Edited mode package newline bs bs')
    (hnewline : IsNewline newline) (hparts : ∀ b ∈ bs, Part mode names b) :
    ∀ b ∈ bs', Part mode names b := by
  intro b hb
  rcases h.origin b hb with hold | ⟨entry, hentry, ending, hending, rfl⟩
  · exact hparts b hold
  · refine part_entryLine hentry (hending.imp_right ?_)
    rintro rfl
    exact hnewline

/-! ## What the edited parts say -/

theorem notSetting_append (ss us : List Statement) :
    notSetting names (ss ++ us) = notSetting names ss ++ notSetting names us :=
  List.filter_append ss us

theorem notSetting_entry {key : Text} (h : key ∈ names) (rest : Toml.Key) (value : Toml.Value) :
    notSetting names [.entry (key :: rest) value] = [] := by
  simp [notSetting, Statement.sets, Statement.key, h]

/-- **The entries at other keys stay** as they are, in their order. -/
theorem Edited.others {bs bs' : List Block} (h : Edited mode package newline bs bs') :
    notSetting (managed mode) (bs'.flatMap Block.content)
      = notSetting (managed mode) (bs.flatMap Block.content) := by
  induction h with
  | nil => rfl
  | stays b h hr ih => rw [List.flatMap_cons, List.flatMap_cons, notSetting_append, notSetting_append, ih]
  | goes line key rest value h hr ih =>
    rw [List.flatMap_cons, notSetting_append, notSetting_entry (managedKey?_mem h), ih]
    rfl
  | right line key rest value s h hs ha hr ih =>
    rw [List.flatMap_cons, List.flatMap_cons, notSetting_append, notSetting_append, ih]
  | written line key rest value s h hs hr ih =>
    rw [List.flatMap_cons, List.flatMap_cons, notSetting_append, notSetting_append, ih,
      notSetting_entry (managedKey?_mem h), notSetting_entry (managedKey?_mem h)]

/-- What the edited section says of a desired entry: its setting, or what a line says that stays as the
package agrees with the setting. -/
def SaysRight (package : Toml.Table) (before : List Statement) (entry : Text × Setting) (s : Statement) :
    Prop :=
  s = .entry [entry.1] entry.2.value
    ∨ ∃ key value, s = .entry (entry.1 :: key) value ∧ s ∈ before ∧ Agrees package entry.1 entry.2

theorem SaysRight.key {before : List Statement} {entry : Text × Setting} {s : Statement}
    (h : SaysRight package before entry s) : s.key.head? = some entry.1 := by
  obtain rfl | ⟨key, value, rfl, -⟩ := h
  · rfl
  · rfl

theorem SaysRight.mono {before more : List Statement} (hsub : before ⊆ more) {entry : Text × Setting}
    {s : Statement} (h : SaysRight package before entry s) : SaysRight package more entry s := by
  obtain hs | ⟨key, value, hs, hmem, ha⟩ := h
  · exact Or.inl hs
  · exact Or.inr ⟨key, value, hs, hsub hmem, ha⟩

/-- A part of the edited section: one that sets no managed key and was there before, or a line that sets
one and says what is right. -/
inductive FromEdit (mode : LicenseMode) (package : Toml.Table) (before : List Block) : Block → Prop
  | old (b : Block) (h : ∀ line ∈ b.lines, managedKey? mode line = none) (hb : b ∈ before) :
      FromEdit mode package before b
  | right (line : Text) (entry : Text × Setting) (s : Statement)
      (h : managedKey? mode line = some entry.1) (hd : entry ∈ desired mode)
      (hs : SaysRight package (before.flatMap Block.content) entry s) :
      FromEdit mode package before ⟨[line], [s]⟩

theorem FromEdit.mono {before more : List Block} (hsub : before ⊆ more) {b : Block}
    (h : FromEdit mode package before b) : FromEdit mode package more b := by
  cases h with
  | old b h hb => exact .old b h (hsub hb)
  | right line entry s h hd hs =>
    refine .right line entry s h hd (hs.mono fun s hs => ?_)
    obtain ⟨c, hc, hs⟩ := List.mem_flatMap.mp hs
    exact List.mem_flatMap.mpr ⟨c, hsub hc, hs⟩

/-- **The lines of the edited section that set managed keys say what is right.** -/
theorem Edited.fromEdit {bs bs' : List Block} (h : Edited mode package newline bs bs') :
    ∀ b ∈ bs', FromEdit mode package bs b := by
  induction h with
  | nil => simp
  | stays b h hr ih =>
    intro c hc
    rcases List.mem_cons.mp hc with rfl | hc
    · exact .old c h (by simp)
    · exact (ih c hc).mono (List.subset_cons_self _ _)
  | goes line key rest value h hr ih =>
    intro c hc
    exact (ih c hc).mono (List.subset_cons_self _ _)
  | right line key rest value s h hs ha hr ih =>
    intro c hc
    rcases List.mem_cons.mp hc with rfl | hc
    · exact .right line (key, s) _ h (mem_desired_of_setting? hs)
        (Or.inr ⟨rest, value, rfl, by simp, ha⟩)
    · exact (ih c hc).mono (List.subset_cons_self _ _)
  | written line key rest value s h hs hr ih =>
    intro c hc
    rcases List.mem_cons.mp hc with rfl | hc
    · exact .right _ (key, s) _ (managedKey?_entryLine _ hs) (mem_desired_of_setting? hs) (Or.inl rfl)
    · exact (ih c hc).mono (List.subset_cons_self _ _)

/-! ## Where lines end -/

/-- Texts that may stand in place of others: each ends its line, and there is one that is not empty only if
there was before. -/
structure StandsFor (us us' : List Text) : Prop where
  separate : Separate us'
  some : (∃ u ∈ us', u ≠ []) → ∃ u ∈ us, u ≠ []

theorem StandsFor.append {ts us us' : List Text} (h : Separate (ts ++ us)) (hus : StandsFor us us') :
    Separate (ts ++ us') := by
  obtain ⟨hts, -, hcross⟩ := List.pairwise_append.mp h
  refine List.pairwise_append.mpr ⟨hts, hus.separate, fun t ht u hu hne => ?_⟩
  obtain ⟨u₀, hu₀, hne₀⟩ := hus.some ⟨u, hu, hne⟩
  exact hcross t ht u₀ hu₀ hne₀

theorem StandsFor.cons {t t' : Text} {us us' : List Text} (h : Separate (t :: us))
    (hus : StandsFor us us') (hclosed : Closed t → Closed t') (hne : t ≠ []) :
    StandsFor (t :: us) (t' :: us') := by
  constructor
  · refine List.pairwise_cons.mpr ⟨fun u hu hne => hclosed ?_, hus.separate⟩
    obtain ⟨u₀, hu₀, hne₀⟩ := hus.some ⟨u, hu, hne⟩
    exact (List.pairwise_cons.mp h).1 u₀ hu₀ hne₀
  · intro _
    exact ⟨t, by simp, hne⟩

theorem StandsFor.cons_same {t : Text} {us us' : List Text} (h : Separate (t :: us))
    (hus : StandsFor us us') : StandsFor (t :: us) (t :: us') := by
  have hsep : Separate ([t] ++ us') := StandsFor.append h hus
  refine ⟨hsep, ?_⟩
  rintro ⟨u, hu, hne⟩
  rcases List.mem_cons.mp hu with rfl | hu
  · exact ⟨u, by simp, hne⟩
  · obtain ⟨u₀, hu₀, hne₀⟩ := hus.some ⟨u, hu, hne⟩
    exact ⟨u₀, by simp [hu₀], hne₀⟩

theorem endsLine_append (t : Text) {u : Text} (hu : u ≠ []) :
    Text.endsLine (t ++ u) = Text.endsLine u := by
  unfold Text.endsLine
  rw [List.getLast?_append_of_ne_nil t hu]

theorem endsLine_append_newline (hnewline : IsNewline newline) (t : Text) :
    Text.endsLine (t ++ newline) = true := by
  rcases hnewline with rfl | rfl
  · exact endsLine_append t (by simp)
  · exact endsLine_append t (by simp)

theorem endsLine_ended (hnewline : IsNewline newline) (t : Text) :
    Text.endsLine (ended newline t) = true := by
  unfold ended
  split_ifs with h
  · exact h
  · exact endsLine_append_newline hnewline t

/-- Lines say the same when the last is ended. -/
theorem Reads.ended {t : Text} {ss : List Statement} (h : Reads t ss) (hnewline : IsNewline newline) :
    Reads (ended newline t) ss := by
  unfold Manifest.ended
  by_cases hend : Text.endsLine t = true
  · rwa [if_pos hend]
  rw [if_neg hend]
  have hread := h.read
  rw [withoutFeed, endsLine_joinPairs, if_neg hend] at hread
  constructor
  · have hlast := endsLine_append_newline hnewline t
    unfold Text.endsLine at hlast
    rw [beq_iff_eq] at hlast
    rw [hlast]
    decide
  · have hjoin : Text.joinPairs (t ++ newline) = Text.joinPairs t ++ ['\n'] := by
      rw [joinPairs_append h.whole]
      rcases hnewline with rfl | rfl <;> rfl
    have hclosed : Text.endsLine (Text.joinPairs t ++ ['\n']) = true := endsLine_iff.mpr ⟨_, rfl⟩
    rw [hjoin, withoutFeed, if_pos hclosed, List.dropLast_concat]
    exact hread

/-- **The lines of the edited section end** where those of the section did. -/
theorem Edited.standsFor {bs bs' : List Block} (h : Edited mode package newline bs bs')
    (hnewline : IsNewline newline) {rest : List Text} (hsep : Separate (bs.map Block.text ++ rest)) :
    StandsFor (bs.map Block.text ++ rest) (bs'.map Block.text ++ rest) := by
  induction h with
  | nil => exact ⟨hsep, id⟩
  | stays b h hr ih => exact .cons_same hsep (ih (List.pairwise_cons.mp hsep).2)
  | goes line key tail value h hr ih =>
    have hrest := ih (List.pairwise_cons.mp hsep).2
    refine ⟨hrest.separate, fun hsome => ?_⟩
    obtain ⟨u, hu, hne⟩ := hrest.some hsome
    exact ⟨u, List.mem_cons_of_mem _ hu, hne⟩
  | right line key tail value s h hs ha hr ih => exact .cons_same hsep (ih (List.pairwise_cons.mp hsep).2)
  | written line key tail value s h hs hr ih =>
    have hline : line ≠ [] := by
      rintro rfl
      simp [managedKey?_nil] at h
    refine .cons hsep (ih (List.pairwise_cons.mp hsep).2) ?_ (by simpa [Block.text] using hline)
    rintro (hnil | hend)
    · exact absurd hnil (by simpa [Block.text] using hline)
    · right
      rw [Block.text, List.flatten_singleton] at hend ⊢
      rw [if_pos hend]
      exact endsLine_append_newline hnewline _

/-! ## Where new parts are put -/

/-- A block of which the last line is ended. -/
theorem flatten_ended {front : List Text} {last : Text} (hlast : last ≠ []) :
    (front ++ [ended newline last]).flatten = ended newline (front ++ [last]).flatten := by
  have hend : Text.endsLine (front ++ [last]).flatten = Text.endsLine last := by
    rw [List.flatten_append, List.flatten_singleton]
    exact endsLine_append _ hlast
  rw [List.flatten_append, List.flatten_singleton]
  unfold ended
  rw [hend]
  split_ifs
  · rw [List.flatten_append, List.flatten_singleton]
  · rw [List.flatten_append, List.flatten_singleton, List.append_assoc]

/-- The last line that is not blank ends a block, and all lines behind it are blocks. -/
theorem split_blocks {bs : List Block}
    (hparts : ∀ b ∈ bs, ∃ front last, b.lines = front ++ [last]
      ∧ (front = [] ∨ Text.allBlank last = false))
    {front blanks : List Text} {last : Text}
    (h : bs.flatMap Block.lines = front ++ last :: blanks) (hlast : Text.allBlank last = false)
    (hblanks : ∀ line ∈ blanks, Text.allBlank line = true) :
    ∃ bs₁ b bs₂ inner, bs = bs₁ ++ b :: bs₂ ∧ b.lines = inner ++ [last]
      ∧ front = bs₁.flatMap Block.lines ++ inner ∧ blanks = bs₂.flatMap Block.lines := by
  induction bs using List.reverseRecOn generalizing blanks with
  | nil => exact absurd h (by simp)
  | append_singleton bs b ih =>
    obtain ⟨inner, final, hlines, hblank⟩ := hparts b (by simp)
    rw [List.flatMap_append, List.flatMap_singleton, hlines] at h
    rcases List.eq_nil_or_concat blanks with rfl | ⟨blanks', final', rfl⟩
    · -- the line is the last of the last block
      rw [← List.append_assoc] at h
      obtain ⟨hfront, hfinal⟩ := List.append_inj' h rfl
      obtain rfl := List.singleton_inj.mp hfinal
      exact ⟨bs, b, [], inner, rfl, hlines, hfront.symm, rfl⟩
    · -- the last block is one blank line
      have hcat : bs.flatMap Block.lines ++ inner ++ [final] = front ++ last :: blanks' ++ [final'] := by
        rw [List.append_assoc, h]
        simp
      obtain ⟨hfront, hfinal⟩ := List.append_inj' hcat rfl
      obtain rfl := List.singleton_inj.mp hfinal
      have hinner : inner = [] := by
        rcases hblank with hnil | hblank
        · exact hnil
        · rw [hblanks final (by simp)] at hblank
          exact absurd hblank (by simp)
      subst hinner
      rw [List.append_nil] at hfront
      obtain ⟨bs₁, c, bs₂, inner', rfl, hc, hf, hbl⟩ := ih (fun b hb => hparts b (by simp [hb])) hfront
        (fun line hline => hblanks line (by simp [hline]))
      refine ⟨bs₁, c, bs₂ ++ [b], inner', by simp, hc, hf, ?_⟩
      rw [List.flatMap_append, List.flatMap_singleton, hlines, ← hbl]
      simp

/-- A block `b` that is the block `c` with its last line ended. -/
structure EndedAs (newline : Text) (c b : Block) : Prop where
  text : b.text = ended newline c.text
  lines : ∃ front last, c.lines = front ++ [last] ∧ b.lines = front ++ [ended newline last]

/-- A section after new parts are put in: what they say stands between what the parts in front and behind
say, all else says what it said, and every line is ended that has another behind it. -/
structure PutIn (newline : Text) (bs news : List Block) (before after : List Text)
    (opening : List Statement) (header : Text) (body : List Text) (bs' : List Block) : Prop where
  lines : body = bs'.flatMap Block.lines
  origin : ∀ b ∈ bs', b ∈ bs ∨ b ∈ news ∨ ∃ c ∈ bs, EndedAs newline c b
  content : ∃ front rest, bs.flatMap Block.content = front ++ rest
    ∧ bs'.flatMap Block.content = front ++ (news.flatMap Block.content ++ rest)
  reads : ∀ b ∈ bs', Reads b.text b.content
  opened : Reads header opening
  separate : Separate (before ++ header :: (bs'.map Block.text ++ after))

/-- What is known where new parts are to be put into a section: all that stands there is read for itself, and
the new parts end their lines. -/
structure Insertable (bs news : List Block) (before after : List Text) (opening : List Statement)
    (header : Text) : Prop where
  reads : ∀ b ∈ bs, Reads b.text b.content
  news_reads : ∀ b ∈ news, Reads b.text b.content
  news_end : ∀ b ∈ news, Text.endsLine b.text = true
  header_reads : Reads header opening
  header_ne : header ≠ []
  separate : Separate (before ++ header :: (bs.map Block.text ++ after))

section

variable {bs bs₁ bs₂ news : List Block} {b b' : Block} {before after : List Text}
  {opening : List Statement} {header header' : Text} {body : List Text}

theorem Insertable.closed_before (h : Insertable bs news before after opening header) :
    ∀ t ∈ before, Closed t :=
  fun t ht => (List.pairwise_append.mp h.separate).2.2 t ht header (by simp) h.header_ne

theorem Insertable.closed_news (h : Insertable bs news before after opening header) :
    ∀ t ∈ news.map Block.text, Closed t := by
  intro t ht
  obtain ⟨b, hb, rfl⟩ := List.mem_map.mp ht
  exact Or.inr (h.news_end b hb)

theorem Insertable.section_separate (h : Insertable bs news before after opening header) :
    Separate (header :: (bs.map Block.text ++ after)) :=
  (List.pairwise_append.mp h.separate).2.1

/-- A part without lines would not end its line. -/
theorem Insertable.eq_nil (h : Insertable bs news before after opening header)
    (hnil : news.flatMap Block.lines = []) : news = [] := by
  by_contra hsome
  obtain ⟨b, news', rfl⟩ := List.exists_cons_of_ne_nil hsome
  have hend := h.news_end b (by simp)
  have hlines : b.lines = [] := List.flatMap_eq_nil_iff.mp hnil b (by simp)
  rw [Block.text, hlines] at hend
  exact absurd hend (by decide)

/-- Behind a part that is ended the new ones can stand: all texts up to them are ended. -/
theorem Insertable.separate_behind (h : Insertable (bs₁ ++ b :: bs₂) news before after opening header)
    (hnewline : IsNewline newline) (hne : b.text ≠ []) (hended : b'.text = ended newline b.text) :
    Separate (before ++ header :: ((bs₁ ++ b' :: (news ++ bs₂)).map Block.text ++ after)) := by
  obtain ⟨hfirst, hbody⟩ := List.pairwise_cons.mp h.section_separate
  have hfront : ∀ t ∈ bs₁.map Block.text, Closed t := by
    intro t ht
    rw [List.map_append, List.append_assoc] at hbody
    exact (List.pairwise_append.mp hbody).2.2 t ht b.text (by simp) hne
  have hrest : Separate (bs₂.map Block.text ++ after) := by
    refine hbody.sublist (List.Sublist.append (List.Sublist.map _ ?_) (List.Sublist.refl _))
    exact (List.sublist_cons_self b bs₂).trans (List.sublist_append_right bs₁ _)
  have hall : ∀ t ∈ before ++ header :: (bs₁.map Block.text ++ b'.text :: news.map Block.text),
      Closed t := by
    intro t ht
    rcases List.mem_append.mp ht with ht | ht
    · exact h.closed_before t ht
    rcases List.mem_cons.mp ht with rfl | ht
    · exact hfirst b.text (by simp) hne
    rcases List.mem_append.mp ht with ht | ht
    · exact hfront t ht
    rcases List.mem_cons.mp ht with rfl | ht
    · rw [hended]
      exact Or.inr (endsLine_ended hnewline _)
    · exact h.closed_news t ht
  simpa using Separate.append hall hrest

theorem Insertable.putIn_behind (h : Insertable (bs₁ ++ b :: bs₂) news before after opening header)
    (hnewline : IsNewline newline) (hne : b.text ≠ []) (hended : EndedAs newline b b')
    (hcontent : b'.content = b.content) :
    PutIn newline (bs₁ ++ b :: bs₂) news before after opening header
      ((bs₁ ++ b' :: (news ++ bs₂)).flatMap Block.lines) (bs₁ ++ b' :: (news ++ bs₂)) where
  lines := rfl
  origin := by
    intro c hc
    rcases List.mem_append.mp hc with hc | hc
    · exact Or.inl (by simp [hc])
    rcases List.mem_cons.mp hc with rfl | hc
    · exact Or.inr (Or.inr ⟨b, by simp, hended⟩)
    rcases List.mem_append.mp hc with hc | hc
    · exact Or.inr (Or.inl hc)
    · exact Or.inl (by simp [hc])
  content := ⟨bs₁.flatMap Block.content ++ b.content, bs₂.flatMap Block.content, by simp, by simp [hcontent]⟩
  reads := by
    intro c hc
    rcases List.mem_append.mp hc with hc | hc
    · exact h.reads c (by simp [hc])
    rcases List.mem_cons.mp hc with rfl | hc
    · rw [hended.text, hcontent]
      exact (h.reads b (by simp)).ended hnewline
    rcases List.mem_append.mp hc with hc | hc
    · exact h.news_reads c hc
    · exact h.reads c (by simp [hc])
  opened := h.header_reads
  separate := h.separate_behind hnewline hne hended.text

theorem Insertable.putIn_first (h : Insertable bs news before after opening header)
    (hnewline : IsNewline newline) :
    PutIn newline bs news before after opening (ended newline header)
      ((news ++ bs).flatMap Block.lines) (news ++ bs) where
  lines := rfl
  origin := fun _ hb => (List.mem_append.mp hb).elim (fun hb => Or.inr (Or.inl hb)) Or.inl
  content := ⟨[], bs.flatMap Block.content, rfl, by simp⟩
  reads := fun b hb => (List.mem_append.mp hb).elim (h.news_reads b) (h.reads b)
  opened := h.header_reads.ended hnewline
  separate := by
    have hall : ∀ t ∈ before ++ ended newline header :: news.map Block.text, Closed t := by
      intro t ht
      rcases List.mem_append.mp ht with ht | ht
      · exact h.closed_before t ht
      rcases List.mem_cons.mp ht with rfl | ht
      · exact Or.inr (endsLine_ended hnewline _)
      · exact h.closed_news t ht
    simpa using Separate.append hall (List.pairwise_cons.mp h.section_separate).2

/-- **New parts stand** behind the last line that is not blank, or behind the header. -/
theorem Insertable.exists_putIn (h : Insertable bs news before after opening header)
    (hnewline : IsNewline newline) (hparts : ∀ b ∈ bs, Part mode names b)
    (hinserted : Inserted newline header (bs.flatMap Block.lines) (news.flatMap Block.lines) header' body) :
    ∃ bs', PutIn newline bs news before after opening header' body bs' := by
  cases hinserted with
  | nothing hnil =>
    obtain rfl := h.eq_nil hnil
    exact ⟨bs, rfl, fun b hb => Or.inl hb, ⟨bs.flatMap Block.content, [], by simp, by simp⟩, h.reads,
      h.header_reads, h.separate⟩
  | behind front blanks last hnew hkept hlast hblanks =>
    -- the last line that is not blank ends a part, and of this part it is the last line that gets ended
    obtain ⟨bs₁, b, bs₂, inner, rfl, hb, rfl, rfl⟩ :=
      split_blocks (fun b hb => (hparts b hb).lines) hkept hlast hblanks
    have hlastNe : last ≠ [] := by
      rintro rfl
      exact absurd hlast (by decide)
    have hbNe : b.text ≠ [] := by
      rw [Block.text, hb, List.flatten_append, List.flatten_singleton]
      exact List.append_ne_nil_of_right_ne_nil _ hlastNe
    have hended : EndedAs newline b ⟨inner ++ [ended newline last], b.content⟩ := by
      refine ⟨?_, inner, last, hb, rfl⟩
      rw [Block.text, flatten_ended hlastNe, Block.text, hb]
    exact ⟨_, { h.putIn_behind hnewline hbNe hended rfl with lines := by simp }⟩
  | first hnew hblanks =>
    exact ⟨_, { h.putIn_first hnewline with lines := by simp }⟩

end

end

end CrateSync.Manifest
