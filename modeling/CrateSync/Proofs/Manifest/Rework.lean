/-
# What the edit does to the lines

The edit of a manifest keeps the lines around the package section.  Within the section it is told here
line by line what remains, without the state that the edit carries along: what becomes of a line
depends on it and on the lines in front of it alone.

* `setLicense_eq_ok` : an edit that succeeds, taken apart;
* `Becomes`, `Remains` : what becomes of a line, and of all lines of a section;
* `Inserted` : where the lines for the entries that no line sets are put;
* `Layout.Reworked` : the section before and after the edit;
* `edit_reworks_section` : a manifest that is edited is reworked in its package section only.
-/
import Mathlib.Data.List.Perm.Subperm
import Mathlib.Data.List.TakeWhile
import CrateSync.Manifest.Edit

namespace CrateSync.Manifest

/-! ## An edit taken apart -/

theorem readWith_eq_ok {fault : Toml.Cause → Toml.Place → Fault} {t : Text} {root : Toml.Table} :
    readWith fault t = .ok root ↔ Toml.parse t = .ok root := by
  unfold readWith
  rcases Toml.parse t with (_ | _) | found <;> simp

/-- **An edit that succeeds** reads the manifest, finds its package table and header, and gives nothing
if the edited text is the manifest, and otherwise the edited text, which is a document. -/
theorem setLicense_eq_ok {mode : LicenseMode} {manifest : Text} {result : Option Text} :
    setLicense mode manifest = .ok result ↔ ∃ root package layout,
      Toml.parse manifest = .ok root ∧ package? root = some package
        ∧ Layout.ofLines? (Text.lines manifest) = some layout
        ∧ (editedText mode package layout = manifest ∧ result = none
          ∨ editedText mode package layout ≠ manifest
            ∧ result = some (editedText mode package layout)
            ∧ ∃ root', Toml.parse (editedText mode package layout) = .ok root') := by
  unfold setLicense
  rcases hroot : readWith .notToml manifest with e | root
  · have hnone : ∀ root, Toml.parse manifest ≠ .ok root := fun root h => by
      have hread : readWith .notToml manifest = .ok root := readWith_eq_ok.mpr h
      rw [hread] at hroot
      exact absurd hroot (by simp)
    simp [bind, Except.bind, hnone]
  have hparse := readWith_eq_ok.mp hroot
  rcases hpackage : package? root with _ | package
  · simp [bind, Except.bind, hparse, hpackage]
  rcases hlayout : Layout.ofLines? (Text.lines manifest) with _ | layout
  · simp [bind, Except.bind, hparse, hpackage]
  by_cases hsame : editedText mode package layout = manifest
  · simp [bind, Except.bind, pure, Except.pure, hparse, hpackage, hsame, eq_comm]
  rcases hedited : readWith .brokenByEdit (editedText mode package layout) with e | root'
  · have hnone : ∀ root, Toml.parse (editedText mode package layout) ≠ .ok root := fun root h => by
      have hread : readWith .brokenByEdit (editedText mode package layout) = .ok root :=
        readWith_eq_ok.mpr h
      rw [hread] at hedited
      exact absurd hedited (by simp)
    simp [bind, Except.bind, hparse, hpackage, hsame, hedited, hnone]
  · have hparse' := readWith_eq_ok.mp hedited
    simp [bind, Except.bind, pure, Except.pure, hparse, hpackage, hsame, hedited, hparse',
      eq_comm (b := result)]

/-! ## Desired and managed keys -/

theorem setting?_isSome_iff {mode : LicenseMode} {key : Text} :
    (setting? mode key).isSome = true ↔ key ∈ (desired mode).map Prod.fst := by
  simp [setting?, List.find?_isSome, beq_iff_eq]

theorem mem_desired_of_setting? {mode : LicenseMode} {key : Text} {s : Setting}
    (h : setting? mode key = some s) : (key, s) ∈ desired mode := by
  obtain ⟨⟨key', s'⟩, hfind, rfl⟩ := Option.map_eq_some_iff.mp h
  obtain rfl : key' = key := by simpa using List.find?_some hfind
  exact List.mem_of_find?_eq_some hfind

theorem nodup_desired (mode : LicenseMode) : ((desired mode).map Prod.fst).Nodup := by
  cases mode <;> decide

/-- A line that the edit writes sets the key that it is written for. -/
theorem managedKey?_entryLine {mode : LicenseMode} {key : Text} {s s' : Setting} (ending : Text)
    (h : setting? mode key = some s') : managedKey? mode (entryLine key s ending) = some key := by
  have hk := setting?_isSome_iff.mp (by rw [h]; rfl)
  cases mode with
  | permissive =>
    obtain rfl : key = "license" := by simpa [desired] using hk
    rfl
  | proprietary =>
    obtain rfl | rfl : key = "license-file" ∨ key = "publish" := by simpa [desired] using hk
    · rfl
    · rfl

/-! ## What becomes of the lines -/

section

variable (mode : LicenseMode) (package : Toml.Table) (newline : Text)

/-- Whether the package has the value already that an entry is set to. -/
def Agrees (key : Text) (s : Setting) : Prop :=
  ((package.get? key).map s.agrees).getD false = true

/-- A line behind which the lines `earlier` stand is the first that sets a key. -/
structure IsFirst (earlier : List Text) (line key : Text) : Prop where
  sets : managedKey? mode line = some key
  first : ∀ l ∈ earlier, managedKey? mode l ≠ some key

/-- What becomes of a line in front of which the lines `earlier` stand.  A line that sets no managed key
stays.  The first line that sets a desired key stays if the package has the value, and is written anew
otherwise.  All others go. -/
inductive Becomes (earlier : List Text) (line : Text) : List Text → Prop
  | other (h : managedKey? mode line = none) : Becomes earlier line [line]
  | stale (key : Text) (h : managedKey? mode line = some key) (hs : setting? mode key = none) :
      Becomes earlier line []
  | repeated (key : Text) (h : managedKey? mode line = some key)
      (again : ∃ l ∈ earlier, managedKey? mode l = some key) : Becomes earlier line []
  | right (key : Text) (s : Setting) (h : IsFirst mode earlier line key)
      (hs : setting? mode key = some s) (ha : Agrees package key s) : Becomes earlier line [line]
  | written (key : Text) (s : Setting) (h : IsFirst mode earlier line key)
      (hs : setting? mode key = some s) (ha : ¬Agrees package key s) :
      Becomes earlier line [entryLine key s (if Text.endsLine line then newline else [])]

/-- What remains of the lines of a section behind the lines `earlier`. -/
inductive Remains : List Text → List Text → List Text → Prop
  | nil (earlier : List Text) : Remains earlier [] []
  | cons {earlier rest kept piece : List Text} {line : Text}
      (h : Becomes mode package newline earlier line piece)
      (hr : Remains (earlier ++ [line]) rest kept) : Remains earlier (line :: rest) (piece ++ kept)

/-- The desired entries that no line sets. -/
def absent (lines : List Text) : List (Text × Setting) :=
  (desired mode).filter fun entry => lines.all fun line => managedKey? mode line != some entry.1

end

section

variable {mode : LicenseMode} {package : Toml.Table} {newline : Text}

/-- The keys that are marked as present are those that the lines so far set. -/
def Marks (mode : LicenseMode) (present earlier : List Text) : Prop :=
  ∀ key, (setting? mode key).isSome = true →
    (key ∈ present ↔ ∃ l ∈ earlier, managedKey? mode l = some key)

theorem Marks.skip {present earlier : List Text} (h : Marks mode present earlier) {line : Text}
    (hline : ∀ key, (setting? mode key).isSome = true → managedKey? mode line = some key →
      key ∈ present) : Marks mode present (earlier ++ [line]) := by
  intro key hk
  rw [h key hk]
  constructor
  · rintro ⟨l, hl, hset⟩
    exact ⟨l, List.mem_append_left _ hl, hset⟩
  · rintro ⟨l, hl, hset⟩
    rcases List.mem_append.mp hl with hl | hl
    · exact ⟨l, hl, hset⟩
    · rw [List.mem_singleton.mp hl] at hset
      exact (h key hk).mp (hline key hk hset)

theorem Marks.mark {present earlier : List Text} (h : Marks mode present earlier) {line key : Text}
    (hline : managedKey? mode line = some key) : Marks mode (key :: present) (earlier ++ [line]) := by
  intro other hk
  rw [List.mem_cons, h other hk]
  constructor
  · rintro (rfl | ⟨l, hl, hset⟩)
    · exact ⟨line, by simp, hline⟩
    · exact ⟨l, List.mem_append_left _ hl, hset⟩
  · rintro ⟨l, hl, hset⟩
    rcases List.mem_append.mp hl with hl | hl
    · exact Or.inr ⟨l, hl, hset⟩
    · rw [List.mem_singleton.mp hl, hline] at hset
      exact Or.inl (Option.some.inj hset).symm

/-- **The state of the edit is told by the lines in front.**  What the edit leaves of a section is what
remains of its lines, and in the end the keys that they set are marked. -/
theorem remains_editBody (lines : List Text) {present earlier : List Text}
    (h : Marks mode present earlier) :
    Remains mode package newline earlier lines (editBody mode package newline present lines).1
      ∧ Marks mode (editBody mode package newline present lines).2 (earlier ++ lines) := by
  induction lines generalizing present earlier with
  | nil => exact ⟨.nil earlier, by rwa [List.append_nil]⟩
  | cons line rest ih =>
    rw [List.append_cons earlier line rest]
    unfold editBody
    rcases hkey : managedKey? mode line with _ | key
    · have hm : Marks mode present (earlier ++ [line]) :=
        h.skip fun key _ hset => by simp [hkey] at hset
      exact ⟨.cons (.other hkey) (ih hm).1, (ih hm).2⟩
    -- a stale or repeated line goes, and the marks stay as they are
    rcases hs : setting? mode key with _ | s
    · have hm : Marks mode present (earlier ++ [line]) := h.skip fun other hk hset => by
        rw [hkey, Option.some.injEq] at hset
        simp [← hset, hs] at hk
      have hgone : Becomes mode package newline earlier line [] := .stale key hkey hs
      simpa [hs] using And.intro (Remains.cons hgone (ih hm).1) (ih hm).2
    have hsome : (setting? mode key).isSome = true := by rw [hs]; rfl
    by_cases hp : key ∈ present
    · have hm : Marks mode present (earlier ++ [line]) := h.skip fun other _ hset => by
        rw [hkey, Option.some.injEq] at hset
        exact hset ▸ hp
      have hgone : Becomes mode package newline earlier line [] :=
        .repeated key hkey ((h key hsome).mp hp)
      simpa [hs, hp] using And.intro (Remains.cons hgone (ih hm).1) (ih hm).2
    -- the first line at a key stays or is written anew, and its key is marked
    have hm : Marks mode (key :: present) (earlier ++ [line]) := h.mark hkey
    have hfirst : IsFirst mode earlier line key :=
      ⟨hkey, fun l hl hset => hp ((h key hsome).mpr ⟨l, hl, hset⟩)⟩
    by_cases ha : Agrees package key s
    · have hkept : Becomes mode package newline earlier line [line] := .right key s hfirst hs ha
      unfold Agrees at ha
      simpa [hs, hp, ha] using And.intro (Remains.cons hkept (ih hm).1) (ih hm).2
    · have hkept : Becomes mode package newline earlier line
          [entryLine key s (if Text.endsLine line then newline else [])] :=
        .written key s hfirst hs ha
      unfold Agrees at ha
      simpa [hs, hp, ha] using And.intro (Remains.cons hkept (ih hm).1) (ih hm).2

/-! ## What all lines together keep -/

/-- **The lines that set no managed key stay in order.** -/
theorem Remains.others {earlier lines kept : List Text}
    (h : Remains mode package newline earlier lines kept) :
    kept.filter (fun line => (managedKey? mode line).isNone)
      = lines.filter fun line => (managedKey? mode line).isNone := by
  induction h with
  | nil => rfl
  | cons h _ ih =>
    rw [List.filter_append, ih]
    cases h with
    | other h => simp [h]
    | stale key h => simp [h]
    | repeated key h => simp [h]
    | right key s h => simp [h.sets]
    | written key s h hs => simp [h.sets, managedKey?_entryLine _ hs]

/-- The keys that are set by what becomes of a line: one at most, and then it is desired and the line is
the first that sets it. -/
theorem Becomes.keys {earlier piece : List Text} {line : Text}
    (h : Becomes mode package newline earlier line piece) :
    piece.filterMap (managedKey? mode) = [] ∧ (∀ key, (setting? mode key).isSome = true →
        IsFirst mode earlier line key → False)
      ∨ ∃ key, piece.filterMap (managedKey? mode) = [key] ∧ (setting? mode key).isSome = true
        ∧ IsFirst mode earlier line key := by
  cases h with
  | other h =>
    refine Or.inl ⟨by simp [h], fun key _ hf => ?_⟩
    simp [hf.sets] at h
  | stale key h hs =>
    refine Or.inl ⟨rfl, fun other ho hf => ?_⟩
    rw [hf.sets, Option.some.injEq] at h
    simp [h, hs] at ho
  | repeated key h again =>
    refine Or.inl ⟨rfl, fun other _ hf => ?_⟩
    obtain ⟨l, hl, hset⟩ := again
    rw [hf.sets, Option.some.injEq] at h
    exact hf.first l hl (h ▸ hset)
  | right key s h hs => exact Or.inr ⟨key, by simp [h.sets], by rw [hs]; rfl, h⟩
  | written key s h hs =>
    exact Or.inr ⟨key, by simp [managedKey?_entryLine _ hs], by rw [hs]; rfl, h⟩

/-- A line that does not set a key may be counted to those in front or to those behind. -/
theorem set_behind_iff {earlier rest : List Text} {line key : Text} (h : managedKey? mode line ≠ some key) :
    ((∀ l ∈ earlier ++ [line], managedKey? mode l ≠ some key)
        ∧ ∃ l ∈ rest, managedKey? mode l = some key)
      ↔ (∀ l ∈ earlier, managedKey? mode l ≠ some key)
        ∧ ∃ l ∈ line :: rest, managedKey? mode l = some key := by
  simp [or_imp, forall_and, h]

/-- **A key is set by what remains** exactly if it is desired and set by a line, and by none in front. -/
theorem Remains.mem_keys {earlier lines kept : List Text}
    (h : Remains mode package newline earlier lines kept) (key : Text) :
    key ∈ kept.filterMap (managedKey? mode) ↔ (setting? mode key).isSome = true
      ∧ (∀ l ∈ earlier, managedKey? mode l ≠ some key)
      ∧ ∃ l ∈ lines, managedKey? mode l = some key := by
  induction h with
  | nil => simp
  | @cons earlier rest kept piece line h _ ih =>
    rw [List.filterMap_append, List.mem_append, ih]
    by_cases hline : managedKey? mode line = some key
    · -- behind the line no other sets the key, and the line does if it is the first
      have hbehind : ¬∀ l ∈ earlier ++ [line], managedKey? mode l ≠ some key :=
        fun hall => hall line (by simp) hline
      rcases h.keys with ⟨hnone, hnot⟩ | ⟨first, hone, hsome, hfirst⟩
      · have hlater : ∀ hs : (setting? mode key).isSome = true,
            ¬∀ l ∈ earlier, managedKey? mode l ≠ some key := fun hs hall => hnot key hs ⟨hline, hall⟩
        rw [hnone]
        constructor
        · rintro (hk | ⟨-, hall, -⟩)
          · exact absurd hk (by simp)
          · exact absurd hall hbehind
        · exact fun ⟨hs, hall, _⟩ => absurd hall (hlater hs)
      · obtain rfl : first = key := Option.some.inj (hfirst.sets.symm.trans hline)
        rw [hone]
        exact ⟨fun _ => ⟨hsome, hfirst.first, line, List.mem_cons_self, hline⟩,
          fun _ => Or.inl (List.mem_singleton_self first)⟩
    · have hpiece : key ∉ piece.filterMap (managedKey? mode) := by
        rcases h.keys with ⟨hnone, -⟩ | ⟨first, hone, -, hfirst⟩
        · simp [hnone]
        · rw [hone, List.mem_singleton]
          rintro rfl
          exact hline hfirst.sets
      rw [set_behind_iff hline]
      exact or_iff_right hpiece

/-- **No key is set twice by what remains.** -/
theorem Remains.nodup_keys {earlier lines kept : List Text}
    (h : Remains mode package newline earlier lines kept) :
    (kept.filterMap (managedKey? mode)).Nodup := by
  induction h with
  | nil => simp
  | @cons earlier rest kept piece line h hr ih =>
    rw [List.filterMap_append]
    rcases h.keys with ⟨hnone, -⟩ | ⟨key, hone, -, hfirst⟩
    · rwa [hnone]
    · rw [hone, List.singleton_append, List.nodup_cons]
      refine ⟨fun hk => ?_, ih⟩
      -- the rest sets only keys that the lines in front of it do not
      exact ((hr.mem_keys key).mp hk).2.1 line (by simp) hfirst.sets

theorem mem_absent {lines : List Text} {entry : Text × Setting} :
    entry ∈ absent mode lines ↔ entry ∈ desired mode
      ∧ ∀ line ∈ lines, managedKey? mode line ≠ some entry.1 := by
  simp [absent]

/-- **Every desired key is set once**, by a line that remains or by one that is added. -/
theorem Remains.perm_desired {lines kept : List Text}
    (h : Remains mode package newline [] lines kept) :
    (kept.filterMap (managedKey? mode) ++ (absent mode lines).map Prod.fst).Perm
      ((desired mode).map Prod.fst) := by
  have hsub : ((absent mode lines).map Prod.fst).Sublist ((desired mode).map Prod.fst) :=
    List.filter_sublist.map _
  have hset : ∀ key, key ∈ (absent mode lines).map Prod.fst →
      ∀ line ∈ lines, managedKey? mode line ≠ some key := by
    intro key hk
    obtain ⟨entry, he, rfl⟩ := List.mem_map.mp hk
    exact (mem_absent.mp he).2
  rw [List.perm_ext_iff_of_nodup _ (nodup_desired mode)]
  · intro key
    rw [List.mem_append, h.mem_keys, setting?_isSome_iff]
    constructor
    · rintro (⟨hd, -⟩ | hk)
      · exact hd
      · exact hsub.subset hk
    · intro hd
      by_cases hl : ∃ l ∈ lines, managedKey? mode l = some key
      · exact Or.inl ⟨hd, by simp, hl⟩
      · obtain ⟨entry, he, rfl⟩ := List.mem_map.mp hd
        refine Or.inr (List.mem_map_of_mem (mem_absent.mpr ⟨he, fun line hm hs => ?_⟩))
        exact hl ⟨line, hm, hs⟩
  · rw [List.nodup_append]
    refine ⟨h.nodup_keys, hsub.nodup (nodup_desired mode), fun key hk other ho he => ?_⟩
    obtain ⟨-, -, l, hl, hs⟩ := (h.mem_keys key).mp hk
    exact hset other ho l hl (he ▸ hs)

theorem missingLines_eq {present lines : List Text} (h : Marks mode present lines) :
    missingLines mode newline present
      = (absent mode lines).map fun entry => entryLine entry.1 entry.2 newline := by
  unfold missingLines absent
  congr 1
  apply List.filter_congr
  intro entry he
  have hk := h entry.1 (setting?_isSome_iff.mpr (List.mem_map_of_mem he))
  rw [Bool.eq_iff_iff]
  simp [hk]

end

/-! ## Where lines are added -/

/-- How lines `new` come into a section of which the lines `kept` remain: behind its last line that is
not blank, or behind the header if there is none.  The line in front of them is ended if need be; all
else stays as it is. -/
inductive Inserted (newline header : Text) (kept new : List Text) : Text → List Text → Prop
  | nothing (h : new = []) : Inserted newline header kept new header kept
  | behind (front blanks : List Text) (last : Text) (h : new ≠ [])
      (hk : kept = front ++ last :: blanks) (hl : Text.allBlank last = false)
      (hb : ∀ line ∈ blanks, Text.allBlank line = true) :
      Inserted newline header kept new header (front ++ ended newline last :: (new ++ blanks))
  | first (h : new ≠ []) (hb : ∀ line ∈ kept, Text.allBlank line = true) :
      Inserted newline header kept new (ended newline header) (new ++ kept)

theorem inserted_insertMissing (newline header : Text) (kept new : List Text) :
    Inserted newline header kept new (insertMissing newline header kept new).1
      (insertMissing newline header kept new).2 := by
  unfold insertMissing
  by_cases h : new = []
  · rw [if_pos (by simp [h])]
    exact .nothing h
  rw [if_neg (by simp [h])]
  have hsplit : (kept.reverse.takeWhile Text.allBlank ++ kept.reverse.dropWhile Text.allBlank).reverse
      = kept := by
    rw [List.takeWhile_append_dropWhile, List.reverse_reverse]
  have hb : ∀ line ∈ (kept.reverse.takeWhile Text.allBlank).reverse, Text.allBlank line = true :=
    fun line hl => List.mem_takeWhile_imp (List.mem_reverse.mp hl)
  rw [List.reverse_append] at hsplit
  cases hd : kept.reverse.dropWhile Text.allBlank with
  | nil =>
    rw [hd, List.reverse_nil, List.nil_append] at hsplit
    rw [hsplit] at hb ⊢
    exact .first h hb
  | cons last others =>
    rw [hd, List.reverse_cons, List.append_assoc, List.singleton_append] at hsplit
    have hl : Text.allBlank last = false := by
      have hhead := List.head_dropWhile_not Text.allBlank (l := kept.reverse) (by simp [hd])
      simpa [hd] using hhead
    exact .behind _ _ last h hsplit.symm hl hb

/-! ## The section -/

/-- Whether some lines begin with a table header, if there are any. -/
def BeginsTable (lines : List Text) : Prop :=
  ∀ line ∈ lines.head?, isTableHeader line = true

/-- Lines that are cut at the first package header and at the next table header. -/
structure Layout.IsCut (l : Layout) : Prop where
  before : ∀ line ∈ l.before, isPackageHeader line = false
  header : isPackageHeader l.header = true
  body : ∀ line ∈ l.body, isTableHeader line = false
  after : BeginsTable l.after

theorem Layout.isCut {lines : List Text} {l : Layout} (h : ofLines? lines = some l) : l.IsCut := by
  unfold ofLines? at h
  split at h
  · exact absurd h (by simp)
  · rename_i header rest heq
    obtain rfl := Option.some.inj h
    constructor
    · intro line hline
      simpa using List.mem_takeWhile_imp hline
    · have hhead := List.head_dropWhile_not (fun line => !isPackageHeader line) (l := lines)
        (by simp [heq])
      simpa [heq] using hhead
    · intro line hline
      simpa using List.mem_takeWhile_imp hline
    · intro line hline
      have hnot := List.head?_dropWhile_not (fun line => !isTableHeader line) rest
      rw [Option.mem_def.mp hline] at hnot
      simpa using hnot

/-- Lines around the first package header and up to the next header are the layout of all lines. -/
theorem Layout.IsCut.ofLines? {l : Layout} (h : l.IsCut) : Layout.ofLines? l.lines = some l := by
  obtain ⟨before, header, body, after⟩ := l
  have hnot : ∀ line ∈ before, (!isPackageHeader line) = true := fun line hline => by
    rw [h.before line hline, Bool.not_false]
  have hnone : ∀ line ∈ body, (!isTableHeader line) = true := fun line hline => by
    rw [h.body line hline, Bool.not_false]
  have hhead : isPackageHeader header = true := h.header
  have hend : after.takeWhile (fun line => !isTableHeader line) = []
      ∧ after.dropWhile (fun line => !isTableHeader line) = after := by
    cases after with
    | nil => exact ⟨rfl, rfl⟩
    | cons line rest =>
      have hline : isTableHeader line = true := h.after line rfl
      simp [hline]
  unfold Layout.ofLines? Layout.lines
  dsimp only
  rw [List.dropWhile_append_of_pos hnot, List.takeWhile_append_of_pos hnot,
    List.dropWhile_cons_of_neg (by simp [hhead]), List.takeWhile_cons_of_neg (by simp [hhead])]
  dsimp only
  rw [List.takeWhile_append_of_pos hnone, List.dropWhile_append_of_pos hnone, hend.1, hend.2,
    List.append_nil, List.append_nil]

/-- The line break that new lines of a section end in: that of its header. -/
def Layout.newline (l : Layout) : Text :=
  if ['\r', '\n'].isSuffixOf l.header then ['\r', '\n'] else ['\n']

variable {mode : LicenseMode}

/-- A layout before and after the edit, with the lines that remain of the section. -/
structure Layout.Reworked (mode : LicenseMode) (package : Toml.Table) (l l' : Layout)
    (kept : List Text) : Prop where
  before : l'.before = l.before
  after : l'.after = l.after
  /-- What becomes of each line of the section. -/
  remains : Remains mode package l.newline [] l.body kept
  /-- The lines that set no managed key stay in order. -/
  others : kept.filter (fun line => (managedKey? mode line).isNone)
    = l.body.filter fun line => (managedKey? mode line).isNone
  /-- Every desired key is set by one line. -/
  once : (kept.filterMap (managedKey? mode) ++ (absent mode l.body).map Prod.fst).Perm
    ((desired mode).map Prod.fst)
  /-- The lines for the keys that no line set are put behind what remains. -/
  inserted : Inserted l.newline l.header kept
    ((absent mode l.body).map fun entry => entryLine entry.1 entry.2 l.newline) l'.header l'.body

/-- **The edit reworks the section**, whatever the lines are. -/
theorem Layout.reworked_withLicense (mode : LicenseMode) (package : Toml.Table) (l : Layout) :
    l.Reworked mode package (l.withLicense mode package)
      (editBody mode package l.newline [] l.body).1 := by
  have hstart : Marks mode [] [] := by
    intro key _
    simp
  have hbody : Remains mode package l.newline [] l.body (editBody mode package l.newline [] l.body).1
      ∧ Marks mode (editBody mode package l.newline [] l.body).2 ([] ++ l.body) :=
    remains_editBody l.body hstart
  obtain ⟨hr, hm⟩ := hbody
  rw [List.nil_append] at hm
  refine ⟨rfl, rfl, hr, hr.others, hr.perm_desired, ?_⟩
  rw [← missingLines_eq hm]
  exact inserted_insertMissing l.newline l.header _ _

/-- **An edit stays within the section.**  The lines of a manifest that is edited are those before the
package header, the header, the section and those after it; the text that the edit gives is made of the
same lines before and after the section, with the header and the section reworked. -/
theorem edit_reworks_section {manifest updated : Text}
    (h : setLicense mode manifest = .ok (some updated)) :
    ∃ root package l l' kept, Toml.parse manifest = .ok root ∧ package? root = some package
      ∧ Layout.ofLines? (Text.lines manifest) = some l ∧ l.lines = Text.lines manifest
      ∧ l'.lines.flatten = updated ∧ l.Reworked mode package l' kept := by
  obtain ⟨root, package, l, hparse, hpackage, hl, hresult⟩ := setLicense_eq_ok.mp h
  rcases hresult with ⟨-, hnone⟩ | ⟨-, hsome, -⟩
  · exact absurd hnone (by simp)
  · exact ⟨root, package, l, l.withLicense mode package, _, hparse, hpackage, hl,
      l.lines_ofLines hl, (Option.some.inj hsome).symm, l.reworked_withLicense mode package⟩

/-- A section with an inherited license and another notice, in front of a table: the first line goes, the
second is written anew, and the line for the key that is left comes in front of the empty line. -/
theorem edit_reworks_inherited_license :
    let manifest : Text := "[package]\r\nname = \"a\"\r\nlicense.workspace = true\r\n"
      ++ "license-file = \"COPYING\"\r\n\r\n[lib]\r\n"
    let updated : Text := "[package]\r\nname = \"a\"\r\n"
      ++ "license-file = \"LICENSE\"\r\npublish = false\r\n\r\n[lib]\r\n"
    setLicense .proprietary manifest = .ok (some updated)
      ∧ ∃ root package l l' kept, Toml.parse manifest = .ok root ∧ package? root = some package
        ∧ Layout.ofLines? (Text.lines manifest) = some l ∧ l.lines = Text.lines manifest
        ∧ l'.lines.flatten = updated ∧ l.Reworked .proprietary package l' kept := by
  intro manifest updated
  have h : setLicense .proprietary manifest = .ok (some updated) := by decide +kernel
  exact ⟨h, edit_reworks_section h⟩

end CrateSync.Manifest
