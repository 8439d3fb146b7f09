/-
# The lines of an edited manifest

The edit puts lines together to a text, and a second edit cuts this text into lines again.  These are the
lines that were put together, except that a line break which was added behind a rare one is a line of its
own; to the edit it makes no difference.

* `managedKey?_append`, `isTableHeader_append`, `isPackageHeader_append` : what is added behind a line;
* `lines_flatten_of_separate`, `lines_text` : the lines of texts that end their lines;
* `Steady` : blocks of which the text is cut into lines again;
* `Layout.ReadAs.exists_cut` : the layout of the edited text, and the managed keys that its lines set.
-/
import CrateSync.Proofs.Manifest.Recognition
import CrateSync.Proofs.Manifest.Spread
import CrateSync.Proofs.Text.Blank
import CrateSync.Proofs.Text.Lines

namespace CrateSync.Manifest

open Toml (Statement statements BarePart)
open Text (allBlank dropBlanks isLineBreak)

variable {mode : LicenseMode} {package : Toml.Table} {names : List Text} {newline : Text}

theorem allBlank_newline (h : IsNewline newline) : allBlank newline = true :=
  allBlank_ending (Or.inr h)

/-! ## What is added behind a line -/

theorem isTableHeader_append {w : Text} (hw : allBlank w = true) (line : Text) :
    isTableHeader (line ++ w) = isTableHeader line := by
  rw [isTableHeader, isTableHeader, Text.head?_dropBlanks_append hw]

theorem isTableHeader_of_allBlank {line : Text} (h : allBlank line = true) :
    isTableHeader line = false :=
  isTableHeader_append h []

/-- A word that stands in front of blanks stands there without them. -/
theorem after?_append_blank {part t w : Text} (hpart : ∀ c ∈ part, Text.isBlank c = false)
    (hw : allBlank w = true) : Text.after? part (t ++ w) = (Text.after? part t).map (· ++ w) := by
  ext rest
  rw [Option.map_eq_some_iff, Toml.after?_eq_some]
  constructor
  · intro heq
    obtain ⟨more, rfl, hmore⟩ | ⟨more, rfl, hmore⟩ := List.append_eq_append_iff.mp heq
    · cases more with
      | nil =>
        rw [List.append_nil] at *
        exact ⟨[], Toml.after?_eq_some.mpr (by simp), by simpa using hmore⟩
      | cons c more =>
        have hblank := List.all_eq_true.mp hw c (by simp [hmore])
        rw [hpart c (by simp)] at hblank
        exact absurd hblank (by simp)
    · exact ⟨more, Toml.after?_eq_some.mpr rfl, hmore.symm⟩
  · rintro ⟨behind, hbehind, rfl⟩
    rw [Toml.after?_eq_some.mp hbehind, List.append_assoc]

theorem setsKey_append {key w : Text} (hkey : BarePart key) (hw : allBlank w = true) (line : Text) :
    setsKey (line ++ w) key = setsKey line key := by
  have hblank : ∀ c ∈ key, Text.isBlank c = false := fun c hc => Toml.isBlank_of_bare (hkey.bare c hc)
  have hhead : ∀ t : Text, setsKey t key
      = ((afterPart? key t).bind List.head?).any fun c => c = '.' || c = '=' := by
    intro t
    unfold setsKey
    rcases afterPart? key t with _ | (_ | ⟨c, rest⟩) <;> rfl
  have hsame : (afterPart? key (line ++ w)).bind List.head? = (afterPart? key line).bind List.head? := by
    unfold afterPart?
    rw [Text.dropBlanks_append_blank hw]
    by_cases hnil : dropBlanks line = []
    · rw [if_pos hnil, List.append_nil]
    · rw [if_neg hnil, after?_append_blank hblank hw]
      cases Text.after? key (dropBlanks line) with
      | none => rfl
      | some behind => exact Text.head?_dropBlanks_append hw
  rw [hhead, hhead, hsame]

/-- **Blanks behind a line** make no difference to the key that it sets. -/
theorem managedKey?_append {w : Text} (hw : allBlank w = true) (line : Text) :
    managedKey? mode (line ++ w) = managedKey? mode line := by
  exact Toml.find?_congr_of_mem fun key hkey => setsKey_append (barePart_of_managed hkey) hw line

theorem managedKey?_ended (hnewline : IsNewline newline) (line : Text) :
    managedKey? mode (ended newline line) = managedKey? mode line := by
  unfold ended
  split_ifs
  · rfl
  · exact managedKey?_append (allBlank_newline hnewline) line

theorem managedKey?_of_allBlank {line : Text} (h : allBlank line = true) :
    managedKey? mode line = none := by
  have hnil : managedKey? mode ([] ++ line) = managedKey? mode [] := managedKey?_append h []
  rwa [List.nil_append, managedKey?_nil] at hnil

theorem isPackageHeader_append (hnewline : IsNewline newline) (line : Text) :
    isPackageHeader (line ++ newline) = isPackageHeader line := by
  have hsame : withoutEnding (line ++ newline) = withoutEnding line := by
    rw [withoutEnding, withoutEnding, Text.dropRightWhile, Text.dropRightWhile, List.reverse_append]
    rw [List.dropWhile_append_of_pos]
    rcases hnewline with rfl | rfl <;> exact List.all_eq_true.mp (by decide)
  rw [isPackageHeader, isPackageHeader, hsame]

/-! ## Texts that end their lines -/

/-- **The lines of texts that end their lines** are the lines of each. -/
theorem lines_flatten_of_separate {ts : List Text} (h : Separate ts) :
    Text.lines ts.flatten = ts.flatMap Text.lines := by
  induction ts with
  | nil => rfl
  | cons t ts ih =>
    obtain ⟨hfirst, hrest⟩ := List.pairwise_cons.mp h
    rw [List.flatten_cons, List.flatMap_cons, ← ih hrest]
    by_cases hflat : ts.flatten = []
    · rw [hflat, List.append_nil]
      exact (List.append_nil _).symm
    · obtain ⟨u, hu, hne⟩ : ∃ u ∈ ts, u ≠ [] := by
        by_contra hall
        refine hflat (List.flatten_eq_nil_iff.mpr fun u hu => ?_)
        by_contra hne
        exact hall ⟨u, hu, hne⟩
      rcases hfirst u hu hne with rfl | hend
      · rfl
      · refine Text.lines_append (Text.finished_of_endsLine hend) fun hlast => ?_
        rw [Text.endsLine, hlast] at hend
        exact absurd hend (by decide)

/-- Blocks of the lines of a text are cut into their lines again. -/
theorem lines_text {t : Text} {front rest : List Text} {bs : List Block}
    (h : Text.lines t = front ++ (bs.flatMap Block.lines ++ rest)) :
    ∀ b ∈ bs, Text.lines b.text = b.lines := by
  intro b hb
  obtain ⟨bs₁, bs₂, rfl⟩ := List.append_of_mem hb
  have hsplit : Text.lines t = (front ++ bs₁.flatMap Block.lines)
      ++ (b.lines ++ (bs₂.flatMap Block.lines ++ rest)) := by
    rw [h]
    simp
  exact Text.lines_of_append hsplit

/-! ## Blocks of a section -/

/-- A block of which the text is cut into lines with the same managed keys and without table headers. -/
structure Steady (mode : LicenseMode) (b : Block) : Prop where
  keys : (Text.lines b.text).filterMap (managedKey? mode) = b.lines.filterMap (managedKey? mode)
  inside : ∀ line ∈ Text.lines b.text, isTableHeader line = false

theorem lines_entryLine {entry : Text × Setting} (h : entry ∈ desired mode) {ending : Text}
    (hending : ending = [] ∨ IsNewline ending) :
    Text.lines (entryLine entry.1 entry.2 ending) = [entryLine entry.1 entry.2 ending]
      ∧ isTableHeader (entryLine entry.1 entry.2 ending) = false := by
  revert entry
  cases mode <;> rcases hending with rfl | rfl | rfl <;> decide

/-- A line that the edit writes. -/
theorem steady_entryLine {entry : Text × Setting} (h : entry ∈ desired mode) {ending : Text}
    (hending : ending = [] ∨ IsNewline ending) (content : List Statement) :
    Steady mode ⟨[entryLine entry.1 entry.2 ending], content⟩ := by
  obtain ⟨hlines, hinside⟩ := lines_entryLine h hending
  constructor
  · rw [Block.text, List.flatten_singleton, hlines]
  · rw [Block.text, List.flatten_singleton, hlines]
    simpa using hinside

/-- **A line break that is added to some lines** adds no managed key and no table header. -/
theorem lines_ended (mode : LicenseMode) (hnewline : IsNewline newline) {t : Text} (hwhole : t.getLast? ≠ some '\r') :
    (Text.lines (ended newline t)).filterMap (managedKey? mode)
        = (Text.lines t).filterMap (managedKey? mode)
      ∧ ((∀ line ∈ Text.lines t, isTableHeader line = false) →
        ∀ line ∈ Text.lines (ended newline t), isTableHeader line = false) := by
  have hblank := allBlank_newline hnewline
  unfold ended
  split_ifs with hend
  · exact ⟨rfl, id⟩
  obtain hlines | ⟨front, last, hold, hlines⟩ := Text.lines_newline hwhole hnewline
  · rw [hlines]
    constructor
    · rw [List.filterMap_append, List.filterMap_cons_none (managedKey?_of_allBlank hblank)]
      exact List.append_nil _
    · intro hinside line hline
      rcases List.mem_append.mp hline with hline | hline
      · exact hinside line hline
      · rw [List.mem_singleton.mp hline]
        exact isTableHeader_of_allBlank hblank
  · rw [hold, hlines]
    constructor
    · simp only [List.filterMap_append, List.filterMap_cons, managedKey?_append hblank]
    · intro hinside line hline
      rcases List.mem_append.mp hline with hline | hline
      · exact hinside line (List.mem_append_left _ hline)
      · rw [List.mem_singleton.mp hline, isTableHeader_append hblank]
        exact hinside last (by simp)

theorem Steady.ended {c b : Block} (h : Steady mode c) (hnewline : IsNewline newline)
    (hwhole : c.text.getLast? ≠ some '\r') (hended : EndedAs newline c b) : Steady mode b := by
  obtain ⟨hkeys, hinside⟩ := lines_ended mode hnewline hwhole
  obtain ⟨front, last, hold, hnew⟩ := hended.lines
  constructor
  · rw [hended.text, hkeys, h.keys, hold, hnew]
    simp only [List.filterMap_append, List.filterMap_cons, managedKey?_ended hnewline]
  · rw [hended.text]
    exact hinside h.inside

theorem lines_steady {bs : List Block} (h : ∀ b ∈ bs, Steady mode b) :
    (bs.flatMap fun b => Text.lines b.text).filterMap (managedKey? mode)
        = (bs.flatMap Block.lines).filterMap (managedKey? mode)
      ∧ ∀ line ∈ bs.flatMap fun b => Text.lines b.text, isTableHeader line = false := by
  constructor
  · induction bs with
    | nil => rfl
    | cons b bs ih =>
      rw [List.flatMap_cons, List.flatMap_cons, List.filterMap_append, List.filterMap_append,
        (h b (by simp)).keys, ih fun c hc => h c (by simp [hc])]
  · intro line hline
    obtain ⟨b, hb, hline⟩ := List.mem_flatMap.mp hline
    exact (h b hb).inside line hline

/-! ## The edited text -/

section

variable {header header' : Text} {kept new body : List Text}

theorem Inserted.header_eq (h : Inserted newline header kept new header' body) :
    header' = header ∨ header' = ended newline header := by
  cases h with
  | nothing => exact Or.inl rfl
  | behind => exact Or.inl rfl
  | first => exact Or.inr rfl

/-- The managed keys of a section are those of the lines that remain and of the lines that are added. -/
theorem Inserted.keys (h : Inserted newline header kept new header' body) (hnewline : IsNewline newline) :
    (body.filterMap (managedKey? mode)).Perm
      (kept.filterMap (managedKey? mode) ++ new.filterMap (managedKey? mode)) := by
  cases h with
  | nothing hnil =>
    rw [hnil, List.filterMap_nil, List.append_nil]
  | behind front blanks last hnew hkept =>
    have hlast : [ended newline last].filterMap (managedKey? mode)
        = [last].filterMap (managedKey? mode) := by
      simp only [List.filterMap_cons, managedKey?_ended hnewline]
    rw [hkept, ← List.singleton_append, List.append_cons front last blanks]
    simp only [List.filterMap_append, hlast, List.append_assoc]
    exact ((List.perm_append_comm).append_left _).append_left _
  | first =>
    rw [List.filterMap_append]
    exact List.perm_append_comm

/-- The line of the header is found again. -/
theorem exists_header_of_inserted (h : Inserted newline header kept new header' body)
    (hnewline : IsNewline newline) (hline : Text.lines header = [header])
    (hwhole : header.getLast? ≠ some '\r') (hheader : isPackageHeader header = true) :
    ∃ first more, Text.lines header' = first :: more ∧ isPackageHeader first = true
      ∧ ∀ line ∈ more, allBlank line = true := by
  have hsame : ∃ first more, Text.lines header = first :: more ∧ isPackageHeader first = true
      ∧ ∀ line ∈ more, allBlank line = true := ⟨header, [], hline, hheader, by simp⟩
  obtain rfl | rfl := h.header_eq
  · exact hsame
  unfold ended
  split_ifs with hend
  · exact hsame
  obtain hmore | ⟨front, last, hold, hmore⟩ := Text.lines_newline hwhole hnewline
  · rw [hline] at hmore
    exact ⟨header, [newline], hmore, hheader, by simpa using allBlank_newline hnewline⟩
  · rw [hline] at hold
    have hone : [] ++ [header] = front ++ [last] := hold
    obtain ⟨rfl, hlast⟩ := List.append_inj' hone rfl
    obtain rfl := List.singleton_inj.mp hlast
    exact ⟨header ++ newline, [], hmore, by rw [isPackageHeader_append hnewline, hheader], by simp⟩

end

theorem new_keys (entries : List (Text × Setting)) (h : ∀ entry ∈ entries, entry ∈ desired mode) :
    (entries.map fun entry => entryLine entry.1 entry.2 newline).filterMap (managedKey? mode)
      = entries.map Prod.fst := by
  rw [List.filterMap_map, ← List.filterMap_eq_map]
  refine List.filterMap_congr fun entry hentry => ?_
  exact managedKey?_entryLine newline (setting?_of_mem (h entry hentry))

/-- The lines of a manifest as they are cut again from the texts of its blocks. -/
structure Layout.Recut (l : Layout) (r : Reading) : Prop where
  before : ∀ b ∈ r.before, Text.lines b.text = b.lines
  header : Text.lines l.header = [l.header]
  body : ∀ b ∈ r.body, Text.lines b.text = b.lines
  after : ∀ b ∈ r.after, Text.lines b.text = b.lines

section

variable {manifest : Text} {l : Layout} {r : Reading}

theorem Layout.ReadAs.recut (h : l.ReadAs mode names r)
    (hl : Layout.ofLines? (Text.lines manifest) = some l) : l.Recut r := by
  have hlines : Text.lines manifest = l.before ++ l.header :: (l.body ++ l.after) :=
    (l.lines_ofLines hl).symm
  constructor
  · have hsplit : Text.lines manifest
        = [] ++ (r.before.flatMap Block.lines ++ (l.header :: (l.body ++ l.after))) := by
      rw [hlines, h.before_lines, List.nil_append]
    exact lines_text hsplit
  · have hsplit : Text.lines manifest = l.before ++ ([l.header] ++ (l.body ++ l.after)) := hlines
    simpa using Text.lines_of_append hsplit
  · have hsplit : Text.lines manifest
        = (l.before ++ [l.header]) ++ (r.body.flatMap Block.lines ++ l.after) := by
      rw [hlines, h.body_lines, List.append_assoc, List.singleton_append]
    exact lines_text hsplit
  · have hsplit : Text.lines manifest
        = (l.before ++ l.header :: l.body) ++ (r.after.flatMap Block.lines ++ []) := by
      rw [hlines, h.after_lines, List.append_nil, List.append_assoc, List.cons_append]
    exact lines_text hsplit

/-- The blocks of the edited section are cut into their lines again, but for line breaks. -/
theorem Layout.ReadAs.steady (h : l.ReadAs mode names r) (hrecut : l.Recut r) (hcut : l.IsCut)
    {bs bs' : List Block} (hedited : Edited mode package l.newline r.body bs) {before after body : List Text}
    {opening : List Statement} {header : Text}
    (hput : PutIn l.newline bs ((absent mode l.body).map (newPart l.newline)) before after opening header
      body bs') : ∀ b ∈ bs', Steady mode b := by
  have hsteady : ∀ b ∈ bs, Steady mode b := by
    intro b hb
    rcases hedited.origin b hb with hold | ⟨entry, hentry, ending, hending, rfl⟩
    · refine ⟨by rw [hrecut.body b hold], fun line hline => hcut.body line ?_⟩
      rw [hrecut.body b hold] at hline
      rw [h.body_lines]
      exact List.mem_flatMap.mpr ⟨b, hold, hline⟩
    · refine steady_entryLine hentry (hending.imp_right ?_) _
      rintro rfl
      exact l.isNewline
  intro b hb
  rcases hput.origin b hb with hold | hnew | ⟨c, hc, hended⟩
  · exact hsteady b hold
  · obtain ⟨entry, hentry, rfl⟩ := List.mem_map.mp hnew
    exact steady_entryLine (mem_absent.mp hentry).1 (Or.inr l.isNewline) _
  · have hreads := (hedited.parts l.isNewline h.body c hc).reads
    exact (hsteady c hc).ended l.isNewline hreads.whole hended

/-- The lines of the edited text, block by block. -/
theorem Layout.ReadAs.lines_editedText (h : l.ReadAs mode names r) (hrecut : l.Recut r)
    {bs bs' news : List Block} {opening : List Statement}
    (hput : PutIn l.newline bs news (r.before.map Block.text) (r.after.map Block.text) opening
      (l.withLicense mode package).header (l.withLicense mode package).body bs') :
    Text.lines (editedText mode package l) = l.before
      ++ Text.lines (l.withLicense mode package).header
      ++ (bs'.flatMap (fun b => Text.lines b.text) ++ l.after) := by
  have htext : editedText mode package l = (r.before.map Block.text
      ++ (l.withLicense mode package).header :: (bs'.map Block.text ++ r.after.map Block.text)).flatten := by
    rw [List.flatten_append, List.flatten_cons, List.flatten_append, flatten_text, flatten_text,
      flatten_text, ← h.before_lines, ← hput.lines, ← h.after_lines, ← List.flatten_append,
      ← List.flatten_cons, ← List.flatten_append]
    rfl
  rw [htext, lines_flatten_of_separate hput.separate, List.flatMap_append, List.flatMap_cons,
    List.flatMap_append, List.flatMap_map, List.flatMap_map, List.flatMap_map,
    List.flatMap_congr hrecut.before, List.flatMap_congr hrecut.after, ← h.before_lines,
    ← h.after_lines, List.append_assoc]

/-- **The edited text is cut at the same places**, and the lines of its section set every desired key once
and no other managed one. -/
theorem Layout.ReadAs.exists_cut (h : l.ReadAs mode names r)
    (hl : Layout.ofLines? (Text.lines manifest) = some l) (package : Toml.Table) :
    ∃ l₂, Layout.ofLines? (Text.lines (editedText mode package l)) = some l₂
      ∧ (l₂.body.filterMap (managedKey? mode)).Perm ((desired mode).map Prod.fst) := by
  have hcut : l.IsCut := Layout.isCut hl
  have hrecut : l.Recut r := h.recut hl
  have hwork := l.reworked_withLicense mode package
  obtain ⟨bs, bs', hedited, -, hput⟩ := h.exists_putIn package
  obtain ⟨hkeys, hinside⟩ := lines_steady (h.steady hrecut hcut hedited hput)
  obtain ⟨first, more, hfirst, hpackage, hmore⟩ :=
    exists_header_of_inserted hwork.inserted l.isNewline hrecut.header h.header.whole hcut.header
  have hmoreKeys : more.filterMap (managedKey? mode) = [] :=
    List.filterMap_eq_nil_iff.mpr fun line hline => managedKey?_of_allBlank (hmore line hline)
  let l₂ : Layout :=
    { before := l.before
      header := first
      body := more ++ bs'.flatMap fun b => Text.lines b.text
      after := l.after }
  have hcut₂ : l₂.IsCut := by
    refine ⟨hcut.before, hpackage, fun line hline => ?_, hcut.after⟩
    rcases List.mem_append.mp hline with hline | hline
    · exact isTableHeader_of_allBlank (hmore line hline)
    · exact hinside line hline
  refine ⟨l₂, ?_, ?_⟩
  · have hlines₂ : Text.lines (editedText mode package l) = l₂.lines := by
      rw [h.lines_editedText hrecut hput, hfirst]
      simp [l₂, Layout.lines]
    rw [hlines₂]
    exact hcut₂.ofLines?
  · show ((more ++ bs'.flatMap fun b => Text.lines b.text).filterMap (managedKey? mode)).Perm _
    rw [List.filterMap_append, hmoreKeys, List.nil_append, hkeys, ← hput.lines]
    refine (hwork.inserted.keys l.isNewline).trans ?_
    rw [new_keys _ fun entry hentry => (mem_absent.mp hentry).1]
    exact hwork.once

end

end CrateSync.Manifest
