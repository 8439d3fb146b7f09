/-
# The statements of an edited manifest

A manifest whose lines before, in and behind the package section are read for themselves: what the edit
does to its lines is told as what it does to its statements.

* `Layout.ReadAs` : the lines around and in a section with the statements that they say;
* `Rewritten` : the statements of a section before and after the edit;
* `Layout.ReadAs.edited` : the edit rewrites the statements of the section and leaves the others.
-/
import Mathlib.Data.List.Nodup
import CrateSync.Proofs.Manifest.Reading

namespace CrateSync.Manifest

open Toml (Statement statements Entries notSetting)

/-! ## A manifest and its statements -/

/-- The name of the package table. -/
abbrev packageName : Text :=
  "package"

/-- The lines of a manifest around and in the package section, cut into blocks that are read for
themselves. -/
structure Reading where
  before : List Block
  body : List Block
  after : List Block

/-- What some blocks say one after the other. -/
def contents (bs : List Block) : List Statement :=
  bs.flatMap Block.content

/-- The statements of a manifest with the given ones in its package section. -/
def Reading.statements (r : Reading) (ss : List Statement) : List Statement :=
  contents r.before ++ .table [packageName] :: (ss ++ contents r.after)

/-- Whether a manifest may be read block by block: the blocks are its lines, each is read for itself, and of
the section the edit sees what it says. -/
structure Layout.ReadAs (mode : LicenseMode) (names : List Text) (l : Layout) (r : Reading) : Prop where
  before_lines : l.before = r.before.flatMap Block.lines
  before : ∀ b ∈ r.before, Reads b.text b.content
  header : Reads l.header [.table [packageName]]
  body_lines : l.body = r.body.flatMap Block.lines
  body : ∀ b ∈ r.body, Part mode names b
  after_lines : l.after = r.after.flatMap Block.lines
  after : ∀ b ∈ r.after, Reads b.text b.content
  separate : Separate (r.before.map Block.text
    ++ l.header :: (r.body.map Block.text ++ r.after.map Block.text))

variable {mode : LicenseMode} {package : Toml.Table} {names : List Text}

theorem Layout.ReadAs.mono {more : List Text} (hsub : ∀ name ∈ names, name ∈ more) {l : Layout}
    {r : Reading} (h : l.ReadAs mode more r) : l.ReadAs mode names r :=
  ⟨h.before_lines, h.before, h.header, h.body_lines, fun b hb => (h.body b hb).mono hsub, h.after_lines,
    h.after, h.separate⟩

theorem flatten_text (bs : List Block) :
    (bs.map Block.text).flatten = (bs.flatMap Block.lines).flatten := by
  induction bs with
  | nil => rfl
  | cons b bs ih => simp [Block.text, ih]

/-- Blocks around a header that are read for themselves are read together. -/
theorem statements_lines {l : Layout} {r : Reading} {bs : List Block}
    (hbeforeLines : l.before = r.before.flatMap Block.lines)
    (hbefore : ∀ b ∈ r.before, Reads b.text b.content) (hheader : Reads l.header [.table [packageName]])
    (hbodyLines : l.body = bs.flatMap Block.lines) (hbody : ∀ b ∈ bs, Reads b.text b.content)
    (hafterLines : l.after = r.after.flatMap Block.lines)
    (hafter : ∀ b ∈ r.after, Reads b.text b.content)
    (hsep : Separate (r.before.map Block.text
      ++ l.header :: (bs.map Block.text ++ r.after.map Block.text))) :
    statements (Text.joinPairs l.lines.flatten) = .ok (r.statements (contents bs)) := by
  have hreads : ∀ b ∈ r.before ++ ⟨[l.header], [.table [packageName]]⟩ :: (bs ++ r.after),
      Reads b.text b.content := by
    intro b hb
    rcases List.mem_append.mp hb with hb | hb
    · exact hbefore b hb
    rcases List.mem_cons.mp hb with rfl | hb
    · rw [Block.text, List.flatten_singleton]
      exact hheader
    rcases List.mem_append.mp hb with hb | hb
    · exact hbody b hb
    · exact hafter b hb
  have hall := statements_blocks hreads (by simpa [Block.text] using hsep)
  rw [flatten_text] at hall
  simpa [Layout.lines, hbeforeLines, hbodyLines, hafterLines, Reading.statements, contents] using hall

/-- **The statements of a manifest.** -/
theorem Layout.ReadAs.statements {l : Layout} {r : Reading} (h : l.ReadAs mode names r) :
    Toml.statements (Text.joinPairs l.lines.flatten) = .ok (r.statements (contents r.body)) :=
  statements_lines h.before_lines h.before h.header h.body_lines (fun b hb => (h.body b hb).reads)
    h.after_lines h.after h.separate

/-! ## The edited section -/

/-- The statements `ss'` of a section that is edited, which said `ss`.  The entries at other than managed
keys are as before; an entry at one of the names says what is right; every desired entry is there, and
there is no managed key twice if all of them are among the names. -/
structure Rewritten (mode : LicenseMode) (package : Toml.Table) (names : List Text)
    (ss ss' : List Statement) : Prop where
  entries : Entries ss'
  others : notSetting (managed mode) ss' = notSetting (managed mode) ss
  right : ∀ s ∈ ss', s.sets names = false ∨ ∃ entry ∈ desired mode, SaysRight package ss entry s
  all : ∀ entry ∈ desired mode, ∃ s ∈ ss', SaysRight package ss entry s
  once : (∀ key ∈ managed mode, key ∈ names) → (setKeys mode ss').Nodup

/-- A line for an entry that no line sets, as a part of the section. -/
def newPart (newline : Text) (entry : Text × Setting) : Block :=
  ⟨[entryLine entry.1 entry.2 newline], [.entry [entry.1] entry.2.value]⟩

theorem flatMap_newPart_lines (newline : Text) (entries : List (Text × Setting)) :
    (entries.map (newPart newline)).flatMap Block.lines
      = entries.map fun entry => entryLine entry.1 entry.2 newline := by
  induction entries with
  | nil => rfl
  | cons entry entries ih => simp [newPart, ih]

theorem flatMap_newPart_content (newline : Text) (entries : List (Text × Setting)) :
    (entries.map (newPart newline)).flatMap Block.content
      = entries.map fun entry => .entry [entry.1] entry.2.value := by
  induction entries with
  | nil => rfl
  | cons entry entries ih => simp [newPart, ih]

theorem mem_desired_unique {entry other : Text × Setting} (h : entry ∈ desired mode)
    (ho : other ∈ desired mode) (hkey : entry.1 = other.1) : entry = other :=
  List.inj_on_of_nodup_map (nodup_desired mode) h ho hkey

theorem mem_managed_of_desired {entry : Text × Setting} (h : entry ∈ desired mode) :
    entry.1 ∈ managed mode :=
  List.mem_append_left _ (List.mem_map_of_mem h)

theorem setKeys_blocks (hnames : ∀ key ∈ managed mode, key ∈ names) {bs : List Block}
    (hparts : ∀ b ∈ bs, Part mode names b) :
    setKeys mode (bs.flatMap Block.content)
      = (bs.flatMap Block.lines).filterMap (managedKey? mode) := by
  induction bs with
  | nil => rfl
  | cons b bs ih =>
    rw [List.flatMap_cons, List.flatMap_cons, setKeys_append, List.filterMap_append,
      (hparts b (by simp)).setKeys_eq hnames, ih fun c hc => hparts c (by simp [hc])]

theorem notSetting_new (entries : List (Text × Setting)) (h : ∀ entry ∈ entries, entry ∈ desired mode) :
    notSetting (managed mode) (entries.map fun entry => .entry [entry.1] entry.2.value) = [] := by
  rw [notSetting, List.filter_eq_nil_iff]
  intro s hs
  obtain ⟨entry, he, rfl⟩ := List.mem_map.mp hs
  simpa [Statement.sets, Statement.key] using mem_managed_of_desired (h entry he)

theorem setKeys_new (entries : List (Text × Setting)) (h : ∀ entry ∈ entries, entry ∈ desired mode) :
    setKeys mode (entries.map fun entry => .entry [entry.1] entry.2.value) = entries.map Prod.fst := by
  induction entries with
  | nil => rfl
  | cons entry entries ih =>
    rw [List.map_cons, ← List.singleton_append, setKeys_append,
      setKeys_entry (mem_managed_of_desired (h entry (by simp))), ih fun e he => h e (by simp [he])]
    rfl

/-- A part that comes from the edit says nothing at the names but what is right. -/
theorem FromEdit.says_right {bs : List Block} (hparts : ∀ b ∈ bs, Part mode names b) {b : Block}
    (h : FromEdit mode package bs b) {s : Statement} (hs : s ∈ b.content) :
    s.sets names = false
      ∨ ∃ entry ∈ desired mode, SaysRight package (bs.flatMap Block.content) entry s := by
  cases h with
  | old b hnone hb =>
    left
    cases hparts b hb with
    | managed line key rest value hkey => simp [hnone line (by simp)] at hkey
    | other front last content _ _ _ _ hn => exact hn s hs
  | right line entry s' hkey hd hright =>
    obtain rfl := List.mem_singleton.mp hs
    exact Or.inr ⟨entry, hd, hright⟩

/-- A line of the edited section that sets a managed key is found among what the section says. -/
theorem FromEdit.exists_of_line {before : List Block} {b : Block} (h : FromEdit mode package before b)
    {line key : Text} (hline : line ∈ b.lines) (hkey : managedKey? mode line = some key) :
    ∃ entry ∈ desired mode, entry.1 = key
      ∧ ∃ s ∈ b.content, SaysRight package (before.flatMap Block.content) entry s := by
  cases h with
  | old b hnone hb => simp [hnone line hline] at hkey
  | right line' entry s hkey' hd hs =>
    obtain rfl := List.mem_singleton.mp hline
    exact ⟨entry, hd, Option.some.inj (hkey'.symm.trans hkey), s, by simp, hs⟩

/-- An entry to be set is said rightly in what remains of the section, or it is new. -/
theorem Edited.says_or_new {newline : Text} {bs bs' : List Block}
    (h : Edited mode package newline bs bs') {new : List (Text × Setting)}
    (hnew : ∀ entry ∈ new, entry ∈ desired mode)
    (honce : ((bs'.flatMap Block.lines).filterMap (managedKey? mode) ++ new.map Prod.fst).Perm
      ((desired mode).map Prod.fst))
    {entry : Text × Setting} (hentry : entry ∈ desired mode) :
    (∃ s ∈ bs'.flatMap Block.content, SaysRight package (bs.flatMap Block.content) entry s)
      ∨ entry ∈ new := by
  have hkey : entry.1 ∈ (desired mode).map Prod.fst := List.mem_map_of_mem hentry
  rcases List.mem_append.mp (honce.mem_iff.mpr hkey) with hkey | hkey
  · -- a line sets the key
    left
    obtain ⟨line, hline, hset⟩ := List.mem_filterMap.mp hkey
    obtain ⟨b, hb, hline⟩ := List.mem_flatMap.mp hline
    obtain ⟨other, ho, hkeys, s, hs, hright⟩ := (h.fromEdit b hb).exists_of_line hline hset
    obtain rfl := mem_desired_unique ho hentry hkeys
    exact ⟨s, List.mem_flatMap.mpr ⟨b, hb, hs⟩, hright⟩
  · right
    obtain ⟨other, ho, hkeys⟩ := List.mem_map.mp hkey
    rwa [← mem_desired_unique (hnew other ho) hentry hkeys]

/-- The keys that are set with the new entries between the others. -/
theorem setKeys_put (hnames : ∀ key ∈ managed mode, key ∈ names) {bs : List Block}
    (hparts : ∀ b ∈ bs, Part mode names b) {new : List (Text × Setting)}
    (hnew : ∀ entry ∈ new, entry ∈ desired mode) {front rest : List Statement}
    (hsplit : bs.flatMap Block.content = front ++ rest) :
    (setKeys mode (front ++ ((new.map fun entry => .entry [entry.1] entry.2.value) ++ rest))).Perm
      ((bs.flatMap Block.lines).filterMap (managedKey? mode) ++ new.map Prod.fst) := by
  rw [setKeys_append, setKeys_append, setKeys_new new hnew, ← setKeys_blocks hnames hparts, hsplit,
    setKeys_append, List.append_assoc]
  exact List.Perm.append_left _ List.perm_append_comm

theorem Edited.rewritten {newline : Text} {bs bs' : List Block}
    (h : Edited mode package newline bs bs') (hnewline : IsNewline newline)
    (hparts : ∀ b ∈ bs, Part mode names b) {new : List (Text × Setting)}
    (hnew : ∀ entry ∈ new, entry ∈ desired mode)
    (honce : ((bs'.flatMap Block.lines).filterMap (managedKey? mode) ++ new.map Prod.fst).Perm
      ((desired mode).map Prod.fst))
    {front rest : List Statement} (hsplit : bs'.flatMap Block.content = front ++ rest) :
    Rewritten mode package names (bs.flatMap Block.content)
      (front ++ ((new.map fun entry => .entry [entry.1] entry.2.value) ++ rest)) := by
  have hparts' : ∀ b ∈ bs', Part mode names b := h.parts hnewline hparts
  -- what is said in the end is what the parts say that remain, or a new entry
  have hmem : ∀ s, s ∈ front ++ ((new.map fun entry => .entry [entry.1] entry.2.value) ++ rest) ↔
      s ∈ bs'.flatMap Block.content ∨ ∃ entry ∈ new, s = .entry [entry.1] entry.2.value := by
    intro s
    rw [hsplit]
    simp only [List.mem_append, List.mem_map, eq_comm (a := s)]
    rw [← or_assoc, or_right_comm]
  constructor
  · intro s hs
    rcases (hmem s).mp hs with hs | ⟨entry, -, rfl⟩
    · exact entries_flatMap (fun b hb => (hparts' b hb).entries) s hs
    · exact ⟨rfl, by simp [Statement.key]⟩
  · rw [notSetting_append, notSetting_append, notSetting_new new hnew, List.nil_append,
      ← notSetting_append, ← hsplit]
    exact h.others
  · intro s hs
    rcases (hmem s).mp hs with hs | ⟨entry, hentry, rfl⟩
    · obtain ⟨b, hb, hs⟩ := List.mem_flatMap.mp hs
      exact (h.fromEdit b hb).says_right hparts hs
    · exact Or.inr ⟨entry, hnew entry hentry, Or.inl rfl⟩
  · intro entry hentry
    rcases h.says_or_new hnew honce hentry with ⟨s, hs, hright⟩ | hsome
    · exact ⟨s, (hmem s).mpr (Or.inl hs), hright⟩
    · exact ⟨_, (hmem _).mpr (Or.inr ⟨entry, hsome, rfl⟩), Or.inl rfl⟩
  · intro hnames
    exact ((setKeys_put hnames hparts' hnew hsplit).trans honce).nodup_iff.mpr (nodup_desired mode)

/-- The new lines can be put into what remains of the section. -/
theorem Layout.ReadAs.insertable {l : Layout} {r : Reading} (h : l.ReadAs mode names r) {bs : List Block}
    (hedited : Edited mode package l.newline r.body bs) :
    Insertable bs ((absent mode l.body).map (newPart l.newline)) (r.before.map Block.text)
      (r.after.map Block.text) [.table [packageName]] l.header where
  reads := fun b hb => (hedited.parts l.isNewline h.body b hb).reads
  news_reads := by
    intro b hb
    obtain ⟨entry, he, rfl⟩ := List.mem_map.mp hb
    rw [newPart, Block.text, List.flatten_singleton]
    exact reads_entryLine (mem_absent.mp he).1 (Or.inr l.isNewline)
  news_end := by
    intro b hb
    obtain ⟨entry, -, rfl⟩ := List.mem_map.mp hb
    rw [newPart, Block.text, List.flatten_singleton]
    exact endsLine_append_newline l.isNewline _
  header_reads := h.header
  header_ne := by
    intro hnil
    have hread := h.header
    rw [hnil] at hread
    exact absurd hread.nil (by simp)
  separate := by
    -- the lines of the edited section end where the old ones did
    have hsection := (List.pairwise_cons.mp (List.pairwise_append.mp h.separate).2.1).2
    have hfor := hedited.standsFor l.isNewline hsection
    have hall : Separate ((r.before.map Block.text ++ [l.header])
        ++ (r.body.map Block.text ++ r.after.map Block.text)) := by
      simpa using h.separate
    simpa using hfor.append hall

/-- The blocks of the edited section: those that remain of the section, with the new ones put in. -/
theorem Layout.ReadAs.exists_putIn {l : Layout} {r : Reading} (h : l.ReadAs mode names r)
    (package : Toml.Table) :
    ∃ bs bs', Edited mode package l.newline r.body bs
      ∧ ((bs.flatMap Block.lines).filterMap (managedKey? mode) ++ (absent mode l.body).map Prod.fst).Perm
          ((desired mode).map Prod.fst)
      ∧ PutIn l.newline bs ((absent mode l.body).map (newPart l.newline)) (r.before.map Block.text)
          (r.after.map Block.text) [.table [packageName]] (l.withLicense mode package).header
          (l.withLicense mode package).body bs' := by
  have hwork := l.reworked_withLicense mode package
  generalize (editBody mode package l.newline [] l.body).1 = kept at hwork
  have hremains := hwork.remains
  rw [h.body_lines] at hremains
  obtain ⟨bs, rfl, hedited⟩ := remains_blocks h.body hremains
  have hinserted := hwork.inserted
  rw [← flatMap_newPart_lines] at hinserted
  obtain ⟨bs', hput⟩ :=
    (h.insertable hedited).exists_putIn l.isNewline (hedited.parts l.isNewline h.body) hinserted
  exact ⟨bs, bs', hedited, hwork.once, hput⟩

/-- **The edit rewrites the statements of the section** and leaves the others. -/
theorem Layout.ReadAs.edited {l : Layout} {r : Reading} (h : l.ReadAs mode names r)
    (package : Toml.Table) :
    ∃ ss, Rewritten mode package names (contents r.body) ss
      ∧ Toml.statements (Text.joinPairs (editedText mode package l)) = .ok (r.statements ss) := by
  obtain ⟨bs, bs', hedited, honce, hput⟩ := h.exists_putIn package
  have hdesired : ∀ entry ∈ absent mode l.body, entry ∈ desired mode :=
    fun entry he => (mem_absent.mp he).1
  obtain ⟨front, rest, hsplit, hcontent⟩ := hput.content
  rw [flatMap_newPart_content] at hcontent
  refine ⟨contents bs', ?_, ?_⟩
  · unfold contents
    rw [hcontent]
    exact hedited.rewritten l.isNewline h.body hdesired honce hsplit
  · exact statements_lines h.before_lines h.before hput.opened hput.lines hput.reads h.after_lines h.after
      hput.separate

end CrateSync.Manifest
