/-
# Plain manifests

A manifest is plain if all of its lines are: blank lines, comments, table headers and entries with truth
values and simple strings, with one header of the package table.  The edit accepts every plain manifest that
is a document, and does to its document what it is for.

* `PlainText`, `PlainManifest` : the form of the manifest and the statements of its lines;
* `PlainManifest.exists_reading` : the lines around and in the section, read one by one;
* `PlainReading.apart_before`, `PlainReading.apart_after` : outside of the section nothing is about the
  license keys;
* `edit_follows_plain_manifest` : the document of the edited manifest.
-/
import CrateSync.Proofs.Manifest.Meaning
import CrateSync.Proofs.Manifest.Recognition
import CrateSync.Proofs.Text.Lines
import CrateSync.Proofs.Toml.PlainStatement

namespace CrateSync.Manifest

open Toml (Statement statements enact Draft Entries Apart Elsewhere PlainLine PlainStatement)

/-! ## Plain texts -/

/-- A text of plain lines, each as a block with the statements that it says.  The last line may have no
ending. -/
inductive PlainText : Text → List Block → Prop
  | nil : PlainText [] []
  | last (t : Text) (ss : List Statement) (h : PlainLine t ss) (ht : t ≠ []) : PlainText t [⟨[t], ss⟩]
  | line (t ending rest : Text) (ss : List Statement) (bs : List Block) (h : PlainLine t ss)
      (he : IsNewline ending) (hr : PlainText rest bs) :
      PlainText (t ++ (ending ++ rest)) (⟨[t ++ ending], ss⟩ :: bs)

/-- The keys that say under which license a package is published. -/
def licenseKeys : List Text :=
  ["license", "license-file", "publish"]

/-- The line breaks of Unicode that may stand in the comments and strings of a document. -/
def rareBreaks : List Char :=
  ['\u0085', '\u2028', '\u2029']

/-- A manifest of plain lines with one header of the package table and none of a table at a license key of
it. -/
structure PlainManifest (manifest : Text) (bs : List Block) : Prop where
  plain : PlainText manifest bs
  ordinary : ∀ c ∈ manifest, c ∉ rareBreaks
  header : ∃ front rest, contents bs = front ++ .table [packageName] :: rest
    ∧ .table [packageName] ∉ front ∧ .table [packageName] ∉ rest
  others : ∀ key rest, .table (packageName :: key :: rest) ∈ contents bs → key ∉ licenseKeys

variable {mode : LicenseMode} {manifest : Text} {bs : List Block}

theorem isLineBreak_eq_false {c : Char} (hlegal : Toml.isIllegal c = false) (hrare : c ∉ rareBreaks) :
    Text.isLineBreak c = false := by
  simp only [rareBreaks, List.mem_cons, List.not_mem_nil, or_false, not_or, ← Char.toNat_inj] at hrare
  obtain ⟨h₁, h₂, h₃⟩ := hrare
  have h₁ : c.toNat ≠ 0x85 := h₁
  have h₂ : c.toNat ≠ 0x2028 := h₂
  have h₃ : c.toNat ≠ 0x2029 := h₃
  have hcontrol : ¬ c.toNat < 0x20 ∨ c.toNat = 9 := by
    by_contra hno
    rw [not_or, not_not] at hno
    obtain ⟨hlow, htab⟩ := hno
    have hc : c ≠ '\t' := fun heq => htab (heq ▸ rfl)
    simp [Toml.isIllegal, Toml.isControl, hlow, hc] at hlegal
  simp only [Text.isLineBreak, Bool.or_eq_false_iff, Bool.and_eq_false_iff, decide_eq_false_iff_not,
    beq_eq_false_iff_ne]
  omega

/-- **The lines of a plain text** are what its blocks hold. -/
theorem PlainText.lines (h : PlainText manifest bs) (hord : ∀ c ∈ manifest, c ∉ rareBreaks) :
    Text.lines manifest = bs.map Block.text := by
  induction h with
  | nil => rfl
  | last t ss h ht =>
    rw [Text.lines_eq_singleton (fun c hc => isLineBreak_eq_false (h.legal c hc) (hord c hc)) ht]
    simp [Block.text]
  | line t ending rest ss bs h he hr ih =>
    have hbreak : ∀ c ∈ t, Text.isLineBreak c = false := fun c hc =>
      isLineBreak_eq_false (h.legal c hc) (hord c (by simp [hc]))
    rw [Text.lines_append_newline hbreak he, ih fun c hc => hord c (by simp [hc])]
    simp [Block.text]

theorem PlainText.separate (h : PlainText manifest bs) : Separate (bs.map Block.text) := by
  induction h with
  | nil => exact List.Pairwise.nil
  | last t ss h ht => exact List.pairwise_singleton _ _
  | line t ending rest ss bs h he hr ih =>
    refine List.pairwise_cons.mpr ⟨fun u hu hne => Or.inr ?_, ih⟩
    rw [Block.text, List.flatten_singleton]
    exact endsLine_append_newline he t

/-! ## Plain blocks -/

/-- A block of one plain line. -/
inductive PlainBlock : Block → Prop
  | line (t ending : Text) (ss : List Statement) (h : PlainLine t ss)
      (he : ending = [] ∨ IsNewline ending) : PlainBlock ⟨[t ++ ending], ss⟩

theorem PlainText.plainBlock (h : PlainText manifest bs) : ∀ b ∈ bs, PlainBlock b := by
  induction h with
  | nil => exact fun b hb => absurd hb List.not_mem_nil
  | last t ss h ht =>
    intro b hb
    have hline : PlainBlock ⟨[t ++ []], ss⟩ := .line t [] ss h (Or.inl rfl)
    rwa [List.mem_singleton.mp hb, ← List.append_nil t]
  | line t ending rest ss bs h he hr ih =>
    intro b hb
    rcases List.mem_cons.mp hb with rfl | hb
    · exact .line t ending ss h (Or.inr he)
    · exact ih b hb

variable {b : Block}

theorem PlainBlock.lines_eq (h : PlainBlock b) : b.lines = [b.text] := by
  cases h
  simp [Block.text]

theorem PlainBlock.reads (h : PlainBlock b) : Reads b.text b.content := by
  cases h with
  | line t ending ss h he =>
    rw [Block.text, List.flatten_singleton]
    exact reads_plainLine h he

theorem PlainBlock.isTableHeader_iff (h : PlainBlock b) :
    isTableHeader b.text = true ↔ ∃ key, b.content = [.table key] := by
  cases h with
  | line t ending ss h he =>
    rw [Block.text, List.flatten_singleton]
    exact Manifest.isTableHeader_iff h (allBlank_ending he)

theorem PlainBlock.isPackageHeader_iff (h : PlainBlock b) :
    isPackageHeader b.text = true ↔ b.content = [.table [packageName]] := by
  cases h with
  | line t ending ss h he =>
    rw [Block.text, List.flatten_singleton]
    exact Manifest.isPackageHeader_iff h he

theorem PlainBlock.part (h : PlainBlock b) (hnot : isTableHeader b.text = false) :
    Part mode (managed mode) b := by
  cases h with
  | line t ending ss h he =>
    rw [Block.text, List.flatten_singleton] at hnot
    exact part_of_plainLine h he hnot

theorem PlainBlock.plain (h : PlainBlock b) : ∀ s ∈ b.content, PlainStatement s := by
  cases h with
  | line t ending ss h he => exact h.plain

theorem flatMap_lines_eq (h : ∀ b ∈ bs, PlainBlock b) : bs.flatMap Block.lines = bs.map Block.text := by
  induction bs with
  | nil => rfl
  | cons b bs ih =>
    rw [List.flatMap_cons, List.map_cons, (h b (by simp)).lines_eq, ih fun c hc => h c (by simp [hc])]
    rfl

/-- A plain line says one thing at most. -/
theorem PlainBlock.content_eq (h : PlainBlock b) {s : Statement} (hs : s ∈ b.content) :
    b.content = [s] := by
  cases h with
  | line t ending ss h he =>
    cases h with
    | nothing => exact absurd hs List.not_mem_nil
    | header => rw [List.mem_singleton.mp hs]
    | entry => rw [List.mem_singleton.mp hs]

theorem plain_of_mem_contents (h : ∀ b ∈ bs, PlainBlock b) {s : Statement} (hs : s ∈ contents bs) :
    PlainStatement s := by
  obtain ⟨b, hb, hs⟩ := List.mem_flatMap.mp hs
  exact (h b hb).plain s hs

/-! ## Plain manifests line by line -/

theorem contents_append (bs cs : List Block) : contents (bs ++ cs) = contents bs ++ contents cs :=
  List.flatMap_append

theorem contents_cons (b : Block) (bs : List Block) : contents (b :: bs) = b.content ++ contents bs :=
  List.flatMap_cons

/-- A plain manifest has one block with the package header. -/
theorem PlainManifest.exists_header (h : PlainManifest manifest bs) :
    ∃ before header rest, bs = before ++ header :: rest ∧ header.content = [.table [packageName]]
      ∧ .table [packageName] ∉ contents before ∧ .table [packageName] ∉ contents rest := by
  obtain ⟨front, behind, hsplit, hfront, hbehind⟩ := h.header
  have hmem : Statement.table [packageName] ∈ contents bs := by simp [hsplit]
  obtain ⟨header, hheader, hcontent⟩ := List.mem_flatMap.mp hmem
  have hcontent := (h.plain.plainBlock header hheader).content_eq hcontent
  obtain ⟨before, rest, rfl⟩ := List.append_of_mem hheader
  rw [contents_append, contents_cons, hcontent] at hsplit
  obtain ⟨rfl, -, rfl⟩ := (List.append_cons_inj_of_notMem hfront hbehind).mp hsplit.symm
  exact ⟨before, header, rest, rfl, hcontent, hfront, hbehind⟩

/-- The lines of a plain manifest, as they are read, and where its headers are. -/
structure PlainReading (mode : LicenseMode) (l : Layout) (r : Reading) : Prop where
  readAs : l.ReadAs mode (managed mode) r
  before_plain : ∀ b ∈ r.before, PlainBlock b
  body_plain : ∀ b ∈ r.body, PlainBlock b
  after_plain : ∀ b ∈ r.after, PlainBlock b
  begins : BeginsTable (r.after.map Block.text)
  single : ∀ s ∈ contents r.before ++ contents r.after, s ≠ .table [packageName]
  others : ∀ key rest, .table (packageName :: key :: rest) ∈ contents r.before ++ contents r.after →
    key ∉ licenseKeys

/-- The section of some lines ends at the next header. -/
theorem exists_section (bs : List Block) : ∃ body after, bs = body ++ after
    ∧ (∀ b ∈ body, isTableHeader b.text = false) ∧ BeginsTable (after.map Block.text) := by
  let noHeader : Block → Bool := fun b => !isTableHeader b.text
  refine ⟨bs.takeWhile noHeader, bs.dropWhile noHeader, List.takeWhile_append_dropWhile.symm, ?_, ?_⟩
  · intro b hb
    have hnone : noHeader b = true := List.mem_takeWhile_imp hb
    simpa [noHeader] using hnone
  · intro line hline
    have hhead := List.head?_dropWhile_not noHeader bs
    rw [List.head?_map] at hline
    obtain ⟨b, hb, rfl⟩ := Option.map_eq_some_iff.mp hline
    rw [hb] at hhead
    simpa [noHeader] using hhead

/-- **A plain manifest is read line by line.** -/
theorem PlainManifest.exists_reading (h : PlainManifest manifest bs) (mode : LicenseMode) :
    ∃ l r, Layout.ofLines? (Text.lines manifest) = some l ∧ PlainReading mode l r := by
  have hlines := h.plain.lines h.ordinary
  have hsep := h.plain.separate
  have hblocks := h.plain.plainBlock
  have hothers := h.others
  obtain ⟨before, header, rest, rfl, hcontent, hbefore, hrest⟩ := h.exists_header
  obtain ⟨body, after, rfl, hbody, hafter⟩ := exists_section rest
  simp only [List.mem_append, List.mem_cons, or_imp, forall_and, forall_eq] at hblocks
  obtain ⟨hblocksBefore, hblockHeader, hblocksBody, hblocksAfter⟩ := hblocks
  have hfirst : ∀ b ∈ before, isPackageHeader b.text = false := by
    intro b hb
    by_contra htrue
    rw [Bool.not_eq_false, (hblocksBefore b hb).isPackageHeader_iff] at htrue
    exact hbefore (List.mem_flatMap.mpr ⟨b, hb, by simp [htrue]⟩)
  rw [List.map_append, List.map_cons, List.map_append] at hlines hsep
  rw [contents_append, List.mem_append, not_or] at hrest
  refine ⟨⟨before.map Block.text, header.text, body.map Block.text, after.map Block.text⟩,
    ⟨before, body, after⟩, ?_, ?_⟩
  · rw [hlines]
    exact Layout.IsCut.ofLines? (l := ⟨_, _, _, _⟩) ⟨by simpa using hfirst,
      hblockHeader.isPackageHeader_iff.mpr hcontent, by simpa using hbody, hafter⟩
  have hread : Layout.ReadAs mode (managed mode)
      ⟨before.map Block.text, header.text, body.map Block.text, after.map Block.text⟩
      ⟨before, body, after⟩ :=
    { before_lines := (flatMap_lines_eq hblocksBefore).symm
      before := fun b hb => (hblocksBefore b hb).reads
      header := hcontent ▸ hblockHeader.reads
      body_lines := (flatMap_lines_eq hblocksBody).symm
      body := fun b hb => (hblocksBody b hb).part (hbody b hb)
      after_lines := (flatMap_lines_eq hblocksAfter).symm
      after := fun b hb => (hblocksAfter b hb).reads
      separate := hsep }
  refine ⟨hread, hblocksBefore, hblocksBody, hblocksAfter, hafter, ?_, ?_⟩
  · rintro s hs rfl
    rcases List.mem_append.mp hs with hs | hs
    · exact hbefore hs
    · exact hrest.2 hs
  · intro key more hmem
    refine hothers key more ?_
    rw [contents_append, contents_cons, contents_append]
    rcases List.mem_append.mp hmem with hmem | hmem
    · exact List.mem_append_left _ hmem
    · exact List.mem_append_right _ (List.mem_append_right _ (List.mem_append_right _ hmem))

/-! ## Outside of the section -/

section

variable {l : Layout} {r : Reading} {names : List Text}

/-- The other headers are of tables elsewhere. -/
theorem PlainReading.elsewhere (h : PlainReading mode l r) (hnames : ∀ key ∈ names, key ∈ licenseKeys)
    {key : Toml.Key} (hkey : key ≠ []) (hmem : .table key ∈ contents r.before ++ contents r.after) :
    Elsewhere packageName names key := by
  refine ⟨hkey, fun heq => h.single _ hmem (by rw [heq]), ?_⟩
  by_contra hhidden
  rw [Bool.not_eq_false] at hhidden
  obtain ⟨name, rest, rfl, hname⟩ := Toml.hidden_iff.mp hhidden
  exact h.others name rest hmem (hnames name hname)

/-- **In front of the section nothing is about the license keys.** -/
theorem PlainReading.apart_before (h : PlainReading mode l r)
    (hnames : ∀ key ∈ names, key ∈ licenseKeys) {d : Draft} {t : Toml.Table} (hopened : Opened r d t)
    (hkeys : ∀ s ∈ contents r.before, s.key ≠ []) : Apart packageName names [] (contents r.before) := by
  have hplain : ∀ s ∈ contents r.before, PlainStatement s := fun s hs =>
    plain_of_mem_contents h.before_plain hs
  refine Toml.apart_before_table (d := .empty) hplain hkeys ?_ (Or.inl rfl) hopened.enacted
  intro key hmem
  exact h.elsewhere hnames (hkeys _ hmem) (List.mem_append_left _ hmem)

/-- **Behind the section nothing is about the license keys.** -/
theorem PlainReading.apart_after (h : PlainReading mode l r)
    (hnames : ∀ key ∈ names, key ∈ licenseKeys) (hkeys : ∀ s ∈ contents r.after, s.key ≠ []) :
    Apart packageName names [packageName] (contents r.after) := by
  have helse : ∀ key, .table key ∈ contents r.after → Elsewhere packageName names key :=
    fun key hmem => h.elsewhere hnames (hkeys _ hmem) (List.mem_append_right _ hmem)
  have hplain : ∀ s ∈ contents r.after, PlainStatement s := fun s hs =>
    plain_of_mem_contents h.after_plain hs
  have hbegins := h.begins
  have hblocks := h.after_plain
  cases hafter : r.after with
  | nil => exact trivial
  | cons b more =>
    rw [hafter] at helse hplain hbegins hblocks
    obtain ⟨key, hkey⟩ := (hblocks b (by simp)).isTableHeader_iff.mp (hbegins b.text rfl)
    rw [contents_cons, hkey, List.singleton_append] at helse hplain ⊢
    have hfirst : Elsewhere packageName names key := helse key (by simp)
    refine ⟨⟨hfirst.shown, fun key value heq _ => absurd heq (by simp)⟩, ?_⟩
    exact Toml.apart_below (fun s hs => hplain s (by simp [hs]))
      (fun key hmem => helse key (by simp [hmem])) hfirst

theorem PlainReading.plain (h : PlainReading mode l r) :
    ∀ s ∈ r.statements (contents r.body), PlainStatement s := by
  intro s hs
  simp only [Reading.statements, List.mem_append, List.mem_cons] at hs
  rcases hs with hs | rfl | hs | hs
  · exact plain_of_mem_contents h.before_plain hs
  · exact .table _
  · exact plain_of_mem_contents h.body_plain hs
  · exact plain_of_mem_contents h.after_plain hs

/-- **A plain manifest has a package table**, if it is a document. -/
theorem PlainReading.exists_package (h : PlainReading mode l r) {t : Text} {root : Toml.Table}
    (hread : statements (Text.joinPairs t) = .ok (r.statements (contents r.body)))
    (hparse : Toml.parse t = .ok root) :
    ∃ package : Toml.Table, root.get? packageName = some (.table package) := by
  have hkeys := Toml.statements_key_ne_nil hread
  have hplain := h.plain
  obtain ⟨e, henact, rfl⟩ := (Toml.parse_eq_ok hread).mp hparse
  have hfree : e.root.ArrayFree := by
    refine Toml.arrayFree_of_enact hplain hkeys henact ?_
    intro name items
    exact fun hget => absurd hget (by simp [Draft.empty, Toml.Table.get?])
  obtain ⟨d, -, hrest⟩ := Toml.enact_append.mp henact
  obtain ⟨f, hf, hbehind⟩ := Toml.enact_cons.mp hrest
  -- the header makes a table, or an array
  obtain ⟨-, root, hroot, rfl⟩ :=
    (Statement.apply_eq_ok (s := .table [packageName]) (by simp [Statement.key]) rfl).mp hf
  obtain ⟨v, hv, rfl⟩ := Toml.Table.update_eq_ok.mp hroot
  have hcontainer : v.isContainer = true := Toml.behind_isContainer hv
  obtain ⟨w, hw, hshape⟩ := Toml.enact_root_within
    (fun s hs => hkeys s (by simp [Reading.statements] at hs ⊢; tauto)) hbehind packageName v
    (d.root.get?_put_self _ v)
  rw [← Toml.Value.isContainer_of_shape hshape] at hcontainer
  cases w with
  | table package => exact ⟨package, hw⟩
  | array items => exact absurd hw (hfree packageName items)
  | _ => exact absurd hcontainer (by simp [Toml.Value.isContainer])

end

/-! ## The edit of a plain manifest -/

theorem mem_licenseKeys_of_managed {key : Text} (h : key ∈ managed mode) : key ∈ licenseKeys := by
  have hall : ∀ key ∈ managed mode, key ∈ licenseKeys := by
    cases mode <;> decide
  exact hall key h

theorem mem_managed_of_stale {key : Text} (h : key ∈ stale mode) : key ∈ managed mode :=
  List.mem_append_right _ h

/-- A manifest is edited if the edited text is a document. -/
theorem exists_setLicense {root package root' : Toml.Table} {l : Layout}
    (hparse : Toml.parse manifest = .ok root) (hpackage : package? root = some package)
    (hl : Layout.ofLines? (Text.lines manifest) = some l)
    (hedited : Toml.parse (editedText mode package l) = .ok root') :
    ∃ result, setLicense mode manifest = .ok result
      ∧ result.getD manifest = editedText mode package l := by
  by_cases hsame : editedText mode package l = manifest
  · refine ⟨none, setLicense_eq_ok.mpr ?_, hsame.symm⟩
    exact ⟨root, package, l, hparse, hpackage, hl, Or.inl ⟨hsame, rfl⟩⟩
  · refine ⟨some (editedText mode package l), setLicense_eq_ok.mpr ?_, rfl⟩
    exact ⟨root, package, l, hparse, hpackage, hl, Or.inr ⟨hsame, rfl, root', hedited⟩⟩

/-- **The edit of a plain manifest.**  A plain manifest that is a document is edited, and the document of the
resulting text is that of the manifest with another package table: at the keys that are not managed it is the
same, the desired entries have their values, and there is no stale key. -/
theorem edit_follows_plain_manifest {root : Toml.Table} (h : PlainManifest manifest bs)
    (hparse : Toml.parse manifest = .ok root) (mode : LicenseMode) :
    ∃ (result : Option Text) (package package' : Toml.Table), setLicense mode manifest = .ok result
      ∧ package? root = some package
      ∧ Toml.parse (result.getD manifest) = .ok (root.put packageName (.table package'))
      ∧ package'.without (managed mode) = package.without (managed mode)
      ∧ (∀ entry ∈ desired mode, package'.get? entry.1 = some entry.2.value)
      ∧ ∀ key ∈ stale mode, package'.get? key = none := by
  obtain ⟨l, r, hl, hplain⟩ := h.exists_reading mode
  have hmanaged : ∀ key ∈ managed mode, key ∈ licenseKeys := fun key hkey =>
    mem_licenseKeys_of_managed hkey
  have hstale : ∀ key ∈ stale mode, key ∈ licenseKeys := fun key hkey =>
    hmanaged key (mem_managed_of_stale hkey)
  -- the document of the manifest in its stages
  have hold := hplain.readAs.statements
  rw [l.lines_ofLines hl, Text.flatten_lines] at hold
  have hkeys := Toml.statements_key_ne_nil hold
  have hkeysBefore : ∀ s ∈ contents r.before, s.key ≠ [] := fun s hs =>
    hkeys s (List.mem_append_left _ hs)
  have hkeysAfter : ∀ s ∈ contents r.after, s.key ≠ [] := fun s hs =>
    hkeys s (by simp [Reading.statements, hs])
  obtain ⟨package, hpackage⟩ := hplain.exists_package hold hparse
  obtain ⟨d₀, t₀, hopened⟩ := exists_opened hold hparse hpackage
  have hentries : Entries (contents r.body) :=
    entries_flatMap fun b hb => (hplain.readAs.body b hb).entries
  obtain ⟨d₁, d₂, hstaged, rfl⟩ := (parse_eq_ok_iff_staged hold hentries hopened).mp hparse
  -- the edited section is carried out as well
  obtain ⟨ss, hrewritten, hnew⟩ := hplain.readAs.edited package
  obtain ⟨d₁', d₂', hstaged'⟩ := hstaged.accepts hrewritten hpackage hkeysBefore
    (hplain.apart_before hmanaged hopened hkeysBefore) (hplain.apart_after hmanaged hkeysAfter)
  have hreparse : Toml.parse (editedText mode package l) = .ok d₂'.root :=
    (parse_eq_ok_iff_staged hnew hrewritten.entries hopened).mpr ⟨d₁', d₂', hstaged', rfl⟩
  obtain ⟨result, hresult, htext⟩ :=
    exists_setLicense hparse (package?_eq_some.mpr hpackage) hl hreparse
  obtain ⟨-, package', -, hpackage', -⟩ := hstaged'.tables
  obtain ⟨hroot, hsame⟩ := hstaged.frame hstaged' hrewritten.others hpackage hpackage'
  refine ⟨result, package, package', hresult, package?_eq_some.mpr hpackage, ?_, hsame, ?_, ?_⟩
  · rw [htext, hreparse, hroot]
  · refine hstaged.settles hstaged' hrewritten hpackage hpackage' ?_
    intro entry hentry value hmem _ hagrees
    refine Setting.eq_value_of_agrees hagrees fun _ hfalse => ?_
    cases plain_of_mem_contents hplain.body_plain hmem with
    | entry key written value hv => exact hv.eq_false hfalse
  · exact hstaged'.unset hkeysBefore (hplain.apart_before hstale hopened hkeysBefore)
      (hplain.apart_after hstale hkeysAfter)
      (hrewritten.sets_stale fun key hkey => mem_managed_of_stale hkey) hpackage'

/-- A manifest that inherits its license, with pairs as line breaks in the section and none at the end. -/
def inheritingManifest : Text :=
  "# demo\n[package]\r\nlicense.workspace = true # inherited\r\n\n[lib]\nname = \"x\""

/-- The lines of the manifest with what they say. -/
def inheritingBlocks : List Block :=
  [⟨["# demo\n"], []⟩,
    ⟨["[package]\r\n"], [.table [packageName]]⟩,
    ⟨["license.workspace = true # inherited\r\n"],
      [.entry ["license", "workspace"] (.boolean true)]⟩,
    ⟨["\n"], []⟩,
    ⟨["[lib]\n"], [.table ["lib"]]⟩,
    ⟨["name = \"x\""], [.entry ["name"] (.string "x")]⟩]

theorem inheritingManifest_plain : PlainManifest inheritingManifest inheritingBlocks where
  plain := by
    have hnone : Toml.Spaces [] := Toml.spaces_nil
    have hspace : Toml.Spaces " " := .of_all (by decide)
    have hpackage : Toml.DottedKey "package" ["package"] := .one _ (.of_all (by decide) (by decide))
    have hlib : Toml.DottedKey "lib" ["lib"] := .one _ (.of_all (by decide) (by decide))
    have hname : Toml.DottedKey "name" ["name"] := .one _ (.of_all (by decide) (by decide))
    have hworkspace : Toml.DottedKey "workspace" ["workspace"] :=
      .one _ (.of_all (by decide) (by decide))
    have hlicense : Toml.DottedKey "license.workspace" ["license", "workspace"] :=
      .more "license" [] [] "workspace" _ (.of_all (by decide) (by decide)) hnone hnone hworkspace
    refine .line "# demo" "\n" _ _ _ ?_ (Or.inl rfl) ?_
    · exact .nothing _ (.comment [] " demo" hnone (Toml.Legal.of_any (by decide)))
    refine .line "[package]" "\r\n" _ _ _ ?_ (Or.inr rfl) ?_
    · exact .header [] [] [] "package" [] _ hnone hnone hnone hpackage (.blank _ hnone)
    refine .line "license.workspace = true # inherited" "\r\n" _ _ _ ?_ (Or.inr rfl) ?_
    · exact .entry [] " " " " "license.workspace" "true" " # inherited" _ _ hnone hspace hspace hlicense
        .on (.comment " " " inherited" hspace (Toml.Legal.of_any (by decide)))
    refine .line [] "\n" _ _ _ (.nothing _ (.blank _ hnone)) (Or.inl rfl) ?_
    refine .line "[lib]" "\n" _ _ _ ?_ (Or.inl rfl) ?_
    · exact .header [] [] [] "lib" [] _ hnone hnone hnone hlib (.blank _ hnone)
    refine .last _ _ ?_ (by decide)
    refine .entry [] " " " " "name" "\"x\"" [] _ _ hnone hspace hspace hname (.string "x" ?_)
      (.blank _ hnone)
    intro c hc
    rw [List.mem_singleton.mp hc]
    decide
  ordinary := by
    have hall : (inheritingManifest.all fun c => !rareBreaks.contains c) = true := by decide
    intro c hc
    simpa using List.all_eq_true.mp hall c hc
  header := by
    refine ⟨[], [.entry ["license", "workspace"] (.boolean true), .table ["lib"],
      .entry ["name"] (.string "x")], rfl, by simp, by simp [packageName]⟩
  others := by
    intro key rest hmem
    simp [contents, inheritingBlocks, packageName] at hmem

/-- The license of a package that inherited it is set. -/
theorem edit_follows_inheriting_manifest :
    PlainManifest inheritingManifest inheritingBlocks
      ∧ ∃ root : Toml.Table, Toml.parse inheritingManifest = .ok root
        ∧ ∃ (result : Option Text) (package package' : Toml.Table),
          setLicense .proprietary inheritingManifest = .ok result ∧ package? root = some package
          ∧ Toml.parse (result.getD inheritingManifest)
            = .ok (root.put packageName (.table package'))
          ∧ package'.without (managed .proprietary) = package.without (managed .proprietary)
          ∧ (∀ entry ∈ desired .proprietary, package'.get? entry.1 = some entry.2.value)
          ∧ ∀ key ∈ stale .proprietary, package'.get? key = none := by
  have hdocument : ((Toml.parse inheritingManifest).toOption.bind package?).any (fun _ => true)
      = true := by
    decide +kernel
  obtain ⟨root, -, hparse, -⟩ := exists_package hdocument
  exact ⟨inheritingManifest_plain, root, hparse,
    edit_follows_plain_manifest inheritingManifest_plain hparse .proprietary⟩

/-- The entries take the line breaks of the header. -/
example : setLicense .proprietary inheritingManifest = .ok (some
    "# demo\n[package]\r\nlicense-file = \"LICENSE\"\r\npublish = false\r\n\n[lib]\nname = \"x\"") := by
  decide +kernel

end CrateSync.Manifest
