/-
# What a document shows

A document names the paths of the crate and of the template and gives a remark with each action.  The
paths are put into it as they are and the remarks are escaped, so that what it shows is what was put in
as long as the paths hold no tags, the remarks have no backslashes that escaping does not keep, and no text
opens a tag that a later one closes.  Texts in which a name stands between colons are left out: the console
knows pictures by such names.

* `documentLines` : the lines of a document, with all texts as they are;
* `Unaltered` : what shows all texts as they are;
* `shows_syncDocument` : the marked-up text of a document then shows its lines;
* `document_shows_texts` : a synchronisation prints them.
-/
import CrateSync.Proofs.Command.Formats
import CrateSync.Proofs.Console.Fitting
import CrateSync.Proofs.Console.Verbatim

namespace CrateSync

namespace Presentation

open Markup

/-! ## The lines of a document -/

/-- The line of an action, with the remark as it is. -/
def plainLine (a : Sync.Action) : Text :=
  let remark : Text := if a.detail = [] then [] else " (" ++ a.detail ++ ")"
  "- `" ++ a.path ++ "` | " ++ a.outcome.name ++ remark

/-- The lines of a document, with all texts as they are. -/
def documentLines (r : SyncResult) : List Text :=
  ["# Template sync: `" ++ r.target.toText ++ "`", [], "- **template**: `" ++ r.template.toText ++ "`"]
    ++ r.report.map plainLine ++ countLines r.report

/-- The texts that are put into a document. -/
def insertedTexts (r : SyncResult) : List Text :=
  r.target.toText :: r.template.toText :: r.report.map Sync.Action.detail

/-- Whether two colons stand in a text with something between them, but no blank. -/
def namesPicture : Text → Bool
  | [] => false
  | c :: rest =>
    let name := rest.takeWhile fun d => d != ':' && !Text.isBlank d
    (c = ':' && name ≠ [] && (rest.drop name.length).head? = some ':') || namesPicture rest

/-- What shows all texts of a document as they are. -/
structure Unaltered (r : SyncResult) : Prop where
  target : Untagged r.target.toText
  template : Untagged r.template.toText
  remarks : ∀ a ∈ r.report, Escapable a.detail
  /-- No text closes a tag that an earlier one opens. -/
  apart : (insertedTexts r).Pairwise fun t u => OpensTag t → closesTag u = false
  /-- The console shows pictures for some names between colons.  Which ones is left open here, and what
  shows the document leaves all such names alone. -/
  pictures : ∀ t ∈ insertedTexts r, namesPicture t = false

instance (r : SyncResult) : Decidable (Unaltered r) :=
  decidable_of_iff
    (Untagged r.target.toText ∧ Untagged r.template.toText ∧ (∀ a ∈ r.report, Escapable a.detail)
      ∧ ((insertedTexts r).Pairwise fun t u => OpensTag t → closesTag u = false)
      ∧ ∀ t ∈ insertedTexts r, namesPicture t = false)
    ⟨fun ⟨htarget, htemplate, hremarks, hapart, hpictures⟩ =>
        ⟨htarget, htemplate, hremarks, hapart, hpictures⟩,
      fun ⟨htarget, htemplate, hremarks, hapart, hpictures⟩ =>
        ⟨htarget, htemplate, hremarks, hapart, hpictures⟩⟩

/-! ## Lines that close no tag -/

theorem closesTag_joinWith {lines : List Text} (h : ∀ line ∈ lines, closesTag line = false) :
    closesTag (Text.joinWith ['\n'] lines) = false := by
  induction lines with
  | nil => rfl
  | cons line rest ih =>
    have hline := h line (by simp)
    by_cases hne : rest = []
    · simpa [hne, Text.joinWith] using hline
    · rw [joinWith_cons line hne]
      exact closesTag_append hline
        (closesTag_append (t := ['\n']) rfl (ih fun l hl => h l (by simp [hl])))

/-! ## Lines of actions -/

theorem literal_front {a : Sync.Action} (hpath : Literal a.path) :
    Literal ("- `" ++ a.path ++ "` | " ++ a.outcome.name) :=
  (((by decide : Literal "- `").append hpath).append (by decide)).append (literal_outcome a.outcome)

theorem closesTag_actionLine {a : Sync.Action} (hpath : Literal a.path) (hdetail : Escapable a.detail)
    (h : closesTag a.detail = false) : closesTag (actionLine a) = false := by
  have hfront := closesTag_of_literal (literal_front hpath)
  by_cases hempty : a.detail = []
  · simpa [actionLine, hempty] using hfront
  · have heq : actionLine a
        = ("- `" ++ a.path ++ "` | " ++ a.outcome.name) ++ (" (" ++ (escape a.detail ++ ")")) := by
      simp [actionLine, hempty]
    have hescape : closesTag (escape a.detail) = false :=
      (escapes_escape hdetail.end_ne).closesTag_eq.trans h
    rw [heq]
    exact closesTag_append hfront
      (closesTag_append (t := " (") (by decide) (closesTag_append hescape (by decide)))

/-- The line of an action shows itself in front of lines that close no tag that the remark opens. -/
theorem shows_actionLine {a : Sync.Action} {more u : Text} (hpath : Literal a.path)
    (hdetail : Escapable a.detail) (h : Shows more u) (hopen : OpensTag a.detail → closesTag more = false) :
    Shows (actionLine a ++ '\n' :: more) (plainLine a ++ '\n' :: u) := by
  have hmore : Shows ('\n' :: more) ('\n' :: u) := h.append_literal (t := ['\n']) (by decide)
  have hfront := literal_front hpath
  by_cases hempty : a.detail = []
  · have heq : actionLine a = "- `" ++ a.path ++ "` | " ++ a.outcome.name := by
      simp [actionLine, hempty]
    have hplain : plainLine a = "- `" ++ a.path ++ "` | " ++ a.outcome.name := by
      simp [plainLine, hempty]
    rw [heq, hplain]
    exact hmore.append_literal hfront
  · have heq : actionLine a ++ '\n' :: more
        = ("- `" ++ a.path ++ "` | " ++ a.outcome.name ++ " (")
          ++ (escape a.detail ++ ')' :: ('\n' :: more)) := by
      simp [actionLine, hempty]
    have hplain : plainLine a ++ '\n' :: u
        = ("- `" ++ a.path ++ "` | " ++ a.outcome.name ++ " (")
          ++ (a.detail ++ ')' :: ('\n' :: u)) := by
      simp [plainLine, hempty]
    rw [heq, hplain]
    refine Shows.append_literal ?_ (hfront.append (by decide))
    exact hmore.append_escape hdetail (by decide) (by decide) fun ho =>
      closesTag_append (t := [')', '\n']) (by decide) (hopen ho)

/-- Lines of actions show themselves in front of lines that are shown as they are. -/
theorem shows_actionLines {r : Sync.Report} {more : List Text} (hne : more ≠ [])
    (hpaths : ∀ a ∈ r, Literal a.path) (hremarks : ∀ a ∈ r, Escapable a.detail)
    (hapart : (r.map Sync.Action.detail).Pairwise fun t u => OpensTag t → closesTag u = false)
    (hmore : ∀ line ∈ more, Literal line) :
    Shows (Text.joinWith ['\n'] (r.map actionLine ++ more))
      (Text.joinWith ['\n'] (r.map plainLine ++ more)) := by
  induction r with
  | nil =>
    have hliteral := literal_joinWith hmore
    have hshown := shows_of_clear (clear_of_not_mem hliteral.opening [])
    rwa [unescapeBrackets_of_not_mem hliteral.opening] at hshown
  | cons a rest ih =>
    obtain ⟨hfirst, hrest⟩ := List.pairwise_cons.mp hapart
    have hpaths' : ∀ b ∈ rest, Literal b.path := fun b hb => hpaths b (by simp [hb])
    have hremarks' : ∀ b ∈ rest, Escapable b.detail := fun b hb => hremarks b (by simp [hb])
    rw [List.map_cons, List.cons_append, joinWith_cons _ (by simp [hne]), List.map_cons,
      List.cons_append, joinWith_cons _ (by simp [hne])]
    refine shows_actionLine (hpaths a (by simp)) (hremarks a (by simp)) (ih hpaths' hremarks' hrest)
      fun hopen => closesTag_joinWith fun line hl => ?_
    rcases List.mem_append.mp hl with hl | hl
    · obtain ⟨b, hb, rfl⟩ := List.mem_map.mp hl
      exact closesTag_actionLine (hpaths' b hb) (hremarks' b hb)
        (hfirst _ (List.mem_map_of_mem hb) hopen)
    · exact closesTag_of_literal (hmore line hl)

/-! ## Documents -/

theorem closesTag_actionLines {r : Sync.Report} (hpaths : ∀ a ∈ r, Literal a.path)
    (hremarks : ∀ a ∈ r, Escapable a.detail) (h : ∀ t ∈ r.map Sync.Action.detail, closesTag t = false) :
    closesTag (Text.joinWith ['\n'] (r.map actionLine ++ countLines r)) = false := by
  refine closesTag_joinWith fun line hl => ?_
  rcases List.mem_append.mp hl with hl | hl
  · obtain ⟨a, ha, rfl⟩ := List.mem_map.mp hl
    exact closesTag_actionLine (hpaths a ha) (hremarks a ha) (h _ (List.mem_map_of_mem ha))
  · exact closesTag_of_literal (literal_countLines r line hl)

/-- **The marked-up text of a document shows its lines.** -/
theorem shows_syncDocument {r : SyncResult} (hpaths : ∀ a ∈ r.report, Literal a.path)
    (h : Unaltered r) : Shows (syncDocument r) (Text.joinWith ['\n'] (documentLines r)) := by
  obtain ⟨htarget, hrest⟩ := List.pairwise_cons.mp h.apart
  obtain ⟨htemplate, hremarks⟩ := List.pairwise_cons.mp hrest
  let marked := Text.joinWith ['\n'] (r.report.map actionLine ++ countLines r.report)
  let plain := Text.joinWith ['\n'] (r.report.map plainLine ++ countLines r.report)
  have hlines : Shows marked plain :=
    shows_actionLines (by simp [countLines]) hpaths h.remarks hremarks (literal_countLines r.report)
  -- the document is put together from its end
  have hbreak : Shows ("\n" ++ marked) ("\n" ++ plain) := hlines.append_literal (by decide)
  have hsecond : Shows (r.template.toText ++ '`' :: ("\n" ++ marked))
      (r.template.toText ++ '`' :: ("\n" ++ plain)) :=
    hbreak.append_untagged h.template (by decide) (by decide) fun hopens =>
      closesTag_append (t := "`\n") (by decide)
        (closesTag_actionLines hpaths h.remarks fun t ht => htemplate t ht hopens)
  have hbetween := hsecond.append_literal (by decide : Literal "\n\n- **template**: `")
  have hfirst := hbetween.append_untagged (c := '`') h.target (by decide) (by decide) fun hopens =>
    closesTag_append (t := "`\n\n- **template**: `") (by decide)
      (closesTag_append (htarget _ (by simp) hopens)
        (closesTag_append (t := "`\n") (by decide)
          (closesTag_actionLines hpaths h.remarks fun t ht => htarget t (by simp [ht]) hopens)))
  have hdocument := hfirst.append_literal (by decide : Literal "# Template sync: `")
  have heq : Text.joinWith ['\n'] (documentLines r)
      = "# Template sync: `" ++ (r.target.toText ++ '`' :: ("\n\n- **template**: `"
        ++ (r.template.toText ++ '`' :: ("\n" ++ plain)))) := by
    simp [documentLines, joinWith_cons, countLines, plain]
  rw [syncDocument_eq, heq]
  simpa using hdocument

/-! ## Lines on the screen -/

theorem isBlank_of_isDigit {c : Char} (h : c.isDigit = true) : Text.isBlank c = false := by
  have hbounds : 48 ≤ c.toNat ∧ c.toNat ≤ 57 := by
    simpa [Char.isDigit, UInt32.le_iff_toNat_le] using h
  simp only [Text.isBlank, Bool.or_eq_false_iff, Bool.and_eq_false_iff, decide_eq_false_iff_not,
    beq_eq_false_iff_ne]
  omega

/-- What a line ends in is seen at the end of its last part. -/
theorem getLast?_any_append {t u : Text} (hne : u ≠ []) (h : u.getLast?.any Text.isBlank = false) :
    (t ++ u).getLast?.any Text.isBlank = false := by
  rwa [List.getLast?_append_of_ne_nil t hne]

/-- **No line of a document ends in a blank.** -/
theorem getLast?_documentLines {r : SyncResult} {line : Text} (h : line ∈ documentLines r) :
    line.getLast?.any Text.isBlank = false := by
  simp only [documentLines, countLines, List.mem_append, List.mem_cons, List.mem_map,
    List.not_mem_nil, or_false] at h
  rcases h with ((rfl | rfl | rfl) | ⟨a, -, rfl⟩) | rfl | ⟨o, -, rfl⟩
  · exact getLast?_any_append (u := "`") (by decide) (by decide)
  · rfl
  · exact getLast?_any_append (u := "`") (by decide) (by decide)
  · by_cases hempty : a.detail = []
    · have hname : a.outcome.name ≠ [] ∧ a.outcome.name.getLast?.any Text.isBlank = false := by
        cases a.outcome <;> decide
      simpa [plainLine, hempty] using getLast?_any_append (t := "- `" ++ a.path ++ "` | ") hname.1 hname.2
    · have hend := getLast?_any_append (t := "- `" ++ a.path ++ "` | " ++ a.outcome.name ++ " (" ++ a.detail)
        (u := ")") (by decide) (by decide)
      simpa [plainLine, hempty] using hend
  · rfl
  · refine getLast?_any_append (Text.ofNat_ne_nil _) ?_
    rw [List.getLast?_eq_some_getLast (Text.ofNat_ne_nil _)]
    exact isBlank_of_isDigit (Text.isDigit_ofNat _ _ (List.getLast_mem _))

/-! ## What is printed -/

/-- **A document is printed as its lines**, if these fit the screen. -/
theorem showSync_markdown_eq {r : SyncResult} (hpaths : ∀ a ∈ r.report, Literal a.path)
    (h : Unaltered r) (hfits : ∀ line ∈ documentLines r, Screen.Fits line) :
    showSync .markdown r = .ok (onOut (Text.joinWith ['\n'] (documentLines r))) := by
  have hrender := (shows_syncDocument hpaths h).render
  have hdocument := Screen.document_of_fits (s := .plain (Text.joinWith ['\n'] (documentLines r)))
    (by simp [documentLines]) rfl (by simp [Styled.plain, Known]) hfits
    fun line hl => getLast?_documentLines hl
  have hshown : shown (syncDocument r) = .ok (Text.joinWith ['\n'] (documentLines r)) := by
    simp only [shown, hrender, bind, Except.bind, hdocument]
    rfl
  rw [showSync, hshown]
  rfl

end Presentation

namespace Command

open Presentation

/-- What a synchronisation came to, where it gives a report. -/
def result? (c : Circumstances) (request : Settings.Request) : Option SyncResult :=
  match Settings.ofRequest c.host c.env TestRun.here request with
  | .error _ => none
  | .ok s =>
    (Sync.run s c.year c.host.fs).2.toOption.map fun report => ⟨s.target, s.template, s.force, report⟩

/-- **A document shows all texts as they are.**  A synchronisation that gives a report, and whose answer is
shown as a document, prints the heading with the path of the crate, the path of the template, a line for
each action with its path, its outcome and its remark if it has one, and a line for each outcome with the
number of actions.  The lines have to fit the screen, the paths must not hold tags, the remarks no
backslashes that escaping does not keep, and no text a name between colons, which may be that of a picture. -/
theorem document_shows_texts {c : Circumstances} {request : Settings.Request} {r : SyncResult}
    (h : result? c request = some r) (hplain : Unaltered r)
    (hfits : ∀ line ∈ documentLines r, Screen.Fits line) :
    (run c (.sync request .markdown)).2
      = ⟨onOut (Text.joinWith ['\n'] (documentLines r)), [], .ok r.exitCode⟩ := by
  rcases hs : Settings.ofRequest c.host c.env TestRun.here request with e | s
  · simp [result?, hs] at h
  · rcases hrun : Sync.run s c.year c.host.fs with ⟨fs, e | report⟩
    · simp [result?, hs, hrun, Except.toOption] at h
    · obtain rfl : SyncResult.mk s.target s.template s.force report = r := by
        simpa [result?, hs, hrun, Except.toOption] using h
      simp only [run, runSync, hs, hrun, showSync_markdown_eq (literal_path hrun) hplain hfits, endWith]

/-- The circumstances of a crate in a directory, beside a template without files. -/
def crateIn (directory : Text) : Circumstances where
  host :=
    { fs := ⟨[([directory], .directory), ([directory, "Cargo.toml"], .file []),
        (["template"], .directory)], [directory]⟩
      home := "/"
      users := []
      unreadable := [] }
  env := []
  year := 2024
  rootAnswer := none
  launch := .exited 0

/-- The request for a license in the name of an owner. -/
def licensedTo (owner : Text) : Settings.Request :=
  ⟨false, none, some owner, some (.ofText "/template")⟩

/-- An owner whose name has two tags, one of them behind a backslash, and a crate whose path has brackets
around a number. -/
theorem document_of_bracketed_owner :
    let c := crateIn "crate[1]"
    let request := licensedTo "[b]A\\[i]"
    let line : Text := "- `LICENSE` | created (permissive license for [b]A\\[i])"
    ∃ r, result? c request = some r ∧ Unaltered r ∧ (∀ line ∈ documentLines r, Screen.Fits line)
      ∧ line ∈ documentLines r
      ∧ (run c (.sync request .markdown)).2
        = ⟨onOut (Text.joinWith ['\n'] (documentLines r)), [], .ok r.exitCode⟩ := by
  intro c request line
  have hdecided : (result? c request).any (fun r =>
      decide (Unaltered r ∧ (∀ line ∈ documentLines r, Screen.Fits line) ∧ line ∈ documentLines r))
        = true := by
    decide +kernel
  obtain ⟨r, hr, hdecide⟩ := (Option.any_eq_true _ _).mp hdecided
  obtain ⟨hplain, hfits, hline⟩ := of_decide_eq_true hdecide
  exact ⟨r, hr, hplain, hfits, hline, document_shows_texts hr hplain hfits⟩

/-- A document whose lines fit the screen is printed otherwise. -/
def PrintsOtherwise (c : Circumstances) (request : Settings.Request) : Prop :=
  ∃ r, result? c request = some r ∧ (∀ line ∈ documentLines r, Screen.Fits line)
    ∧ (run c (.sync request .markdown)).2.printed
      ≠ onOut (Text.joinWith ['\n'] (documentLines r))

instance (c : Circumstances) (request : Settings.Request) : Decidable (PrintsOtherwise c request) :=
  decidable_of_iff
    ((result? c request).any (fun r => decide ((∀ line ∈ documentLines r, Screen.Fits line)
      ∧ (run c (.sync request .markdown)).2.printed
        ≠ onOut (Text.joinWith ['\n'] (documentLines r)))) = true)
    (by simp [PrintsOtherwise, Option.any_eq_true])

/-- **A document need not show all texts as they are**: a tag in the path of a crate is not shown, a single
backslash at the end of a remark becomes two, and one in front of a bracket at which no tag begins is lost. -/
theorem documents_print_otherwise :
    PrintsOtherwise (crateIn "crate[b]") (licensedTo "A")
      ∧ PrintsOtherwise (crateIn "crate") (licensedTo "A\\")
      ∧ PrintsOtherwise (crateIn "crate") (licensedTo "A\\[B") := by
  decide +kernel

end Command

end CrateSync
