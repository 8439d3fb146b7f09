/-
# What can be printed

Errors are shown in every format, since their messages are escaped; results are always written as JSON.
As a table and as a document results name the paths of the crate and of the template as they are, so
that brackets in these can keep them from being shown.  In a document all remarks stand in one marked-up
text, where escaping a remark does not keep a later one from closing a bracket that it leaves open.

* `showProblem_ok` : every error can be shown;
* `showSync_table_ok`, `showSync_markdown_ok` : a result can be shown unless there are such brackets.
-/
import CrateSync.Command.Presentation
import CrateSync.Proofs.Console.Presentable
import CrateSync.Proofs.FileSystem.Reach
import CrateSync.Proofs.Text.Numeral

namespace CrateSync

namespace Presentation

open Markup

/-! ## Marked-up texts -/

theorem shown_ok {t : Text} (h : Presentable t) : ∃ lines, shown t = .ok lines := by
  obtain ⟨s, hs, hknown⟩ := h.render
  obtain ⟨lines, hlines⟩ := Screen.document_ok hknown
  exact ⟨Text.joinWith ['\n'] lines, by simp [shown, hs, hlines, bind, Except.bind, pure, Except.pure]⟩

theorem styled_append (style t behind : Text) :
    styled style t ++ behind = '[' :: (style ++ ']' :: (t ++ '[' :: '/' :: (style ++ ']' :: behind))) := by
  simp [styled]

/-- A text in a style can be shown in front of what can be shown. -/
theorem presentable_styled {style t behind : Text} (hs : IsWordStyle style) (ht : Literal t)
    (h : Presentable behind) : Presentable (styled style t ++ behind) := by
  rw [styled_append]
  exact hs.presentable_append ht h

theorem isWordStyle_bold : IsWordStyle "bold" := by
  decide +kernel

theorem isWordStyle_red : IsWordStyle "red" := by
  decide +kernel

theorem isWordStyle_outcome (o : Sync.Outcome) : IsWordStyle (outcomeStyle o) := by
  cases o <;> decide +kernel

theorem literal_outcome (o : Sync.Outcome) : Literal o.name := by
  cases o <;> decide

theorem literal_ofNat (n : Nat) : Literal (Text.ofNat n) where
  opening h := absurd (Text.isDigit_ofNat n _ h) (by decide)
  closing h := absurd (Text.isDigit_ofNat n _ h) (by decide)
  backslash h := absurd (Text.isDigit_ofNat n _ h) (by decide)

/-! ## Errors -/

/-- A message behind the name of an error can be shown. -/
theorem shown_error_ok {code : Text} (hcode : Literal code) (message : Text) :
    ∃ lines, shown ("[red]Error (" ++ code ++ "):[/red] " ++ escape message) = .ok lines := by
  have hinside : Literal ("Error (" ++ code ++ "):") :=
    ((by decide : Literal "Error (").append hcode).append (by decide)
  have hmessage : Presentable ((" " : Text) ++ escape message) :=
    (presentable_escape message).append_literal (by decide)
  have heq : styled "red" ("Error (" ++ code ++ "):") ++ ((" " : Text) ++ escape message)
      = "[red]Error (" ++ code ++ "):[/red] " ++ escape message := by
    simp [styled]
  rw [← heq]
  exact shown_ok (presentable_styled isWordStyle_red hinside hmessage)

/-- **Every error can be shown** in every format. -/
theorem showProblem_ok (format : OutputFormat) {p : Problem} (hcommand : Literal p.command)
    (hcode : Literal p.code) : ∃ printed, showProblem format p = .ok printed := by
  cases format with
  | json => exact ⟨_, rfl⟩
  | markdown =>
    have hfront : Literal ("# " ++ p.command ++ "\n\n- **status**: error\n- **code**: " ++ p.code
        ++ "\n- **message**: ") :=
      ((((by decide : Literal "# ").append hcommand).append (by decide)).append hcode).append
        (by decide)
    obtain ⟨lines, hlines⟩ := shown_ok ((presentable_escape p.message).append_literal hfront)
    exact ⟨onOut lines, by rw [showProblem, hlines]; rfl⟩
  | table =>
    obtain ⟨lines, hlines⟩ := shown_error_ok hcode p.message
    exact ⟨onErr lines, by rw [showProblem, hlines]; rfl⟩

/-! ## Lines -/

theorem joinWith_cons (line : Text) {lines : List Text} (h : lines ≠ []) :
    Text.joinWith ['\n'] (line :: lines) = line ++ '\n' :: Text.joinWith ['\n'] lines := by
  have heq := Text.joinWith_append ['\n'] (by simp : [line] ≠ []) h
  simpa [Text.joinWith] using heq

theorem not_mem_joinWith {c : Char} {lines : List Text} (hc : c ≠ '\n')
    (h : ∀ line ∈ lines, c ∉ line) : c ∉ Text.joinWith ['\n'] lines := by
  induction lines with
  | nil => simp [Text.joinWith]
  | cons line rest ih =>
    have hrest := ih fun l hl => h l (by simp [hl])
    by_cases hne : rest = []
    · simpa [hne, Text.joinWith] using h line (by simp)
    · rw [joinWith_cons line hne]
      simp [h line (by simp), hc, hrest]

theorem literal_joinWith {lines : List Text} (h : ∀ line ∈ lines, Literal line) :
    Literal (Text.joinWith ['\n'] lines) where
  opening := not_mem_joinWith (by decide) fun line hl => (h line hl).opening
  closing := not_mem_joinWith (by decide) fun line hl => (h line hl).closing
  backslash := not_mem_joinWith (by decide) fun line hl => (h line hl).backslash

/-! ## Documents -/

/-- No remark closes a bracket that an earlier one leaves open. -/
def Untangled (r : Sync.Report) : Prop :=
  r.Pairwise fun a b => LeavesOpen a.detail → ']' ∉ b.detail

theorem not_mem_actionLine {a : Sync.Action} (hpath : Literal a.path) (h : ']' ∉ a.detail) :
    ']' ∉ actionLine a := by
  have hescape : ']' ∉ escape a.detail := fun hin => h (mem_of_mem_escape hin (by decide))
  unfold actionLine
  split_ifs
  · simp [hpath.closing, (literal_outcome a.outcome).closing]
  · simp [hpath.closing, (literal_outcome a.outcome).closing, hescape]

/-- The line of an action can be shown in front of other lines, if these close no bracket that the remark
leaves open. -/
theorem presentable_actionLine {a : Sync.Action} {more : Text} (hpath : Literal a.path)
    (h : Presentable more) (hopen : LeavesOpen a.detail → ']' ∉ more) :
    Presentable (actionLine a ++ '\n' :: more) := by
  have hmore : Presentable ('\n' :: more) := h.append_literal (t := ['\n']) (by decide)
  have hfront : Literal ("- `" ++ a.path ++ "` | " ++ a.outcome.name) :=
    (((by decide : Literal "- `").append hpath).append (by decide)).append
      (literal_outcome a.outcome)
  by_cases hdetail : a.detail = []
  · have heq : actionLine a = "- `" ++ a.path ++ "` | " ++ a.outcome.name := by
      simp [actionLine, hdetail]
    rw [heq]
    exact hmore.append_literal hfront
  · have heq : actionLine a ++ '\n' :: more
        = ("- `" ++ a.path ++ "` | " ++ a.outcome.name ++ " (")
          ++ (escape a.detail ++ ')' :: ('\n' :: more)) := by
      simp [actionLine, hdetail]
    rw [heq]
    refine Presentable.append_literal ?_ (hfront.append (by decide))
    exact presentable_escape_append hmore (fun ho => by simp [hopen ho]) (by decide) (by decide)

/-- Lines of actions can be shown in front of lines that are shown as they are. -/
theorem presentable_actionLines {r : Sync.Report} {more : List Text} (hne : more ≠ [])
    (hpaths : ∀ a ∈ r, Literal a.path) (hmore : ∀ line ∈ more, Literal line) (hr : Untangled r) :
    Presentable (Text.joinWith ['\n'] (r.map actionLine ++ more)) := by
  induction r with
  | nil => exact (literal_joinWith hmore).presentable
  | cons a rest ih =>
    obtain ⟨hfirst, hrest⟩ := List.pairwise_cons.mp hr
    have hpaths' : ∀ b ∈ rest, Literal b.path := fun b hb => hpaths b (by simp [hb])
    rw [List.map_cons, List.cons_append, joinWith_cons _ (by simp [hne])]
    refine presentable_actionLine (hpaths a (by simp)) (ih hpaths' hrest) fun hopen => ?_
    refine not_mem_joinWith (by decide) fun line hl => ?_
    rcases List.mem_append.mp hl with hl | hl
    · obtain ⟨b, hb, rfl⟩ := List.mem_map.mp hl
      exact not_mem_actionLine (hpaths' b hb) (hfirst b hb hopen)
    · exact (hmore line hl).closing

/-- The lines at the end of a document, which count the actions by their outcomes. -/
def countLines (r : Sync.Report) : List Text :=
  [] :: Sync.Outcome.all.map fun o => "- **" ++ o.name ++ "**: " ++ Text.ofNat (r.count o)

theorem literal_countLines (r : Sync.Report) : ∀ line ∈ countLines r, Literal line := by
  intro line hl
  rcases List.mem_cons.mp hl with rfl | hl
  · decide
  · obtain ⟨o, -, rfl⟩ := List.mem_map.mp hl
    exact (((by decide : Literal "- **").append (literal_outcome o)).append (by decide)).append
      (literal_ofNat (r.count o))

theorem syncDocument_eq (r : SyncResult) :
    syncDocument r
      = ("# Template sync: `" ++ r.target.toText ++ "`\n\n- **template**: `" ++ r.template.toText
          ++ "`\n")
        ++ Text.joinWith ['\n'] (r.report.map actionLine ++ countLines r.report) := by
  simp [syncDocument, joinWith_cons, countLines, Sync.Report.summary, Function.comp_def]

/-- The marked-up text of a document can be shown if the two paths have no opening brackets and no remark
closes a bracket that an earlier one leaves open. -/
theorem presentable_syncDocument {r : SyncResult} (htarget : '[' ∉ r.target.toText)
    (htemplate : '[' ∉ r.template.toText) (hpaths : ∀ a ∈ r.report, Literal a.path)
    (hr : Untangled r.report) : Presentable (syncDocument r) := by
  have hlines := presentable_actionLines (by simp [countLines]) hpaths (literal_countLines r.report) hr
  rw [syncDocument_eq]
  refine hlines.append (clear_of_not_mem (by simp [htarget, htemplate]) _) ?_
  rw [List.getLast?_append]
  simp

/-! ## Tables -/

theorem mapM_ok {α β : Type} {f : α → Printing β} {items : List α}
    (h : ∀ a ∈ items, ∃ b, f a = .ok b) : ∃ bs, items.mapM f = .ok bs := by
  induction items with
  | nil => exact ⟨[], rfl⟩
  | cons a rest ih =>
    obtain ⟨b, hb⟩ := h a (by simp)
    obtain ⟨bs, hbs⟩ := ih fun a ha => h a (by simp [ha])
    exact ⟨b :: bs, by rw [List.mapM_cons, hb, hbs]; rfl⟩

theorem actionCells_ok {a : Sync.Action} (hpath : Literal a.path) :
    ∃ cells, actionCells a = .ok cells := by
  refine mapM_ok fun cell hcell => ?_
  have hshow : Presentable cell := by
    simp only [List.mem_cons, List.not_mem_nil, or_false] at hcell
    rcases hcell with rfl | rfl | rfl
    · exact hpath.presentable
    · have hstyled := presentable_styled (isWordStyle_outcome a.outcome) (literal_outcome a.outcome)
        (by decide : Literal []).presentable
      simpa using hstyled
    · exact presentable_escape a.detail
  obtain ⟨s, hs, -⟩ := hshow.render
  exact ⟨s.text, by rw [hs]; rfl⟩

/-- A table can be drawn if the styles of its title can be made out. -/
theorem lines_ok {t : Table} (h : Known t.title.spans) : ∃ lines, t.lines = .ok lines := by
  obtain ⟨title, htitle⟩ := Screen.title_ok h (Table.totalWidth (Table.narrowed t.widths))
  exact ⟨_, by simp only [Table.lines, htitle]; rfl⟩

theorem presentable_summary (r : Sync.Report) (outcomes : List Sync.Outcome) :
    Presentable (Text.joinWith ", " (outcomes.map fun o =>
      styled "bold" (Text.ofNat (r.count o)) ++ " " ++ o.name)) := by
  induction outcomes with
  | nil => exact (by decide : Literal []).presentable
  | cons o rest ih =>
    have hname : Literal (" " ++ o.name) := (by decide : Literal " ").append (literal_outcome o)
    cases rest with
    | nil =>
      have h := presentable_styled isWordStyle_bold (literal_ofNat (r.count o)) hname.presentable
      simpa [Text.joinWith] using h
    | cons next rest =>
      have h := presentable_styled isWordStyle_bold (literal_ofNat (r.count o))
        (ih.append_literal (hname.append (by decide : Literal ", ")))
      simpa [Text.joinWith] using h

/-- The lines under a table can be shown. -/
theorem closingLines_ok (r : Sync.Report) : ∃ lines, (closingLines r).mapM shown = .ok lines := by
  refine mapM_ok fun line hl => shown_ok ?_
  rcases List.mem_cons.mp hl with rfl | hl
  · exact presentable_summary r [.created, .overwritten, .updated, .skipped]
  · split_ifs at hl
    · obtain rfl := List.mem_singleton.mp hl
      have h := presentable_styled isWordStyle_red
        ((literal_ofNat (r.count .failed)).append (by decide : Literal " operation(s) failed."))
        (by decide : Literal []).presentable
      simpa using h
    · exact absurd hl (by simp)

/-! ## Results -/

/-- **A result can be shown as a table** if the path of the crate has no opening brackets. -/
theorem showSync_table_ok {r : SyncResult} (htarget : '[' ∉ r.target.toText)
    (hpaths : ∀ a ∈ r.report, Literal a.path) : ∃ printed, showSync .table r = .ok printed := by
  obtain ⟨rows, hrows⟩ := mapM_ok fun a ha => actionCells_ok (hpaths a ha)
  have hclear : Clear ("Template sync: " ++ r.target.toText) [] :=
    clear_of_not_mem (by simp [htarget]) []
  obtain ⟨title, htitle, hknown⟩ := (presentable_of_clear hclear).render
  have htable : syncTable r = .ok ⟨title, ["File", "Result", "Detail"], rows⟩ := by
    simp only [syncTable, hrows, htitle]
    rfl
  obtain ⟨table, hlines⟩ :=
    lines_ok (t := ⟨title, ["File", "Result", "Detail"], rows⟩) hknown
  obtain ⟨closing, hclosing⟩ := closingLines_ok r.report
  refine ⟨onOut (Text.joinWith ['\n'] (table ++ closing)), ?_⟩
  simp only [showSync, htable, bind, Except.bind, hlines, hclosing]
  rfl

/-- **A result can be shown as a document** if the two paths have no opening brackets and no remark closes
a bracket that an earlier one leaves open. -/
theorem showSync_markdown_ok {r : SyncResult} (htarget : '[' ∉ r.target.toText)
    (htemplate : '[' ∉ r.template.toText) (hpaths : ∀ a ∈ r.report, Literal a.path)
    (hr : Untangled r.report) : ∃ printed, showSync .markdown r = .ok printed := by
  obtain ⟨lines, hlines⟩ := shown_ok (presentable_syncDocument htarget htemplate hpaths hr)
  exact ⟨onOut lines, by rw [showSync, hlines]; rfl⟩

end Presentation

end CrateSync
