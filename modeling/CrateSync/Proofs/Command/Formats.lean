/-
# The format of the answer

How a synchronisation ends that was asked for on a command line: a request that makes no sense is
refused, and changes nothing; an error that was not foreseen ends it; or there is a report.  Files and
exit codes come from the synchronisation, so that the format asked for has no part in them.  It has a part
in one thing: an answer that cannot be shown in it ends the command as an unforeseen error does, and
brackets keep an answer from being shown in some formats and not in others.

* `runSync_ends` : the ways in which the command can end;
* `FormatsAgree` : what the format has a part in;
* `formats_end_alike` : how command lines end that differ in the format;
* `bracketed_crate_ends_document` : a crate whose path has brackets.
-/
import CrateSync.Command.Run
import CrateSync.Proofs.Command.Arguments
import CrateSync.Proofs.Command.Presentation
import CrateSync.Proofs.Sync.Names

namespace CrateSync.Command

open Markup Presentation

/-! ## How the command ends -/

/-- How a synchronisation ends that a command asks for: the files that it leaves, and the ending in each
format. -/
inductive SyncEnding (c : Circumstances) (request : Settings.Request) :
    FileSystem → (OutputFormat → Ending) → Prop
  | refused (code message : Text) (hcode : Literal code) :
      SyncEnding c request c.host.fs fun format =>
        endWith invalidInput (showProblem format ⟨"sync", invalidInput, code, message⟩)
  | unsettled (e : Settings.Error)
      (h : Settings.ofRequest c.host c.env TestRun.here request = .error e) :
      SyncEnding c request c.host.fs fun _ => crash (.settings e)
  | stopped (s : Settings) (fs : FileSystem) (e : Sync.Failure)
      (h : Settings.ofRequest c.host c.env TestRun.here request = .ok s)
      (hrun : Sync.run s c.year c.host.fs = (fs, .error e)) :
      SyncEnding c request fs fun _ => crash (.sync e)
  | reported (s : Settings) (fs : FileSystem) (report : Sync.Report)
      (h : Settings.ofRequest c.host c.env TestRun.here request = .ok s)
      (hrun : Sync.run s c.year c.host.fs = (fs, .ok report)) :
      SyncEnding c request fs fun format =>
        endWith (SyncResult.exitCode ⟨s.target, s.template, s.force, report⟩)
          (showSync format ⟨s.target, s.template, s.force, report⟩)

/-- **The command ends in one of these ways**, whichever the format. -/
theorem runSync_ends (c : Circumstances) (request : Settings.Request) :
    ∃ fs ending, SyncEnding c request fs ending
      ∧ ∀ format, runSync c request format = (fs, ending format) := by
  rcases h : Settings.ofRequest c.host c.env TestRun.here request with e | s
  · by_cases hfault : ∃ f, e = .fault f
    · obtain ⟨f, rfl⟩ := hfault
      refine ⟨_, _, .refused "config_error" f.message (by decide), fun format => ?_⟩
      simp only [runSync, h]
    · refine ⟨_, _, .unsettled e h, fun format => ?_⟩
      cases e with
      | fault f => exact absurd ⟨f, rfl⟩ hfault
      | unknownHome | links | system => simp only [runSync, h]
  · have hcases := Sync.run_cases s c.year c.host.fs
    rcases hrun : Sync.run s c.year c.host.fs with ⟨fs, e | report⟩
    · rw [hrun] at hcases
      by_cases hmanifest : ∃ root, e = .noManifest root
      · obtain ⟨root, rfl⟩ := hmanifest
        cases hcases with
        | refused =>
          refine ⟨_, _, .refused "precondition_failed" (Sync.Failure.noManifest s.target).message
            (by decide), fun format => ?_⟩
          simp only [runSync, h, hrun]
      · refine ⟨_, _, .stopped s fs e h hrun, fun format => ?_⟩
        cases e with
        | noManifest root => exact absurd ⟨root, rfl⟩ hmanifest
        | system | excess => simp only [runSync, h, hrun]
    · exact ⟨_, _, .reported s fs report h hrun, fun format => by simp only [runSync, h, hrun]⟩

theorem endWith_exit_ok {n : Nat} {printing : Printing Printed} {code : Int}
    (h : (endWith n printing).exit = .ok code) : code = n := by
  cases printing with
  | ok printed => exact (Except.ok.inj h).symm
  | error fault => exact absurd h (by simp [endWith])

/-! ## Formats -/

section

variable {c : Circumstances} {request : Settings.Request} {s : Settings} {fs : FileSystem}
  {report : Sync.Report}

/-- The names of the files of a crate are shown as they are. -/
theorem literal_crateFiles : ∀ name ∈ Sync.crateFiles, Literal name := by
  decide

theorem literal_path (h : Sync.run s c.year c.host.fs = (fs, .ok report)) :
    ∀ a ∈ report, Literal a.path := by
  have hcases := Sync.run_cases s c.year c.host.fs
  rw [h] at hcases
  cases hcases with
  | reported _ _ _ hc => exact fun a ha => literal_crateFiles _ (hc.path_mem a ha)

/-- What keeps the answer of a synchronisation from being shown in a format. -/
def Hinders (s : Settings) (report : Sync.Report) : OutputFormat → Prop
  | .json => False
  | .table => '[' ∈ s.target.toText
  | .markdown => '[' ∈ s.target.toText ∨ '[' ∈ s.template.toText ∨ ¬Untangled report

/-- **An answer is shown** unless something hinders it. -/
theorem showSync_ok (h : Sync.run s c.year c.host.fs = (fs, .ok report)) {format : OutputFormat}
    (hshow : ¬Hinders s report format) :
    ∃ printed, showSync format ⟨s.target, s.template, s.force, report⟩ = .ok printed := by
  cases format with
  | json => exact ⟨_, rfl⟩
  | table => exact showSync_table_ok hshow (literal_path h)
  | markdown =>
    obtain ⟨htarget, htemplate, hr⟩ :
        '[' ∉ s.target.toText ∧ '[' ∉ s.template.toText ∧ Untangled report := by
      simpa [Hinders, not_or] using hshow
    exact showSync_markdown_ok htarget htemplate (literal_path h) hr

end

/-- What the format has no part in, and what it has a part in, when a synchronisation is asked for. -/
structure FormatsAgree (c : Circumstances) (request : Settings.Request) : Prop where
  files : ∀ format format', (run c (.sync request format)).1 = (run c (.sync request format')).1
  exitCodes : ∀ format format' code code', (run c (.sync request format)).2.exit = .ok code →
    (run c (.sync request format')).2.exit = .ok code' → code = code'
  /-- An error that ends the command where the answer is shown as JSON ends it in every format. -/
  errors : ∀ e, (run c (.sync request .json)).2.exit = .error e →
    ∀ format, (run c (.sync request format)).2.exit = .error e
  /-- In another format the command can end otherwise in one way only: there is a report, but something keeps
  it from being shown. -/
  hindered : ∀ format, (run c (.sync request format)).2.exit ≠ (run c (.sync request .json)).2.exit →
    ∃ s fs report fault, Settings.ofRequest c.host c.env TestRun.here request = .ok s
      ∧ Sync.run s c.year c.host.fs = (fs, .ok report)
      ∧ (run c (.sync request format)).2.exit = .error (.markup fault)
      ∧ Hinders s report format

/-- Nothing is left to the format where every format ends the command with one exit. -/
theorem FormatsAgree.of_exit {c : Circumstances} {request : Settings.Request} {exit : Except Crash Int}
    (hfiles : ∀ format format', (run c (.sync request format)).1 = (run c (.sync request format')).1)
    (hexit : ∀ format, (run c (.sync request format)).2.exit = exit) : FormatsAgree c request where
  files := hfiles
  exitCodes format format' code code' h h' := by
    rw [hexit] at h h'
    exact Except.ok.inj (h.symm.trans h')
  errors e h format := by
    rw [hexit] at h ⊢
    exact h
  hindered format hne := absurd (by rw [hexit, hexit]) hne

theorem formatsAgree (c : Circumstances) (request : Settings.Request) : FormatsAgree c request := by
  obtain ⟨fs, ending, hending, hrun⟩ := runSync_ends c request
  replace hrun : ∀ format, run c (.sync request format) = (fs, ending format) := hrun
  have hfiles : ∀ format format', (run c (.sync request format)).1 = (run c (.sync request format')).1 :=
    fun format format' => by rw [hrun, hrun]
  cases hending with
  | refused code message hcode =>
    -- a refusal is shown in every format
    have hexit : ∀ format, (run c (.sync request format)).2.exit = .ok invalidInput := by
      intro format
      obtain ⟨printed, hprinted⟩ :=
        showProblem_ok format (p := ⟨"sync", invalidInput, code, message⟩) (by decide : Literal "sync") hcode
      simp only [hrun, hprinted]
      rfl
    exact .of_exit hfiles hexit
  | unsettled | stopped => exact .of_exit hfiles fun format => by rw [hrun]
  | reported s _ report h hs =>
    refine ⟨hfiles, ?_, ?_, ?_⟩
    · intro format format' code code' hcode hcode'
      rw [hrun] at hcode hcode'
      rw [endWith_exit_ok hcode, endWith_exit_ok hcode']
    · -- with an answer in JSON no error ends the command
      intro e he
      rw [hrun] at he
      exact absurd he (by simp [showSync, endWith])
    · intro format hne
      simp only [hrun] at hne ⊢
      rcases hshow : showSync format ⟨s.target, s.template, s.force, report⟩ with fault | printed
      · refine ⟨s, fs, report, fault, h, hs, rfl, ?_⟩
        by_contra hnone
        obtain ⟨printed, hprinted⟩ := showSync_ok hs hnone
        rw [hprinted] at hshow
        exact absurd hshow (by simp)
      · exact absurd (by rw [hshow]; rfl) hne

/-- **The format decides how an answer is shown, and no more.**  Command lines that differ in the format
only end alike, or ask for one synchronisation in two formats.  Then the files are the same, a command that
ends with exit codes in both formats ends with the same one, and one format can do what JSON does not only
where brackets in the path of the crate, or in a document those in the path of the template or in the
remarks, are taken for tags. -/
theorem formats_end_alike (c : Circumstances) :
    (∀ line line', DifferInFormat line line' → runLine c line = runLine c line'
      ∨ ∃ request format format', runLine c line = run c (.sync request format)
        ∧ runLine c line' = run c (.sync request format'))
    ∧ ∀ request, FormatsAgree c request := by
  refine ⟨fun line line' hdiffer => ?_, formatsAgree c⟩
  rcases parse_of_differInFormat hdiffer c.host.admits with ⟨h, h'⟩ | ⟨request, format, format', h, h'⟩
  · exact Or.inl (by simp only [runLine, h, h'])
  · exact Or.inr ⟨request, format, format', by simp only [runLine, h], by simp only [runLine, h']⟩

/-- A crate whose path has a tag in it, and a template that has all files. -/
def bracketedCrate : Circumstances where
  host :=
    { fs := ⟨[(["a["], .directory), (["a[", "b]"], .directory), (["a[", "b]", "Cargo.toml"], .file []),
        (["t"], .directory), (["t", ".github"], .directory), (["t", ".github", "workflows"], .directory),
        (["t", ".github", "workflows", "ci.yml"], .file []), (["t", "clippy.toml"], .file []),
        (["t", "deny.toml"], .file []), (["t", "rust-toolchain.toml"], .file []),
        (["t", "rustfmt.toml"], .file []), (["t", "README.md"], .file [])], ["a[", "b]"]⟩
      home := "/"
      users := []
      unreadable := [] }
  env := []
  year := 2024
  rootAnswer := none
  launch := .exited 0

/-- Two command lines for such a crate leave the same files, although only one of them can show its answer. -/
theorem bracketed_crate_left_alike :
    let line : List Text := ["sync", "--template", "/t", "--format", "json"]
    let line' : List Text := ["sync", "--template", "/t", "--format=md"]
    DifferInFormat line line' ∧ (runLine bracketedCrate line).1 = (runLine bracketedCrate line').1 := by
  intro line line'
  have hfront : readOptions syncOptions ["--template", "/t"] = some [.value "--template" "/t"] := rfl
  have hdiffer : DifferInFormat line line' :=
    .mk (Or.inl rfl) hfront (.next (v := "json") rfl) (.attached (v := "md") rfl)
  refine ⟨hdiffer, ?_⟩
  obtain ⟨hlines, hagree⟩ := formats_end_alike bracketedCrate
  rcases hlines line line' hdiffer with h | ⟨request, format, format', h, h'⟩
  · rw [h]
  · rw [h, h', (hagree request).files format format']

/-- **Brackets in the path of a crate**: the synchronisation is done, and the answer is given as JSON, but
as a table or as a document it ends with an error that was not foreseen. -/
theorem bracketed_crate_ends_document :
    let request : Settings.Request := ⟨false, none, none, some (.ofText "/t")⟩
    (run bracketedCrate (.sync request .json)).2.exit = .ok 0
      ∧ (run bracketedCrate (.sync request .table)).2.exit = .error (.markup (.notOpen "/b" 17))
      ∧ (run bracketedCrate (.sync request .markdown)).2.exit = .error (.markup (.notOpen "/b" 20)) := by
  decide +kernel

end CrateSync.Command
