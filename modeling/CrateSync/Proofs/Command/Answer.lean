/-
# The answer for programs

What a program that calls the command for a synchronisation can rely on: the exit code tells whether the
command line and the crate made sense and whether something failed, and the answer in JSON, read back as
any reader of JSON reads it, tells the same, and what was done to each file.

* `Tells` : what an answer says;
* `sync_answer_tells` : exit code, answer and report agree.
-/
import CrateSync.Proofs.Command.Formats
import CrateSync.Proofs.Console.Json

namespace CrateSync

/-! ## Looking into values -/

namespace Json

/-- The value of the first field with a name. -/
def field? (name : Text) : Json → Option Json
  | .object fields => fields.lookup name
  | _ => none

/-- The names of the fields of an object. -/
def names : Json → List Text
  | .object fields => fields.map Prod.fst
  | _ => []

/-- The text of a string. -/
def text? : Json → Option Text
  | .string t => some t
  | _ => none

end Json

namespace Command

open Presentation

/-! ## What answers say -/

/-- What an answer says about an action: the name of the file, the name of the outcome and the remark. -/
def actionTold? (j : Json) : Option (Text × Text × Text) := do
  let path ← j.field? "path"
  let outcome ← j.field? "outcome"
  let detail ← j.field? "detail"
  return (← path.text?, ← outcome.text?, ← detail.text?)

/-- An answer tells a report: its actions in order, and for each outcome how many actions have it, which
adds up to all of them. -/
structure TellsReport (data : Json) (report : Sync.Report) : Prop where
  actions : ∃ items, data.field? "actions" = some (.array items)
    ∧ items.map actionTold? = report.map fun a => some (a.path, a.outcome.name, a.detail)
  summary : ∃ counts, data.field? "summary" = some counts
    ∧ counts.names.Perm (Sync.Outcome.all.map Sync.Outcome.name)
    ∧ ∀ o : Sync.Outcome,
        counts.field? o.name = some (.integer (report.countP fun a => a.outcome = o))
  total : (Sync.Outcome.all.map fun o => report.countP fun a => a.outcome = o).sum = report.length

/-- An answer tells how a synchronisation ended: with an exit code, and with a report or with an error. -/
structure Tells (answer : Json) (code : Int) (report : Option Sync.Report) : Prop where
  names : answer.names.Nodup
  ok : answer.field? "ok" = some (.boolean (code = 0))
  exitCode : answer.field? "exit_code" = some (.integer code)
  outcome : match report with
    | none => (answer.field? "error").isSome ∧ answer.field? "data" = none
    | some report => answer.field? "error" = none
      ∧ ∃ data, answer.field? "data" = some data ∧ TellsReport data report

/-! ## What is written -/

/-- The numbers of actions for each outcome add up to all actions. -/
theorem sum_countP (report : Sync.Report) :
    (Sync.Outcome.all.map fun o => report.countP fun a => a.outcome = o).sum = report.length := by
  induction report with
  | nil => rfl
  | cons a rest ih =>
    simp only [List.countP_cons, List.length_cons, ← ih]
    cases ha : a.outcome <;> simp [Sync.Outcome.all] <;> omega

theorem actionTold?_actionJson (a : Sync.Action) :
    actionTold? (actionJson a) = some (a.path, a.outcome.name, a.detail) := rfl

theorem names_summary (r : Sync.Report) :
    (Json.object (outcomesByName.map fun o => (o.name, .integer (r.count o)))).names
      = outcomesByName.map Sync.Outcome.name := rfl

theorem field?_summary (r : Sync.Report) (o : Sync.Outcome) :
    (Json.object (outcomesByName.map fun o => (o.name, .integer (r.count o)))).field? o.name
      = some (.integer (r.count o)) := by
  cases o <;> rfl

theorem tellsReport_syncJson (r : SyncResult) : TellsReport (syncJson r) r.report where
  actions := ⟨r.report.map actionJson, rfl, by
    rw [List.map_map]
    exact List.map_congr_left fun a _ => actionTold?_actionJson a⟩
  summary := ⟨_, rfl, by rw [names_summary]; decide, fun o => by rw [field?_summary]; rfl⟩
  total := sum_countP r.report

/-- **The answer on a report tells the report.** -/
theorem tells_success (r : SyncResult) :
    Tells (successJson "sync" r.exitCode (syncJson r)) r.exitCode (some r.report) where
  names := (by decide : (["command", "data", "exit_code", "ok"] : List Text).Nodup)
  ok := by
    have hcode : decide ((r.exitCode : Int) = 0) = decide (r.exitCode = 0) := by simp
    rw [hcode]
    rfl
  exitCode := rfl
  outcome := ⟨rfl, _, rfl, tellsReport_syncJson r⟩

/-- The answer on an error tells that there is no report. -/
theorem tells_problem (p : Problem) (h : p.exitCode ≠ 0) : Tells (problemJson p) p.exitCode none where
  names := (by decide : (["command", "error", "exit_code", "ok"] : List Text).Nodup)
  ok := by
    have hcode : decide ((p.exitCode : Int) = 0) = false := by simp [h]
    rw [hcode]
    rfl
  exitCode := rfl
  outcome := ⟨rfl, rfl⟩

/-! ## The answer -/

/-- What is printed on one line and read back. -/
theorem line_of_onOut (j : Json) :
    ∃ text, (onOut j.write).out = text ++ ['\n'] ∧ text.all Json.isPrintable = true
      ∧ Json.decode text = some j :=
  ⟨j.write, rfl, Json.write_printable j, Json.decode_write j⟩

/-- The exit code tells whether an action failed. -/
theorem exitCode_eq (r : SyncResult) :
    (∃ a ∈ r.report, a.outcome = .failed) ∧ (r.exitCode : Int) = 1
      ∨ (∀ a ∈ r.report, a.outcome ≠ .failed) ∧ (r.exitCode : Int) = 0 := by
  by_cases h : r.report.hasFailed = true
  · refine Or.inl ⟨by simpa [Sync.Report.hasFailed] using h, ?_⟩
    rw [SyncResult.exitCode, if_pos h]
    rfl
  · refine Or.inr ⟨by simpa [Sync.Report.hasFailed] using h, ?_⟩
    rw [SyncResult.exitCode, if_neg h]
    rfl

/-- **Exit code, answer and report agree.**  A command line that names the synchronisation and ends with
an exit code ends in one of two ways: with two and without a report, and then no file was changed; or
with a report, and then with one if something failed and with zero if nothing did.  An answer in JSON is
one line of printable ASCII characters, from which the exit code and the report can be read. -/
theorem sync_answer_tells {c : Circumstances} {line : List Text} {code : Int} (hline : NamesSync line)
    (h : (runLine c line).2.exit = .ok code) :
    ∃ report : Option Sync.Report,
      (match report with
        | none => code = 2 ∧ (runLine c line).1 = c.host.fs
        | some r =>
          (∃ request format s, parse c.host.admits line = some (.sync request format)
            ∧ Settings.ofRequest c.host c.env TestRun.here request = .ok s
            ∧ Sync.run s c.year c.host.fs = ((runLine c line).1, .ok r))
          ∧ ((∃ a ∈ r, a.outcome = .failed) ∧ code = 1 ∨ (∀ a ∈ r, a.outcome ≠ .failed) ∧ code = 0))
      ∧ ∀ request, parse c.host.admits line = some (.sync request .json) →
          ∃ text answer, (runLine c line).2.printed.out = text ++ ['\n']
            ∧ text.all Json.isPrintable = true ∧ Json.decode text = some answer
            ∧ Tells answer code report := by
  rcases hparse : parse c.host.admits line with _ | command
  · -- a command line that makes no sense is refused before anything is done
    simp only [runLine, hparse] at h ⊢
    exact ⟨none, ⟨(Except.ok.inj h).symm, trivial⟩, by simp⟩
  · obtain ⟨request, format, rfl⟩ := hline.of_parse hparse
    obtain ⟨fs, ending, hending, hrun⟩ := runSync_ends c request
    have hline' : runLine c line = (fs, ending format) := by
      simp only [runLine, hparse, run, hrun]
    rw [hline'] at h ⊢
    simp only [Option.some.injEq, Command.sync.injEq, and_imp]
    cases hending with
    | refused name message hname =>
      refine ⟨none, ⟨endWith_exit_ok h, rfl⟩, ?_⟩
      rintro _ rfl rfl
      obtain ⟨text, hout, hprintable, hdecode⟩ :=
        line_of_onOut (problemJson ⟨"sync", invalidInput, name, message⟩)
      refine ⟨text, _, hout, hprintable, hdecode, ?_⟩
      rw [endWith_exit_ok h]
      exact tells_problem ⟨"sync", invalidInput, name, message⟩ (by simp [invalidInput])
    | unsettled | stopped => exact absurd h (by simp [crash])
    | reported s _ report hs hsync =>
      refine ⟨some report, ⟨⟨request, format, s, ⟨rfl, rfl⟩, hs, hsync⟩, ?_⟩, ?_⟩
      · rw [endWith_exit_ok h]
        exact exitCode_eq ⟨s.target, s.template, s.force, report⟩
      · rintro _ rfl rfl
        obtain ⟨text, hout, hprintable, hdecode⟩ := line_of_onOut
          (successJson "sync" (SyncResult.exitCode ⟨s.target, s.template, s.force, report⟩)
            (syncJson ⟨s.target, s.template, s.force, report⟩))
        refine ⟨text, _, hout, hprintable, hdecode, ?_⟩
        rw [endWith_exit_ok h]
        exact tells_success ⟨s.target, s.template, s.force, report⟩

/-- A crate brought up to date from a template without files: the copies fail, and the answer says so. -/
theorem answer_on_failed_copies :
    let c : Circumstances :=
      { host :=
          { fs := ⟨[(["crate"], .directory), (["crate", "Cargo.toml"], .file []),
              (["template"], .directory)], ["crate"]⟩
            home := "/"
            users := []
            unreadable := [] }
        env := []
        year := 2024
        rootAnswer := none
        launch := .exited 0 }
    let line : List Text := ["sync", "--template", "/template", "--format=json"]
    (runLine c line).2.exit = .ok 1
      ∧ ∃ report text answer, (∃ a ∈ report, a.outcome = .failed)
        ∧ (runLine c line).2.printed.out = text ++ ['\n'] ∧ Json.decode text = some answer
        ∧ Tells answer 1 (some report) := by
  intro c line
  have hexit : (runLine c line).2.exit = .ok 1 := by
    decide +kernel
  have hparse : parse c.host.admits line
      = some (.sync ⟨false, none, none, some (.ofText "/template")⟩ .json) := by
    decide +kernel
  obtain ⟨report, hreport, hanswer⟩ := sync_answer_tells ⟨_, Or.inl rfl⟩ hexit
  obtain ⟨text, answer, hout, -, hdecode, htells⟩ := hanswer _ hparse
  cases report with
  | none => exact absurd hreport.1 (by decide)
  | some report =>
    obtain ⟨-, ⟨hfailed, -⟩ | ⟨-, hcode⟩⟩ := hreport
    · exact ⟨hexit, report, text, answer, hfailed, hout, hdecode, htells⟩
    · exact absurd hcode (by decide)

end Command

end CrateSync
