/-
# The test run

What the command that runs the tests starts, and how it ends.  Once the root of the repository is found
nothing ends it but an exit code: the setting decides which command is started, and whether one is; how
that turns out decides the exit code; and everything else that can go wrong has an exit code too.

* `test_run_ends` : the commands that are started, and the exit code, for each value of the setting.
-/
import CrateSync.Proofs.Command.Presentation
import CrateSync.Proofs.FileSystem.Effect
import CrateSync.Command.Run

namespace CrateSync

/-! ## Looking at the setting -/

/-- What cannot be asked for is not just missing. -/
theorem FileSystem.number_of_isFile_error {fs : FileSystem} {p : Path} {e : SystemError}
    (h : fs.isFile p = .error e) : e.number ≠ Errno.noEntry.number := by
  unfold FileSystem.isFile FileSystem.leadsTo at h
  rcases hs : fs.status p with cause | ⟨loc, node⟩
  · rw [hs] at h
    cases cause with
    | noEntry | notDirectory | tooManyLinks => exact absurd h (by simp)
    | fileExists | isDirectory | nameTooLong =>
      obtain rfl := Except.error.inj h
      simp [Errno.about, Errno.number]
  · rw [hs] at h
    exact absurd h (by simp)

namespace TestRun

/-- A setting that cannot be read is not just missing. -/
theorem number_of_readSetting_error {fs : FileSystem} {p : Path} {e : SystemError}
    (h : readSetting fs p = .error e) : e.number ≠ Errno.noEntry.number := by
  unfold readSetting at h
  rcases hf : fs.isFile p with e' | _ | _
  · rw [hf] at h
    obtain rfl := Except.error.inj h
    exact FileSystem.number_of_isFile_error hf
  · rw [hf] at h
    exact absurd h (by simp)
  · obtain ⟨content, hr⟩ := FileSystem.exists_read_of_isFile hf
    rw [hf] at h
    simp only [hr] at h
    exact absurd h (by simp [Except.map])

/-- The exit code that follows from how starting a command turns out: its own one, or one for a command
that is missing and one for all else that keeps it from being started. -/
def Launch.exitCode : Launch → Int
  | .exited code => code
  | .refused e => if e.number = Errno.noEntry.number then 127 else 1

end TestRun

namespace Command

open Presentation TestRun

/-! ## How the test run ends -/

theorem testFailure_unknownMode (value : Text) :
    testFailure (.unknownMode value) = (("unknown_test_mode" : Text), 1) := rfl

theorem testFailure_system (e : SystemError) :
    testFailure (.system e)
      = if e.number = Errno.noEntry.number then (("command_not_found" : Text), 127)
        else (("os_error" : Text), 1) := rfl

theorem literal_testFailure (failure : TestRun.Failure) : Markup.Literal (testFailure failure).1 := by
  cases failure with
  | unknownMode value =>
    rw [testFailure_unknownMode]
    decide
  | system e =>
    rw [testFailure_system]
    split_ifs <;> decide

/-- The exit code that follows from a dispatch: the one that it gives, or the one of its failure. -/
def exitCodeOf (d : Dispatch) : Int :=
  match d.result with
  | .ok (_, exitCode) => exitCode
  | .error failure => (testFailure failure).2

/-- **The command ends as the dispatch does**: it starts the same commands and prints the same, and a
failure, which can always be shown, becomes an exit code. -/
theorem runTestsHere_eq {c : Circumstances} {root : Path}
    (h : discoverRoot c.host.fs here c.rootAnswer = .ok root) :
    let d := dispatch c.host.fs (root.along settingsFile) (some root.toText) c.launch
    ∃ err, runTestsHere c = ⟨⟨d.output, err⟩, d.calls, .ok (exitCodeOf d)⟩ := by
  intro d
  have hd : dispatch c.host.fs (root.along settingsFile) (some root.toText) c.launch = d := rfl
  unfold runTestsHere exitCodeOf
  rw [h]
  simp only [hd]
  rcases d.result with failure | ⟨mode, exitCode⟩
  · obtain ⟨lines, hlines⟩ := shown_error_ok (literal_testFailure failure) failure.message
    exact ⟨(onErr lines).err, by simp only [hlines]⟩
  · exact ⟨[], rfl⟩

/-- A command that is started decides the exit code. -/
theorem exitCodeOf_started (calls : List Call) (output : Text) (mode : TestMode) (launch : Launch) :
    exitCodeOf ⟨calls, output,
      match launch with
      | .exited code => .ok (mode, code)
      | .refused e => .error (.system e)⟩ = launch.exitCode := by
  cases launch with
  | exited code => rfl
  | refused e =>
    simp only [exitCodeOf, testFailure_system, Launch.exitCode]
    split_ifs <;> rfl

/-- **The test run.**  Once the root of the repository is found, the command ends with an exit code and
leaves the files as they are.  If the setting names a way of running tests, just the command for it is
started, in the root, and decides the exit code; if it says that tests are not to be run, nothing is
started and all is well; and if it names no way or cannot be read, nothing is started either, and the
exit code is one. -/
theorem test_run_ends {c : Circumstances} {root : Path}
    (h : discoverRoot c.host.fs here c.rootAnswer = .ok root) :
    let (fs, ending) := run c .runTests
    let starts (command : List Text) : Prop :=
      ending.calls = [⟨command, some root.toText⟩] ∧ ending.exit = .ok c.launch.exitCode
    fs = c.host.fs ∧
      match readSetting c.host.fs (root.along settingsFile) with
      | .error _ => ending.calls = [] ∧ ending.exit = .ok 1
      | .ok value =>
        (value = "miri" → starts ["cargo", "miri", "test"])
        ∧ (value = "cargo" → starts ["cargo", "test"])
        ∧ (value = "nextest" → starts ["cargo", "nextest", "run"])
        ∧ (value = "nothing" → ending.calls = [] ∧ ending.exit = .ok 0)
        ∧ (value ∉ (["miri", "cargo", "nextest", "nothing"] : List Text) →
            ending.calls = [] ∧ ending.printed.out = [] ∧ ending.exit = .ok 1) := by
  obtain ⟨err, hrun⟩ := runTestsHere_eq h
  simp only [run, hrun]
  refine ⟨trivial, ?_⟩
  rcases hsetting : readSetting c.host.fs (root.along settingsFile) with e | value
  · have hnumber := number_of_readSetting_error hsetting
    simp [dispatch, hsetting, exitCodeOf, testFailure_system, hnumber]
  · -- a way of running tests is looked up by its name, and each of the three has a command
    have hmode : ∀ mode : TestMode, value = mode.name →
        dispatch c.host.fs (root.along settingsFile) (some root.toText) c.launch
          = runMode (some root.toText) c.launch mode := by
      rintro mode rfl
      simp only [dispatch, hsetting, TestMode.ofName?_name]
    have hstarts : ∀ (mode : TestMode) (command : List Text), mode.command? = some command →
        value = mode.name →
        (dispatch c.host.fs (root.along settingsFile) (some root.toText) c.launch).calls
            = [⟨command, some root.toText⟩]
          ∧ exitCodeOf (dispatch c.host.fs (root.along settingsFile) (some root.toText) c.launch)
            = c.launch.exitCode := by
      intro mode command hcommand hv
      simp only [hmode mode hv, runMode, hcommand]
      exact ⟨trivial, exitCodeOf_started _ _ _ _⟩
    simp only [Except.ok.injEq]
    refine ⟨hstarts .miri _ rfl, hstarts .cargo _ rfl, hstarts .nextest _ rfl, fun hv => ?_,
      fun hv => ?_⟩
    · simp only [hmode .nothing hv, runMode, TestMode.command?, exitCodeOf]
      exact ⟨trivial, trivial⟩
    · have hnone : TestMode.ofName? value = none := by
        rcases hm : TestMode.ofName? value with _ | mode
        · rfl
        · obtain rfl := TestMode.name_of_ofName? hm
          exact absurd (by cases mode <;> decide) hv
      simp [dispatch, hsetting, hnone, exitCodeOf, testFailure_unknownMode]

/-- A repository whose setting asks for a run under the interpreter, which is ended by a signal. -/
theorem test_run_ended_by_signal :
    let c : Circumstances :=
      { host :=
          { fs := ⟨[(["work"], .directory), (["work", ".ci"], .directory),
              (["work", ".ci", "ci_tests.env"], .file (Text.encode "TEST_WITH=cargo\n TEST_WITH= miri\n"))],
              ["work"]⟩
            home := "/"
            users := []
            unreadable := [] }
        env := []
        year := 2024
        rootAnswer := none
        launch := .exited (-11) }
    discoverRoot c.host.fs here c.rootAnswer = .ok (.ofText "/work")
      ∧ (run c .runTests).2.calls = [⟨["cargo", "miri", "test"], some "/work"⟩]
      ∧ (run c .runTests).2.exit = .ok (-11) := by
  intro c
  have hroot : discoverRoot c.host.fs here c.rootAnswer = .ok (.ofText "/work") := by
    decide +kernel
  have hsetting : readSetting c.host.fs ((Path.ofText "/work").along settingsFile) = .ok "miri" := by
    decide +kernel
  have hrun := (test_run_ends hroot).2
  rw [hsetting] at hrun
  exact ⟨hroot, hrun.1 rfl⟩

end Command

end CrateSync
