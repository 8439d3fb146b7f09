/-
# The assignment that counts

The test setting of a crate grows line by line.  A line feed and a further line behind any content either
assign, and then what came before does not count, or leave the setting as it was; ill-formed octets and any
mixture of line breaks in the content make no difference.

* `settingOfFile_add_line` : what a further line does to a setting;
* `last_assignment_counts` : the same of reading two files;
* `readSetting_of_read` : every file gives a setting, and no setting is empty or holds a blank.
-/
import Mathlib.Data.List.Basic
import CrateSync.Proofs.FileSystem.Effect
import CrateSync.Proofs.Text.Blank
import CrateSync.Proofs.Text.Lines
import CrateSync.Proofs.Text.Utf8
import CrateSync.TestRun.Setting

namespace CrateSync.TestRun

open Text (Finished allBlank deleteBlanks dropBlanks dropBlanks_append isBlank isLineBreak lines unifyBreaks)

/-- A line that assigns: blanks, the start of an assignment and any value. -/
def Assigns (line : Text) : Prop :=
  ∃ blanks value : Text, allBlank blanks = true ∧ line = blanks ++ (assignmentStart ++ value)

/-- The text behind the first equals sign. -/
def behindSign (line : Text) : Text :=
  (line.dropWhile (· != '=')).drop 1

/-! ## Assignments -/

theorem assigned?_eq_some {line value : Text} :
    assigned? line = some value
      ↔ ∃ blanks : Text, allBlank blanks = true ∧ line = blanks ++ (assignmentStart ++ value) := by
  rw [assigned?, Text.after?, List.isPrefixOf?_eq_some_iff_append_eq]
  constructor
  · intro h
    refine ⟨line.takeWhile isBlank, List.all_takeWhile, ?_⟩
    rw [h, dropBlanks, List.takeWhile_append_dropWhile]
  · rintro ⟨blanks, hblanks, rfl⟩
    rw [dropBlanks_append hblanks]
    rfl

theorem assigns_iff {line : Text} : Assigns line ↔ ∃ value, assigned? line = some value := by
  simp only [Assigns, assigned?_eq_some]
  exact exists_comm

theorem behindSign_of_assigned {line value : Text} (h : assigned? line = some value) :
    behindSign line = value := by
  obtain ⟨blanks, hblanks, rfl⟩ := assigned?_eq_some.mp h
  have hsign : ∀ c ∈ blanks, (c != '=') = true := by
    intro c hc
    rw [bne_iff_ne]
    rintro rfl
    exact absurd (List.all_eq_true.mp hblanks _ hc) (by decide)
  rw [behindSign, List.dropWhile_append_of_pos hsign]
  rfl

/-- A line feed behind an assignment belongs to its value. -/
theorem assigned?_newline (line : Text) :
    assigned? (line ++ ['\n']) = (assigned? line).map (· ++ ['\n']) := by
  ext value
  rw [Option.map_eq_some_iff, assigned?_eq_some]
  constructor
  · rintro ⟨blanks, hblanks, heq⟩
    obtain rfl | ⟨front, last, rfl⟩ := List.eq_nil_or_concat' value
    · -- the start of an assignment does not end in a line feed
      have hlast := congrArg List.getLast? heq
      rw [List.getLast?_concat, List.append_nil,
        List.getLast?_append_of_ne_nil _ (by decide)] at hlast
      exact absurd hlast (by decide)
    · rw [← List.append_assoc, ← List.append_assoc] at heq
      obtain ⟨hline, hlast⟩ := List.append_inj' heq rfl
      refine ⟨front, assigned?_eq_some.mpr ⟨blanks, hblanks, ?_⟩, by rw [hlast]⟩
      rw [hline, List.append_assoc]
  · rintro ⟨value, hvalue, rfl⟩
    obtain ⟨blanks, hblanks, rfl⟩ := assigned?_eq_some.mp hvalue
    exact ⟨blanks, hblanks, by simp⟩

/-! ## The setting of some lines -/

/-- The setting that some lines make. -/
def settingOfLines (ts : List Text) : Text :=
  settingOf ((ts.filterMap assigned?).getLast?.getD [])

theorem settingIn_eq (t : Text) : settingIn t = settingOfLines (lines t) := by
  unfold settingIn settingOfLines
  cases ((lines t).filterMap assigned?).getLast? <;> rfl

theorem settingOf_newline (value : Text) : settingOf (value ++ ['\n']) = settingOf value := by
  have hdelete : deleteBlanks (value ++ ['\n']) = deleteBlanks value := by
    rw [deleteBlanks, List.filter_append]
    exact List.append_nil _
  rw [settingOf, settingOf, hdelete]

/-- **The last line counts if it assigns**, and changes nothing if not. -/
theorem settingOfLines_concat (ts : List Text) (line : Text) :
    settingOfLines (ts ++ [line]) = ((assigned? line).map settingOf).getD (settingOfLines ts) := by
  rw [settingOfLines, List.filterMap_append]
  cases h : assigned? line with
  | none =>
    rw [List.filterMap_cons_none h, List.filterMap_nil, List.append_nil]
    rfl
  | some value =>
    rw [List.filterMap_cons_some h, List.filterMap_nil, List.getLast?_concat]
    rfl

theorem settingOfLines_newline (ts : List Text) (line : Text) :
    settingOfLines (ts ++ [line ++ ['\n']]) = settingOfLines (ts ++ [line]) := by
  rw [settingOfLines_concat, settingOfLines_concat, assigned?_newline]
  cases assigned? line with
  | none => rfl
  | some value => exact settingOf_newline value

/-- A line feed behind a text makes no difference to its setting. -/
theorem settingIn_newline {t : Text} (h : '\r' ∉ t) : settingIn (t ++ ['\n']) = settingIn t := by
  have hreturn : t.getLast? ≠ some '\r' := fun hlast => h (List.mem_of_getLast? hlast)
  rw [settingIn_eq, settingIn_eq]
  obtain hmore | ⟨front, last, hlines, hmore⟩ := Text.lines_newline hreturn (Or.inl rfl)
  · rw [hmore, settingOfLines_concat]
    rfl
  · rw [hmore, hlines, settingOfLines_newline]

/-- What a further line does to the setting of a text that ends its last line. -/
theorem settingIn_append {t line : Text} (ht : Finished t) (hreturn : '\r' ∉ t)
    (hline : ∀ c ∈ line, isLineBreak c = false) :
    settingIn (t ++ line) = ((assigned? line).map settingOf).getD (settingIn t) := by
  cases hnil : line with
  | nil =>
    rw [List.append_nil]
    rfl
  | cons c rest =>
    rw [← hnil, settingIn_eq, settingIn_eq, Text.lines_append ht,
      Text.lines_eq_singleton hline (by simp [hnil]), settingOfLines_concat]
    exact fun hlast => absurd (List.mem_of_getLast? hlast) hreturn

/-! ## The setting of a file -/

/-- A line feed behind a text stays one, or belongs to the line break that the text ends with. -/
theorem exists_unifyBreaks_newline (t : Text) :
    ∃ front, unifyBreaks (t ++ ['\n']) = front ++ ['\n']
      ∧ (unifyBreaks t = front ∨ unifyBreaks t = front ++ ['\n']) := by
  by_cases h : t.getLast? = some '\r'
  · obtain ⟨front, rfl⟩ := List.getLast?_eq_some_iff.mp h
    have hpair : ∀ u : Text, front.getLast? = some '\r' → ('\r' :: u).head? ≠ some '\n' :=
      fun u _ => by simp
    refine ⟨unifyBreaks front, ?_, Or.inr (Text.unifyBreaks_append (hpair []))⟩
    rw [List.append_assoc, List.singleton_append, Text.unifyBreaks_append (hpair ['\n'])]
    rfl
  · exact ⟨unifyBreaks t, Text.unifyBreaks_append fun hlast => absurd hlast h, Or.inl rfl⟩

/-- A line feed behind a content makes no difference to its setting. -/
theorem settingIn_unifyBreaks_newline (t : Text) :
    settingIn (unifyBreaks (t ++ ['\n'])) = settingIn (unifyBreaks t) := by
  obtain ⟨front, hmore, rfl | h⟩ := exists_unifyBreaks_newline t
  · rw [hmore, settingIn_newline (Text.return_not_mem_unifyBreaks t)]
  · rw [hmore, h]

/-- **What a further line does to a setting**, whatever the content before it. -/
theorem settingOfFile_add_line (content : Octets) {line : Octets}
    (hline : ∀ c ∈ Utf8.decodeLossy line, isLineBreak c = false) :
    settingOfFile (content ++ 0x0A :: line)
      = ((assigned? (Utf8.decodeLossy line)).map settingOf).getD (settingOfFile content) := by
  have hdecode : Utf8.decodeLossy (content ++ 0x0A :: line)
      = (Utf8.decodeLossy content ++ ['\n']) ++ Utf8.decodeLossy line := by
    rw [Utf8.decodeLossy_append (by decide), List.append_assoc]
    rfl
  have hreturn : '\r' ∉ Utf8.decodeLossy line := fun hmem =>
    Text.ne_return_of_not_isLineBreak (hline _ hmem) rfl
  have hfinished : Finished (unifyBreaks (Utf8.decodeLossy content ++ ['\n'])) := by
    obtain ⟨front, hmore, -⟩ := exists_unifyBreaks_newline (Utf8.decodeLossy content)
    rw [hmore]
    exact Text.finished_of_endsLine (by simp [Text.endsLine])
  rw [settingOfFile, hdecode, Text.unifyBreaks_append (by simp),
    Text.unifyBreaks_eq_self hreturn,
    settingIn_append hfinished (Text.return_not_mem_unifyBreaks _) hline,
    settingIn_unifyBreaks_newline, settingOfFile]

/-! ## Reading files -/

theorem settingOf_spec (value : Text) :
    settingOf value ≠ [] ∧ ∀ c ∈ settingOf value, isBlank c = false := by
  unfold settingOf
  cases h : deleteBlanks value with
  | nil =>
    have hname : TestMode.standard.name.all (fun c => !isBlank c) = true := by decide
    exact ⟨by decide, by simpa using hname⟩
  | cons first rest =>
    have hmem : ∀ c ∈ deleteBlanks value, isBlank c = false := by
      intro c hc
      simpa using (List.mem_filter.mp hc).2
    rw [h] at hmem
    exact ⟨List.cons_ne_nil first rest, hmem⟩

/-- **Every file gives a setting**, which is not empty and holds no blank. -/
theorem readSetting_of_read {fs : FileSystem} {p : Path} {content : Octets}
    (h : fs.read p = .ok content) :
    readSetting fs p = .ok (settingOfFile content)
      ∧ settingOfFile content ≠ [] ∧ ∀ c ∈ settingOfFile content, isBlank c = false := by
  constructor
  · obtain ⟨loc, hleads⟩ := FileSystem.read_eq_ok.mp h
    rw [readSetting, FileSystem.isFile_iff.mpr ⟨loc, content, hleads⟩, h]
    rfl
  · rw [settingOfFile, settingIn_eq]
    exact settingOf_spec _

/-- **The last assignment counts.**  A file with a further line gives the value that the line assigns,
without blanks and with the standard mode for nothing, or what the file without the line gives. -/
theorem last_assignment_counts {fs fs' : FileSystem} {p p' : Path} {content line : Octets}
    (hread : fs.read p = .ok content) (hread' : fs'.read p' = .ok (content ++ 0x0A :: line))
    (hline : ∀ c ∈ Utf8.decodeLossy line, isLineBreak c = false) :
    (Assigns (Utf8.decodeLossy line) →
        readSetting fs' p' = .ok (match deleteBlanks (behindSign (Utf8.decodeLossy line)) with
          | [] => "cargo"
          | value => value))
      ∧ (¬Assigns (Utf8.decodeLossy line) → readSetting fs' p' = readSetting fs p)
      ∧ ∃ value, readSetting fs p = .ok value ∧ value ≠ [] ∧ ∀ c ∈ value, isBlank c = false := by
  obtain ⟨hsetting, hspec⟩ := readSetting_of_read hread
  obtain ⟨hsetting', -⟩ := readSetting_of_read hread'
  rw [settingOfFile_add_line content hline] at hsetting'
  refine ⟨fun hassigns => ?_, fun hnot => ?_, ⟨_, hsetting, hspec⟩⟩
  · obtain ⟨value, hvalue⟩ := assigns_iff.mp hassigns
    rw [hsetting', hvalue, behindSign_of_assigned hvalue]
    rfl
  · have hnone : assigned? (Utf8.decodeLossy line) = none := by
      refine Option.eq_none_iff_forall_ne_some.mpr fun value hvalue => ?_
      exact hnot (assigns_iff.mpr ⟨value, hvalue⟩)
    rw [hsetting', hsetting, hnone]
    rfl

/-- An assignment with blanks in its value behind an octet that begins a character and does not end it. -/
theorem assignment_behind_torn_character :
    let content : Octets := Text.encode "TEST_WITH=nextest\r" ++ [0xE2, 0x82]
    let line : Octets := Text.encode "\t TEST_WITH= mi ri "
    let fs : FileSystem :=
      ⟨[(["old"], .file content), (["new"], .file (content ++ 0x0A :: line))], []⟩
    (∀ c ∈ Utf8.decodeLossy line, isLineBreak c = false)
      ∧ readSetting fs (.ofText "old") = .ok "nextest"
      ∧ readSetting fs (.ofText "new") = .ok "miri" := by
  intro content line fs
  have hread : fs.read (.ofText "old") = .ok content := by decide +kernel
  have hread' : fs.read (.ofText "new") = .ok (content ++ 0x0A :: line) := by decide +kernel
  have hbreaks : (Utf8.decodeLossy line).all (fun c => !isLineBreak c) = true := by decide +kernel
  have hline : ∀ c ∈ Utf8.decodeLossy line, isLineBreak c = false := by
    simpa only [List.all_eq_true, Bool.not_eq_true'] using hbreaks
  have hassigns : Assigns (Utf8.decodeLossy line) := ⟨"\t ", " mi ri ", by decide +kernel⟩
  have hnew := (last_assignment_counts hread hread' hline).1 hassigns
  refine ⟨hline, by decide +kernel, hnew.trans (by decide +kernel)⟩

end CrateSync.TestRun
