/-
# Line feeds behind carriage returns

A manifest in which every line feed stands behind a carriage return is edited into one, if the line of its
package header ends in a line feed: what the edit writes then ends in the same pair.

* `Remains.paired`, `Inserted.paired` : the lines that remain and the lines that are added;
* `edit_keeps_pairs` : the edited manifest;
* `edit_of_bare_header_breaks_pairs` : what happens where the line of the header has no such ending.
-/
import CrateSync.Proofs.Manifest.Rework
import CrateSync.Proofs.Text.Pairs

namespace CrateSync.Manifest

open Text (Paired paired_of_not_mem paired_flatten)

variable {mode : LicenseMode} {package : Toml.Table} {newline : Text}

/-! ## Lines of the section -/

theorem paired_entryLine {entry : Text × Setting} (h : entry ∈ desired mode) {ending : Text}
    (hending : Paired ending) : Paired (entryLine entry.1 entry.2 ending) := by
  refine Paired.append (paired_of_not_mem ?_) hending
  revert entry
  cases mode <;> decide

/-- What becomes of a line without a line feed of its own. -/
theorem Becomes.paired {earlier piece : List Text} {line : Text}
    (h : Becomes mode package newline earlier line piece) (hnewline : Paired newline)
    (hline : Paired line) : ∀ l ∈ piece, Paired l := by
  intro l hl
  cases h with
  | other => exact List.mem_singleton.mp hl ▸ hline
  | stale => exact absurd hl List.not_mem_nil
  | repeated => exact absurd hl List.not_mem_nil
  | right => exact List.mem_singleton.mp hl ▸ hline
  | written key s _ hs =>
    obtain rfl := List.mem_singleton.mp hl
    refine paired_entryLine (mem_desired_of_setting? hs) ?_
    split_ifs
    · exact hnewline
    · exact Text.paired_nil

/-- **The lines that remain of a section.** -/
theorem Remains.paired {earlier lines kept : List Text}
    (h : Remains mode package newline earlier lines kept) (hnewline : Paired newline)
    (hlines : ∀ line ∈ lines, Paired line) : ∀ line ∈ kept, Paired line := by
  induction h with
  | nil => exact hlines
  | cons h _ ih =>
    intro line hline
    rcases List.mem_append.mp hline with hline | hline
    · exact h.paired hnewline (hlines _ (by simp)) line hline
    · exact ih (fun l hl => hlines l (by simp [hl])) line hline

theorem paired_ended {line : Text} (hnewline : Paired newline) (hline : Paired line) :
    Paired (ended newline line) := by
  unfold ended
  split_ifs
  · exact hline
  · exact hline.append hnewline

/-- **The header and the lines of a section** after lines are added. -/
theorem Inserted.paired {header header' : Text} {kept new body : List Text}
    (h : Inserted newline header kept new header' body) (hnewline : Paired newline)
    (hheader : Paired header) (hkept : ∀ line ∈ kept, Paired line) (hnew : ∀ line ∈ new, Paired line) :
    ∀ line ∈ header' :: body, Paired line := by
  cases h with
  | nothing =>
    rintro line (_ | ⟨_, hline⟩)
    · exact hheader
    · exact hkept line hline
  | behind front blanks last hnew' hk =>
    subst hk
    simp only [List.forall_mem_cons, List.forall_mem_append] at hkept ⊢
    exact ⟨hheader, hkept.1, paired_ended hnewline hkept.2.1, hnew, hkept.2.2⟩
  | first =>
    simp only [List.forall_mem_cons, List.forall_mem_append]
    exact ⟨paired_ended hnewline hheader, hnew, hkept⟩

/-! ## The edited manifest -/

/-- The line break of a section whose header ends in a line feed is the pair. -/
theorem Layout.paired_newline {l : Layout} (h : Paired l.header)
    (hend : Text.endsLine l.header = true) : Paired l.newline := by
  rw [Layout.newline, if_pos (h.isSuffixOf hend)]
  decide

/-- **An edited manifest has line feeds in pairs only**, if the manifest has and the line of its package
header ends in a line feed. -/
theorem edit_keeps_pairs {manifest updated : Text} {l : Layout}
    (h : setLicense mode manifest = .ok (some updated)) (hpairs : Paired manifest)
    (hl : Layout.ofLines? (Text.lines manifest) = some l) (hend : Text.endsLine l.header = true) :
    Paired updated := by
  obtain ⟨root, package, l₀, l', kept, -, -, hl₀, hlines, rfl, hwork⟩ := edit_reworks_section h
  obtain rfl : l₀ = l := Option.some.inj (hl₀.symm.trans hl)
  -- every line of the manifest has its line feed in a pair
  have hall : ∀ line ∈ l₀.lines, Paired line := by
    rw [hlines]
    exact hpairs.lines
  simp only [Layout.lines, List.forall_mem_append, List.forall_mem_cons] at hall
  obtain ⟨hbefore, hheader, hbody, hafter⟩ := hall
  have hnewline : Paired l₀.newline := l₀.paired_newline hheader hend
  have hkept : ∀ line ∈ kept, Paired line := hwork.remains.paired hnewline hbody
  have hnew : ∀ line ∈ (absent mode l₀.body).map fun entry => entryLine entry.1 entry.2 l₀.newline,
      Paired line := by
    intro line hline
    obtain ⟨entry, hentry, rfl⟩ := List.mem_map.mp hline
    exact paired_entryLine (mem_absent.mp hentry).1 hnewline
  have hsection : ∀ line ∈ l'.header :: l'.body, Paired line :=
    hwork.inserted.paired hnewline hheader hkept hnew
  refine paired_flatten ?_
  rw [Layout.lines, hwork.before, hwork.after, ← List.cons_append]
  simp only [List.forall_mem_append]
  exact ⟨hbefore, hsection, hafter⟩

/-- A manifest without an ending of its last line, which the added line needs. -/
theorem edit_keeps_pairs_of_open_manifest :
    let manifest : Text := "[package]\r\nname = \"demo\""
    let updated : Text := "[package]\r\nname = \"demo\"\r\nlicense = \"MIT\"\r\n"
    setLicense .permissive manifest = .ok (some updated) ∧ Paired manifest ∧ Paired updated := by
  intro manifest updated
  have h : setLicense .permissive manifest = .ok (some updated) := by decide +kernel
  have hpairs : Paired manifest := by decide +kernel
  exact ⟨h, hpairs, edit_keeps_pairs h hpairs rfl (by decide +kernel)⟩

/-- The line of the header is the last and has no ending: the edit ends it, and the line that it adds, with
a line feed alone, whatever the other lines of the manifest end in. -/
theorem edit_of_bare_header_breaks_pairs :
    let manifest : Text := "# c\r\n[package]"
    let updated : Text := "# c\r\n[package]\nlicense = \"MIT\"\n"
    '\n' ∈ manifest ∧ Paired manifest ∧ setLicense .permissive manifest = .ok (some updated)
      ∧ ¬Paired updated := by
  decide +kernel

end CrateSync.Manifest
