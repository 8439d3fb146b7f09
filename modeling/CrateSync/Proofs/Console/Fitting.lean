/-
# Lines that fit the screen

Lines that are as wide as the screen at most, and end with no blank, are shown as they are: they are not
broken, nothing is taken off their ends, and they are drawn in full, in however many pieces.

* `Text.splitOn_joinWith` : the paragraphs of a text of lines;
* `Wrap.pieces_of_mostCells_le` : a line that fits is not broken;
* `Screen.Fits` : a line without control characters that fits the screen;
* `Screen.document_of_fits` : such lines are shown as they are.
-/
import Mathlib.Data.List.DropRight
import CrateSync.Proofs.Console.Presentable
import CrateSync.Proofs.Text.Cells

namespace CrateSync

/-! ## Paragraphs -/

namespace Text

theorem splitOn_of_not_mem {sep : Char} {t : Text} (h : sep ∉ t) : splitOn sep t = [t] := by
  induction t with
  | nil => rfl
  | cons c rest ih =>
    simp only [List.mem_cons, not_or] at h
    rw [splitOn, if_neg (Ne.symm h.1), ih h.2, consFirst]

theorem splitOn_append {sep : Char} {t : Text} (h : sep ∉ t) (rest : Text) :
    splitOn sep (t ++ sep :: rest) = t :: splitOn sep rest := by
  induction t with
  | nil => simp [splitOn]
  | cons c t ih =>
    simp only [List.mem_cons, not_or] at h
    rw [List.cons_append, splitOn, if_neg (Ne.symm h.1), ih h.2, consFirst]

/-- **The pieces of joined pieces.** -/
theorem splitOn_joinWith {sep : Char} {pieces : List Text} (hne : pieces ≠ [])
    (h : ∀ piece ∈ pieces, sep ∉ piece) : splitOn sep (joinWith [sep] pieces) = pieces := by
  induction pieces with
  | nil => exact absurd rfl hne
  | cons piece rest ih =>
    have hpiece := h piece (by simp)
    cases rest with
    | nil => exact splitOn_of_not_mem hpiece
    | cons next rest =>
      rw [joinWith, List.append_assoc, List.singleton_append, splitOn_append hpiece,
        ih (by simp) fun p hp => h p (by simp [hp])]

end Text

/-! ## Breaking -/

namespace Wrap

theorem mostCells_dropRightWhile_le (p : Char → Bool) (t : Text) :
    Text.mostCells (Text.dropRightWhile p t) ≤ Text.mostCells t := by
  obtain ⟨rest, hrest⟩ := List.rdropWhile_prefix p t
  calc Text.mostCells (Text.dropRightWhile p t)
      ≤ Text.mostCells (Text.dropRightWhile p t ++ rest) := by simp
    _ = Text.mostCells t := congrArg Text.mostCells hrest

/-- Words that fit on the line that is being filled go there. -/
theorem foldl_place_of_mostCells_le (o : Overflow) {width : Nat} {words : List Text} {f : Filling}
    (h : f.used + Text.mostCells words.flatten ≤ width) :
    ∃ used, words.foldl (Filling.place o width) f = ⟨f.finished, f.line ++ words.flatten, used⟩ := by
  induction words generalizing f with
  | nil => exact ⟨f.used, by simp⟩
  | cons word rest ih =>
    rw [List.flatten_cons, Text.mostCells_append] at h
    have hcells := Text.cells_le_mostCells word
    have htrimmed := (Text.cells_le_mostCells (Text.dropRightWhile Text.isBlank word)).trans
      (mostCells_dropRightWhile_le Text.isBlank word)
    have hfits : f.used + Text.cells (Text.dropRightWhile Text.isBlank word) ≤ width := by omega
    have hplace : f.place o width word
        = ⟨f.finished, f.line ++ word, f.used + Text.cells word⟩ := by
      simp only [Filling.place, if_pos hfits]
    rw [List.foldl_cons, hplace]
    obtain ⟨used, hused⟩ := ih (f := ⟨f.finished, f.line ++ word, f.used + Text.cells word⟩)
      (by simp only; omega)
    exact ⟨used, by rw [hused, List.flatten_cons, List.append_assoc]⟩

/-- **A line that fits is not broken.** -/
theorem pieces_of_mostCells_le (o : Overflow) {width : Nat} {t : Text}
    (h : Text.mostCells t ≤ width) : pieces o width t = [t] := by
  have hroom : Filling.empty.used + Text.mostCells (words t).flatten ≤ width := by
    simpa [Filling.empty, flatten_words] using h
  obtain ⟨used, hused⟩ := foldl_place_of_mostCells_le o hroom
  rw [pieces, hused, flatten_words]
  rfl

/-- Nothing is taken off a line that ends with no blank. -/
theorem trimBeyond_of_getLast? {line : Text} (h : line.getLast?.any Text.isBlank = false)
    (length : Nat) : trimBeyond length line = line := by
  have hblanks : line.reverse.takeWhile Text.isBlank = [] := by
    cases hr : line.reverse with
    | nil => rfl
    | cons c rest =>
      rw [List.getLast?_eq_head?_reverse, hr] at h
      simpa using h
  simp [trimBeyond, hblanks]

end Wrap

/-! ## Drawing -/

namespace Screen

theorem cellsOfPieces_le_mostCells (pieces : List Text) :
    cellsOfPieces pieces ≤ Text.mostCells pieces.flatten := by
  induction pieces with
  | nil => exact Nat.zero_le _
  | cons piece rest ih =>
    have hcells := Text.cells_le_mostCells piece
    simp only [cellsOfPieces, List.foldr_cons, List.flatten_cons, Text.mostCells_append] at ih ⊢
    omega

/-- **A line that fits is drawn in full**, wherever it is cut. -/
theorem draw_of_mostCells_le (f : Layout) (extents : List Extent) {l : Line}
    (h : Text.mostCells l.text ≤ width) : f.draw extents 0 0 l = l.text := by
  have hflat (cuts : List Nat) :
      (cutAt cuts 0 (List.replicate 0 ' ' ++ l.text ++ List.replicate 0 ' ')).flatten = l.text := by
    rw [flatten_cutAt]
    simp
  have hpieces (cuts : List Nat) :
      cellsOfPieces (cutAt cuts 0 (List.replicate 0 ' ' ++ l.text ++ List.replicate 0 ' ')) ≤ width := by
    refine (cellsOfPieces_le_mostCells _).trans ?_
    rw [hflat]
    exact h
  rw [Layout.draw, crop, if_pos (hpieces _), hflat]

/-! ## Documents -/

/-- Whether a character is a control character. -/
def isControl (c : Char) : Bool :=
  c.toNat < 0x20 || (0x7F ≤ c.toNat && c.toNat ≤ 0x9F)

/-- A line that fits the screen, however it is cut, and has no control characters. -/
structure Fits (line : Text) : Prop where
  narrow : Text.mostCells line ≤ width
  visible : ∀ c ∈ line, isControl c = false

instance (line : Text) : Decidable (Fits line) :=
  decidable_of_iff (Text.mostCells line ≤ width ∧ line.all (fun c => !isControl c) = true)
    ⟨fun ⟨h, h'⟩ => ⟨h, by simpa using h'⟩, fun ⟨h, h'⟩ => ⟨h, by simpa using h'⟩⟩

theorem Fits.not_mem {line : Text} (h : Fits line) : '\n' ∉ line := by
  intro hmem
  exact absurd (h.visible _ hmem) (by decide)

/-- The lines of paragraphs that fit are the paragraphs. -/
theorem map_text_paragraphLines {start : Nat} {paragraphs : List Text}
    (h : ∀ p ∈ paragraphs, Text.mostCells p ≤ width) :
    (paragraphLines width start paragraphs).map Line.text = paragraphs := by
  induction paragraphs generalizing start with
  | nil => rfl
  | cons p rest ih =>
    rw [paragraphLines, Wrap.pieces_of_mostCells_le .fold (h p (by simp)), List.map_append,
      ih fun q hq => h q (by simp [hq])]
    rfl

/-- **Lines that fit are shown as they are.** -/
theorem document_of_fits {s : Markup.Styled} {lines : List Text} (hne : lines ≠ [])
    (htext : s.text = Text.joinWith ['\n'] lines) (hknown : Markup.Known s.spans)
    (hfits : ∀ line ∈ lines, Fits line)
    (hends : ∀ line ∈ lines, line.getLast?.any Text.isBlank = false) :
    document s = .ok lines := by
  let shorten (line : Text) : Text := Wrap.cut .fold width (Wrap.trimBeyond width line)
  have hparagraphs : Text.splitOn '\n' s.text = lines := by
    rw [htext, Text.splitOn_joinWith hne fun line hl => (hfits line hl).not_mem]
  have htexts : (paragraphLines width 0 lines).map Line.text = lines :=
    map_text_paragraphLines fun line hl => (hfits line hl).narrow
  have hline : ∀ l ∈ paragraphLines width 0 lines, l.text ∈ lines := by
    intro l hl
    rw [← htexts]
    exact List.mem_map_of_mem hl
  have hshorten : ∀ line ∈ lines, shorten line = line := by
    intro line hl
    have hcells := (Text.cells_le_mostCells line).trans (hfits line hl).narrow
    simp only [shorten, Wrap.trimBeyond_of_getLast? (hends line hl), Wrap.cut, if_pos hcells]
  have hdraw (extents : List Extent) :
      (layOut width shorten s.text).lines.map
        ((layOut width shorten s.text).draw extents 0 0) = lines := by
    have hlines : (layOut width shorten s.text).lines
        = (paragraphLines width 0 lines).map (Line.mapText shorten) := by
      rw [layOut, hparagraphs]
    calc (layOut width shorten s.text).lines.map ((layOut width shorten s.text).draw extents 0 0)
        = (paragraphLines width 0 lines).map Line.text := by
          rw [hlines, List.map_map]
          refine List.map_congr_left fun l hl => ?_
          have hshort : shorten l.text = l.text := hshorten _ (hline l hl)
          simp only [Function.comp_apply, Line.mapText, hshort]
          exact draw_of_mostCells_le _ _ (hfits _ (hline l hl)).narrow
      _ = lines := htexts
  unfold document
  simp only [checkStyles_ok hknown]
  exact congrArg Except.ok (hdraw _)

end Screen

end CrateSync
