/-
# What patches do

A text includes a part where the part is an infix of it, so that what was once brought in stays as the
text is extended.  A patch extends the text that it is applied to, and then does not apply again.

* `prependOnce_updated`, `appendOnce_updated` : a patch that was applied does not apply again;
* `Appended` : blocks that were appended one after the other, of which no two are the same;
* `Fronted`, `Extended` : what a patch keeps of a text, and what it adds;
* `patches_apply_once` : a patch finds what it would add, or it adds that once.
-/
import CrateSync.Patch
import CrateSync.Proofs.Text.Pairs
import CrateSync.Proofs.Text.Utf8

namespace CrateSync

/-- **A text includes a part where the part is an infix of it.** -/
theorem Text.includes_iff {part t : Text} : Text.includes part t = true ↔ part <:+: t := by
  induction t with
  | nil => simp [Text.includes]
  | cons c rest ih =>
    rw [Text.includes, Bool.or_eq_true, ih, List.isPrefixOf_iff_prefix, List.infix_cons_iff]

theorem Text.eq_nil_of_prefix_cons {part behind : Text} {c : Char} (hc : c ∉ part)
    (h : part <+: c :: behind) : part = [] := by
  rcases List.prefix_cons_iff.mp h with hnil | ⟨more, rfl, -⟩
  · exact hnil
  · exact absurd List.mem_cons_self hc

/-- A part that does not hold a character does not reach over it. -/
theorem Text.infix_append_cons {part t behind : Text} {c : Char} (hc : c ∉ part)
    (h : part <:+: t ++ c :: behind) : part <:+: t ∨ part <:+: behind := by
  rcases List.infix_append_iff.mp h with ht | hbehind | ⟨left, right, rfl, hleft, hright⟩
  · exact Or.inl ht
  · rcases List.infix_cons_iff.mp hbehind with hstart | hrest
    · rw [eq_nil_of_prefix_cons hc hstart]
      exact Or.inl List.nil_infix
    · exact Or.inr hrest
  · have hnil : right = [] :=
      eq_nil_of_prefix_cons (fun hin => hc (List.mem_append_right left hin)) hright
    rw [hnil, List.append_nil]
    exact Or.inl hleft.isInfix

/-- A part stands behind characters that it does not hold. -/
theorem Text.infix_of_append {part apart behind : Text} (hne : part ≠ [])
    (hapart : ∀ c ∈ apart, c ∉ part) (h : part <:+: apart ++ behind) : part <:+: behind := by
  induction apart with
  | nil => exact h
  | cons c rest ih =>
    rcases infix_append_cons (t := []) (hapart c (by simp)) h with hnil | hrest
    · exact absurd (List.infix_nil.mp hnil) hne
    · exact ih (fun d hd => hapart d (by simp [hd])) hrest

namespace Patch

/-! ## A line in front -/

/-- The line breaks that a text may use. -/
def lineBreaks : List Text := [['\n'], ['\r', '\n']]

theorem lineBreakOf_mem (t : Text) : Text.lineBreakOf t ∈ lineBreaks := by
  unfold Text.lineBreakOf
  by_cases h : Text.includes ['\r', '\n'] t = true
  · rw [if_pos h]
    simp [lineBreaks]
  · rw [if_neg h]
    simp [lineBreaks]

/-- A text in front of which a line is not brought holds it. -/
theorem prependOnce_eq_none {existing line : Text} :
    prependOnce existing line = none ↔ line <:+: existing := by
  rw [← Text.includes_iff]
  unfold prependOnce
  by_cases h : Text.includes line existing = true
  · simp [h]
  · simp [h]

/-- A text in front of which a line is brought does not hold it yet. -/
theorem prependOnce_eq_some {existing line updated : Text}
    (h : prependOnce existing line = some updated) : ¬line <:+: existing
      ∧ ∃ newline ∈ lineBreaks, updated = line ++ newline ++ newline ++ existing := by
  rw [← Text.includes_iff]
  unfold prependOnce at h
  by_cases hi : Text.includes line existing = true
  · rw [if_pos hi] at h
    exact absurd h (by simp)
  · rw [if_neg hi] at h
    exact ⟨hi, _, lineBreakOf_mem existing, (Option.some.inj h).symm⟩

/-- **A line is brought in front of a text once.** -/
theorem prependOnce_updated {existing line updated : Text}
    (h : prependOnce existing line = some updated) : prependOnce updated line = none := by
  obtain ⟨-, newline, -, rfl⟩ := prependOnce_eq_some h
  rw [prependOnce_eq_none]
  exact ⟨[], newline ++ newline ++ existing, by simp⟩

/-! ## A block at the end -/

/-- A block is not appended to a text that holds it, nor is an empty one. -/
theorem appendOnce_eq_none {existing block : Text} :
    appendOnce existing block = none ↔ block = [] ∨ block <:+: existing := by
  rw [← Text.includes_iff]
  unfold appendOnce
  by_cases h : (block.isEmpty || Text.includes block existing) = true
  · rw [if_pos h]
    simpa using h
  · rw [if_neg h]
    simpa using h

/-- A block that is appended to a text is not empty, and the text does not hold it yet. -/
theorem appendOnce_eq_some {existing block updated : Text}
    (h : appendOnce existing block = some updated) :
    block ≠ [] ∧ ¬block <:+: existing ∧ updated = existing ++ separator existing ++ block := by
  rw [← Text.includes_iff]
  unfold appendOnce at h
  by_cases hi : (block.isEmpty || Text.includes block existing) = true
  · rw [if_pos hi] at h
    exact absurd h (by simp)
  · rw [if_neg hi] at h
    simp only [Bool.or_eq_true, List.isEmpty_iff, not_or] at hi
    exact ⟨hi.1, hi.2, (Option.some.inj h).symm⟩

/-- **A block is appended to a text once.** -/
theorem appendOnce_updated {existing block updated : Text}
    (h : appendOnce existing block = some updated) : appendOnce updated block = none := by
  obtain ⟨-, -, rfl⟩ := appendOnce_eq_some h
  rw [appendOnce_eq_none]
  exact Or.inr (List.suffix_append _ _).isInfix

/-! ## Blocks at the end -/

/-- Octets that hold a text behind which blocks were appended, each on a line of its own. -/
inductive Appended (original : Octets) : List Text → Octets → Prop
  | original : Appended original [] original
  | block {blocks : List Text} {t : Text} (h : Appended original blocks t.encode) (block : Text) :
      Appended original (blocks ++ [block]) (t ++ separator t ++ block).encode

/-- What blocks are appended to stays in front. -/
theorem Appended.starts {original content : Octets} {blocks : List Text}
    (h : Appended original blocks content) : original <+: content := by
  induction h with
  | original => exact List.prefix_rfl
  | block _ block ih =>
    rw [List.append_assoc, Text.encode_append]
    exact ih.trans (List.prefix_append _ _)

/-- Every block that was appended is held. -/
theorem Appended.holds {original content : Octets} {blocks : List Text}
    (h : Appended original blocks content) {t : Text} (ht : t.encode = content) :
    ∀ block ∈ blocks, block <:+: t := by
  induction h generalizing t with
  | original => simp
  | @block blocks u h block ih =>
    obtain rfl : t = u ++ separator u ++ block := Utf8.encode_injective ht
    intro b hb
    rcases List.mem_append.mp hb with hb | hb
    · rw [List.append_assoc]
      exact (ih rfl b hb).trans (List.prefix_append _ _).isInfix
    · rw [List.mem_singleton.mp hb]
      exact (List.suffix_append _ _).isInfix

/-! ## Texts and their patches -/

/-- A text in front of which a line was brought: it ends as it was, the line stands nowhere but at its
start, and where line feeds stood in pairs they still do. -/
structure Fronted (existing line updated : Text) : Prop where
  kept : existing <:+ updated
  once : ∀ n, line <+: updated.drop n ↔ n = 0
  settled : prependOnce updated line = none
  paired : ['\r', '\n'] <:+: existing → Text.Paired existing → Text.Paired updated

/-- A text to which a block was appended: it begins as it was and ends in the block, with a line break
between them at most, and where line feeds stood in pairs they still do. -/
structure Extended (existing block updated : Text) : Prop where
  kept : existing <+: updated
  added : block <:+ updated
  between : ∃ newline ∈ [] :: lineBreaks, updated = existing ++ newline ++ block
  settled : appendOnce updated block = none
  paired : ['\r', '\n'] <:+: existing → Text.Paired existing → Text.Paired block →
    Text.Paired updated

theorem prependOnce_of_not_within {existing line : Text} (h : ¬line <:+: existing) :
    prependOnce existing line
      = some (line ++ Text.lineBreakOf existing ++ Text.lineBreakOf existing ++ existing) := by
  rw [← Text.includes_iff] at h
  simp [prependOnce, h]

theorem appendOnce_of_not_within {existing block : Text} (hne : block ≠ [])
    (h : ¬block <:+: existing) :
    appendOnce existing block = some (existing ++ separator existing ++ block) := by
  rw [← Text.includes_iff] at h
  simp [appendOnce, h, hne]

theorem paired_lineBreakOf {t : Text} (h : ['\r', '\n'] <:+: t) :
    Text.Paired (Text.lineBreakOf t) := by
  rw [Text.lineBreakOf, if_pos (Text.includes_iff.mpr h)]
  decide

theorem separator_mem (t : Text) : separator t ∈ [] :: lineBreaks := by
  unfold separator
  split_ifs
  · exact List.mem_cons_self
  · exact List.mem_cons_of_mem _ (lineBreakOf_mem t)

theorem paired_separator {t : Text} (h : ['\r', '\n'] <:+: t) : Text.Paired (separator t) := by
  unfold separator
  split_ifs
  · exact Text.paired_nil
  · exact paired_lineBreakOf h

/-- A line stands once in front of line breaks and a text that does not hold it. -/
theorem prefix_drop_iff {line breaks existing : Text} (hne : line ≠ [])
    (hbreaks : ∀ c ∈ breaks, c ∉ line) (hsome : breaks ≠ []) (hnew : ¬line <:+: existing) (n : Nat) :
    line <+: (line ++ (breaks ++ existing)).drop n ↔ n = 0 := by
  constructor
  · intro h
    by_contra hn
    obtain ⟨c, rest, rfl⟩ := List.exists_cons_of_ne_nil hne
    obtain ⟨m, rfl⟩ := Nat.exists_eq_succ_of_ne_zero hn
    obtain ⟨d, breaks, rfl⟩ := List.exists_cons_of_ne_nil hsome
    -- behind its first character the line does not fit in front of the line breaks
    have hin : c :: rest <:+: rest ++ d :: (breaks ++ existing) :=
      h.isInfix.trans (List.drop_suffix m _).isInfix
    rcases Text.infix_append_cons (hbreaks d (by simp)) hin with hrest | hbehind
    · exact absurd hrest.length_le (by simp)
    · exact hnew (Text.infix_of_append hne (fun e he => hbreaks e (by simp [he])) hbehind)
  · rintro rfl
    exact List.prefix_append _ _

theorem fronted {existing line : Text} (hne : line ≠ []) (hfeed : '\n' ∉ line)
    (hreturn : '\r' ∉ line) (hnew : ¬line <:+: existing) :
    Fronted existing line
      (line ++ Text.lineBreakOf existing ++ Text.lineBreakOf existing ++ existing) where
  kept := List.suffix_append _ _
  once n := by
    have hbreaks : ∀ newline ∈ lineBreaks, newline ≠ [] ∧ ∀ c ∈ newline, c = '\n' ∨ c = '\r' := by
      simp [lineBreaks]
    obtain ⟨hsome, hchars⟩ := hbreaks _ (lineBreakOf_mem existing)
    have hapart : ∀ c ∈ Text.lineBreakOf existing, c ∉ line := by
      intro c hc
      rcases hchars c hc with rfl | rfl
      · exact hfeed
      · exact hreturn
    have hiff : line <+: (line ++ ((Text.lineBreakOf existing ++ Text.lineBreakOf existing)
        ++ existing)).drop n ↔ n = 0 :=
      prefix_drop_iff hne (by simpa using hapart) (by simp [hsome]) hnew n
    simpa using hiff
  settled := prependOnce_updated (prependOnce_of_not_within hnew)
  paired hpair h := by
    have hnewline := paired_lineBreakOf hpair
    exact (((Text.paired_of_not_mem hfeed).append hnewline).append hnewline).append h

theorem extended {existing block : Text} (hne : block ≠ []) (hnew : ¬block <:+: existing) :
    Extended existing block (existing ++ separator existing ++ block) where
  kept := by
    rw [List.append_assoc]
    exact List.prefix_append _ _
  added := List.suffix_append _ _
  between := ⟨separator existing, separator_mem existing, rfl⟩
  settled := appendOnce_updated (appendOnce_of_not_within hne hnew)
  paired hpair h hblock := (h.append (paired_separator hpair)).append hblock

/-- **A patch finds what it would add, or adds it once.**  A line without a line break is not brought in
front of a text that holds it; in front of any other it is, and then stands at the start alone.  A block
is appended to a text unless it is empty or the text holds it.  The text itself is kept. -/
theorem patches_apply_once (existing : Text) :
    (∀ line : Text, line ≠ [] → '\n' ∉ line → '\r' ∉ line →
      line <:+: existing ∧ prependOnce existing line = none
      ∨ ∃ updated, prependOnce existing line = some updated ∧ Fronted existing line updated)
    ∧ ∀ block : Text,
      (block = [] ∨ block <:+: existing) ∧ appendOnce existing block = none
      ∨ ∃ updated, appendOnce existing block = some updated ∧ Extended existing block updated := by
  constructor
  · intro line hne hfeed hreturn
    by_cases h : line <:+: existing
    · exact Or.inl ⟨h, prependOnce_eq_none.mpr h⟩
    · exact Or.inr ⟨_, prependOnce_of_not_within h, fronted hne hfeed hreturn h⟩
  · intro block
    by_cases h : block = [] ∨ block <:+: existing
    · exact Or.inl ⟨h, appendOnce_eq_none.mpr h⟩
    · obtain ⟨hne, hnew⟩ := not_or.mp h
      exact Or.inr ⟨_, appendOnce_of_not_within hne hnew, extended hne hnew⟩

/-- A line and a block that overlap the start and the end of a text. -/
theorem patches_apply_once_at_overlaps :
    let existing : Text := "ba\r\nab"
    (∃ updated, prependOnce existing "aba" = some updated ∧ Fronted existing "aba" updated)
    ∧ ∃ updated, appendOnce existing "ab\r\n" = some updated ∧ Extended existing "ab\r\n" updated := by
  intro existing
  obtain ⟨hline, hblock⟩ := patches_apply_once existing
  constructor
  · rcases hline "aba" (by decide) (by decide) (by decide) with ⟨-, hnone⟩ | hsome
    · exact absurd hnone (by decide)
    · exact hsome
  · rcases hblock "ab\r\n" with ⟨-, hnone⟩ | hsome
    · exact absurd hnone (by decide)
    · exact hsome

end Patch

end CrateSync
