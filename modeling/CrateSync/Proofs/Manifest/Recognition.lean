/-
# What the edit sees of plain lines

The edit of a manifest recognises headers and entries by the characters that a line begins with.  Of a plain
line it sees in this way what the line says.

* `isTableHeader_iff`, `isPackageHeader_iff` : a line is taken for a header exactly if it is one;
* `setsKey_eq` : a line is taken for an entry at a key exactly if its own key begins with it;
* `part_of_plainLine` : a line that is no header is a part of the section.
-/
import CrateSync.Proofs.Manifest.Spread
import CrateSync.Proofs.Text.Blank
import CrateSync.Proofs.Toml.PlainLine

namespace CrateSync

/-! ## Blanks -/

namespace Toml

theorem isBlank_of_bare {c : Char} (h : isBareKeyChar c = true) : Text.isBlank c = false := by
  obtain ⟨hlow, hhigh⟩ := toNat_of_bare h
  simp only [Text.isBlank, Bool.or_eq_false_iff, Bool.and_eq_false_iff, decide_eq_false_iff_not,
    beq_eq_false_iff_ne]
  omega

theorem isBlank_of_isSpace {c : Char} (h : isSpace c = true) : Text.isBlank c = true := by
  have hc : c = ' ' ∨ c = '\t' := by simpa [isSpace] using h
  rcases hc with rfl | rfl <;> decide

end Toml

namespace Text

open Toml (Spaces BarePart LineEnd)

theorem dropBlanks_spaces {w : Text} (h : Spaces w) (rest : Text) :
    dropBlanks (w ++ rest) = dropBlanks rest :=
  List.dropWhile_append_of_pos fun c hc => Toml.isBlank_of_isSpace (h c hc)

theorem dropBlanks_part {part : Text} (h : BarePart part) (rest : Text) :
    dropBlanks (part ++ rest) = part ++ rest := by
  obtain ⟨c, tail, rfl, hc⟩ := h.exists_cons
  exact dropBlanks_cons (Toml.isBlank_of_bare hc) _

/-- Behind what a line says only a comment is left. -/
theorem dropBlanks_lineEnd {behind ending : Text} (h : LineEnd behind) (hending : allBlank ending = true) :
    dropBlanks (behind ++ ending) = [] ∨ ∃ rest, dropBlanks (behind ++ ending) = '#' :: rest := by
  cases h with
  | blank w h =>
    left
    rw [dropBlanks_spaces h]
    exact List.dropWhile_eq_nil_iff.mpr (List.all_eq_true.mp hending)
  | comment w text h ht =>
    right
    refine ⟨text ++ ending, ?_⟩
    rw [List.append_assoc, dropBlanks_spaces h, List.cons_append, dropBlanks_cons (by decide)]

theorem dropBlanks_behind {behind : Text} (h : LineEnd behind) :
    dropBlanks behind = [] ∨ ∃ rest, dropBlanks behind = '#' :: rest := by
  have hnil : allBlank [] = true := rfl
  have hend := dropBlanks_lineEnd h hnil
  rwa [List.append_nil] at hend

end Text

namespace Manifest

open Toml (Statement Spaces BarePart LineEnd PlainLine Entries)
open Text (dropBlanks)

variable {mode : LicenseMode}

/-! ## Words -/

theorem afterPart?_eq_some {part line rest : Text} :
    afterPart? part line = some rest
      ↔ ∃ behind, dropBlanks line = part ++ behind ∧ dropBlanks behind = rest := by
  simp only [afterPart?, Option.map_eq_some_iff, Toml.after?_eq_some]

theorem afterPart?_eq_none {part line : Text}
    (h : ∀ behind, dropBlanks line ≠ part ++ behind) : afterPart? part line = none := by
  rw [Option.eq_none_iff_forall_ne_some]
  intro rest heq
  obtain ⟨behind, hline, -⟩ := afterPart?_eq_some.mp heq
  exact h behind hline

section

variable {line part w r : Text} {c : Char}

/-- Behind the first part of a key stands what follows it. -/
theorem afterPart?_part (hw : Spaces w) (hc : Text.isBlank c = false)
    (hline : dropBlanks line = part ++ (w ++ c :: r)) : afterPart? part line = some (c :: r) := by
  refine afterPart?_eq_some.mpr ⟨_, hline, ?_⟩
  rw [Text.dropBlanks_spaces hw, Text.dropBlanks_cons hc]

/-- Behind another word the first part of a key goes on, if it begins with the word at all. -/
theorem afterPart?_ne {word : Text} (hword : BarePart word) (hpart : BarePart part) (hne : word ≠ part)
    (hw : Spaces w) (hc : Toml.isBareKeyChar c = false)
    (hline : dropBlanks line = part ++ (w ++ c :: r)) {rest : Text} (h : afterPart? word line = some rest) :
    ∃ d more, rest = d :: more ∧ Toml.isBareKeyChar d = true := by
  obtain ⟨behind, hbehind, rfl⟩ := afterPart?_eq_some.mp h
  -- both are cut where the characters of a key end
  have hcut : part = word ++ behind.takeWhile Toml.isBareKeyChar := by
    have hsame := congrArg (List.takeWhile Toml.isBareKeyChar) (hline.symm.trans hbehind)
    rwa [List.takeWhile_append_of_pos hpart.bare, List.takeWhile_append_of_pos hword.bare,
      (Toml.takeWhile_bare hw hc r).1, List.append_nil] at hsame
  cases behind with
  | nil => exact absurd (by simpa using hcut.symm) hne
  | cons d more =>
    by_cases hd : Toml.isBareKeyChar d = true
    · exact ⟨d, more, Text.dropBlanks_cons (Toml.isBlank_of_bare hd) more, hd⟩
    · rw [List.takeWhile_cons_of_neg hd, List.append_nil] at hcut
      exact absurd hcut.symm hne

/-- **A line is taken for an entry at a key** exactly if the key is the first part of its own. -/
theorem setsKey_eq {key : Text} (hkey : BarePart key) (hpart : BarePart part) (hw : Spaces w)
    (hc : c = '.' ∨ c = '=') (hline : dropBlanks line = part ++ (w ++ c :: r)) :
    setsKey line key = (key == part) := by
  have hblank : Text.isBlank c = false := by rcases hc with rfl | rfl <;> decide
  have hbare : Toml.isBareKeyChar c = false := by rcases hc with rfl | rfl <;> decide
  unfold setsKey
  by_cases heq : key = part
  · subst heq
    rw [afterPart?_part hw hblank hline]
    simp [hc]
  · cases hafter : afterPart? key line with
    | none => simp [heq]
    | some rest =>
      obtain ⟨d, more, rfl, hd⟩ := afterPart?_ne hkey hpart heq hw hbare hline hafter
      have hdot : d ≠ '.' := by
        rintro rfl
        exact absurd hd (by decide)
      have hequals : d ≠ '=' := by
        rintro rfl
        exact absurd hd (by decide)
      simp [heq, hdot, hequals]

end

theorem barePart_of_managed {key : Text} (h : key ∈ managed mode) : BarePart key := by
  have hne : ∀ key ∈ managed mode, key ≠ [] := by
    cases mode <;> decide
  have hall : ∀ key ∈ managed mode, key.all Toml.isBareKeyChar = true := by
    cases mode <;> decide
  exact .of_all (hne key h) (hall key h)

/-- A line that begins with no character of a key sets none. -/
theorem managedKey?_eq_none {line : Text}
    (h : ∀ c rest, dropBlanks line = c :: rest → Toml.isBareKeyChar c = false) :
    managedKey? mode line = none := by
  rw [managedKey?, List.find?_eq_none]
  intro key hkey
  obtain ⟨d, tail, rfl, hd⟩ := (barePart_of_managed hkey).exists_cons
  have hnone : afterPart? (d :: tail) line = none := by
    refine afterPart?_eq_none fun behind hline => ?_
    rw [h d _ hline] at hd
    exact absurd hd (by simp)
  simp [setsKey, hnone]

/-- The managed key that an entry is taken for is the first part of its key. -/
theorem managedKey?_eq {line part w r : Text} {c : Char} (hpart : BarePart part) (hw : Spaces w)
    (hc : c = '.' ∨ c = '=') (hline : dropBlanks line = part ++ (w ++ c :: r)) :
    managedKey? mode line = if part ∈ managed mode then some part else none := by
  have hsets : ∀ key ∈ managed mode, setsKey line key = (key == part) := fun key hkey =>
    setsKey_eq (barePart_of_managed hkey) hpart hw hc hline
  rw [managedKey?, Toml.find?_congr_of_mem hsets]
  split_ifs with hmem
  · cases hfind : (managed mode).find? (· == part) with
    | none => exact absurd (List.find?_eq_none.mp hfind part hmem) (by simp)
    | some key =>
      have hkey : key = part := by simpa using List.find?_some hfind
      rw [hkey]
  · rw [List.find?_eq_none]
    intro key hkey
    simp only [beq_iff_eq]
    rintro rfl
    exact hmem hkey

/-! ## Lines -/

theorem allBlank_ending {ending : Text} (h : ending = [] ∨ IsNewline ending) :
    Text.allBlank ending = true := by
  rcases h with rfl | rfl | rfl <;> decide

/-- The first part of the key in a line, and what follows it. -/
theorem dropBlanks_entry {w₁ w₂ name : Text} {key : Toml.Key} (h₁ : Spaces w₁) (h₂ : Spaces w₂)
    (hk : Toml.DottedKey name key) (c : Char) (r : Text) :
    ∃ part more w' c' r', BarePart part ∧ key = part :: more ∧ Spaces w'
      ∧ dropBlanks (w₁ ++ (name ++ (w₂ ++ c :: r))) = part ++ (w' ++ c' :: r')
      ∧ (more = [] ∧ c' = c ∧ r' = r ∨ more ≠ [] ∧ c' = '.') := by
  obtain ⟨part, more, w', c', r', hp, hkey, hw', hsplit, hnext⟩ := hk.split h₂ c r
  refine ⟨part, more, w', c', r', hp, hkey, hw', ?_, hnext⟩
  rw [Text.dropBlanks_spaces h₁, hsplit, Text.dropBlanks_part hp]

/-- **A line is taken for a table header** exactly if it is one. -/
theorem isTableHeader_iff {t ending : Text} {ss : List Statement} (h : PlainLine t ss)
    (hending : Text.allBlank ending = true) :
    isTableHeader (t ++ ending) = true ↔ ∃ key, ss = [.table key] := by
  cases h with
  | nothing _ he =>
    rcases Text.dropBlanks_lineEnd he hending with hnone | ⟨rest, hcomment⟩
    · simp [isTableHeader, hnone]
    · simp [isTableHeader, hcomment]
  | header w₁ w₂ w₃ name behind key h₁ h₂ h₃ hk he =>
    rw [isTableHeader, List.append_assoc, Text.dropBlanks_spaces h₁, List.cons_append,
      Text.dropBlanks_cons (by decide)]
    simp
  | entry w₁ w₂ w₃ name written behind key value h₁ h₂ h₃ hk hv he =>
    obtain ⟨part, more, w', c', r', hp, -, -, hline, -⟩ :=
      dropBlanks_entry h₁ h₂ hk '=' (w₃ ++ (written ++ (behind ++ ending)))
    obtain ⟨d, tail, rfl, hd⟩ := hp.exists_cons
    have hhead : d ≠ '[' := (Toml.head_of_bare hd).1
    simp only [List.append_assoc, List.cons_append] at hline ⊢
    simp [isTableHeader, hline, hhead]

theorem withoutEnding_append {t ending : Text} (ht : Toml.Legal t) (h : ending = [] ∨ IsNewline ending) :
    withoutEnding (t ++ ending) = t := by
  refine Text.dropRightWhile_append ?_ ?_
  · intro c hc
    have hreturn : c ≠ '\r' := fun heq => ht.not_mem (by decide) (heq ▸ hc)
    have hfeed : c ≠ '\n' := fun heq => ht.not_mem (by decide) (heq ▸ hc)
    simp [hreturn, hfeed]
  · rcases h with rfl | rfl | rfl <;> exact List.all_eq_true.mp (by decide)

/-- Where a line begins with another character, nothing stands behind the expected one. -/
theorem afterPart?_of_ne {line rest : Text} {d e : Char} (hline : dropBlanks line = d :: rest)
    (h : d ≠ e) : afterPart? [e] line = none := by
  refine afterPart?_eq_none fun behind heq => ?_
  rw [hline] at heq
  exact h (List.cons.inj heq).1

theorem isPackageHeader_eq_false {line : Text} (h : afterPart? ['['] (withoutEnding line) = none) :
    isPackageHeader line = false := by
  have hbracket : afterPart? "[" (withoutEnding line) = none := h
  unfold isPackageHeader
  rw [hbracket]
  rfl

/-- A line with a bracket is the package header if behind the name of the package a bracket follows, and
then nothing or a comment. -/
theorem isPackageHeader_eq {line rest : Text} (h : afterPart? ['['] (withoutEnding line) = some rest) :
    isPackageHeader line = match (afterPart? packageName rest).bind (afterPart? [']']) with
      | none => false
      | some [] => true
      | some (c :: _) => c = '#' := by
  have hbracket : afterPart? "[" (withoutEnding line) = some rest := h
  unfold isPackageHeader
  rw [hbracket]
  rfl

theorem barePart_packageName : BarePart packageName :=
  .of_all (by decide) (by decide)

/-- Behind the bracket of a header stands the first part of its key. -/
theorem afterPart?_bracket {w₁ w₂ part : Text} (h₁ : Spaces w₁) (h₂ : Spaces w₂) (hp : BarePart part)
    (rest : Text) : afterPart? ['['] (w₁ ++ '[' :: (w₂ ++ (part ++ rest))) = some (part ++ rest) := by
  refine afterPart?_eq_some.mpr ⟨w₂ ++ (part ++ rest), ?_, ?_⟩
  · rw [Text.dropBlanks_spaces h₁, Text.dropBlanks_cons (by decide)]
    rfl
  · rw [Text.dropBlanks_spaces h₂, Text.dropBlanks_part hp]

/-- Behind the first part of another key no bracket stands where the name of the package ends. -/
theorem closing_eq_none {part w r : Text} {c : Char} (hp : BarePart part) (hne : packageName ≠ part)
    (hw : Spaces w) (hc : Toml.isBareKeyChar c = false) :
    (afterPart? packageName (part ++ (w ++ c :: r))).bind (afterPart? [']']) = none := by
  cases hafter : afterPart? packageName (part ++ (w ++ c :: r)) with
  | none => rfl
  | some rest =>
    obtain ⟨d, tail, rfl, hd⟩ :=
      afterPart?_ne barePart_packageName hp hne hw hc (Text.dropBlanks_part hp _) hafter
    have hclosing : d ≠ ']' := by
      rintro rfl
      exact absurd hd (by decide)
    exact afterPart?_of_ne (Text.dropBlanks_cons (Toml.isBlank_of_bare hd) tail) hclosing

theorem closing_packageName {w r : Text} {c : Char} (hw : Spaces w) (hc : Text.isBlank c = false) :
    (afterPart? packageName (packageName ++ (w ++ c :: r))).bind (afterPart? [']'])
      = afterPart? [']'] (c :: r) := by
  rw [afterPart?_part hw hc (Text.dropBlanks_part barePart_packageName _), Option.bind_some]

/-- A header is taken for that of the package exactly if its key is the name of the package. -/
theorem isPackageHeader_header {line w₁ w₂ w₃ name behind : Text} {key : Toml.Key} (h₁ : Spaces w₁)
    (h₂ : Spaces w₂) (h₃ : Spaces w₃) (hk : Toml.DottedKey name key) (he : LineEnd behind)
    (hline : withoutEnding line = w₁ ++ '[' :: (w₂ ++ (name ++ (w₃ ++ ']' :: behind)))) :
    isPackageHeader line = true ↔ key = [packageName] := by
  obtain ⟨part, more, w, c, r, hp, rfl, hw, hsplit, hnext⟩ := hk.split h₃ ']' behind
  rw [hsplit] at hline
  rw [isPackageHeader_eq (hline ▸ afterPart?_bracket h₁ h₂ hp _)]
  by_cases hname : packageName = part
  · subst hname
    rcases hnext with ⟨rfl, rfl, rfl⟩ | ⟨hmore, rfl⟩
    · -- the header of the package
      have hclosing : afterPart? [']'] (']' :: r) = some (dropBlanks r) :=
        afterPart?_eq_some.mpr ⟨r, Text.dropBlanks_cons (by decide) r, rfl⟩
      rw [closing_packageName hw (by decide), hclosing]
      rcases Text.dropBlanks_behind he with hnil | ⟨rest, hcomment⟩
      · simp [hnil]
      · simp [hcomment]
    · -- the header of a table in the package
      rw [closing_packageName hw (by decide),
        afterPart?_of_ne (Text.dropBlanks_cons (by decide) r) (by decide)]
      simp [hmore]
  · have hbare : Toml.isBareKeyChar c = false := by
      rcases hnext with ⟨-, rfl, -⟩ | ⟨-, rfl⟩ <;> decide
    rw [closing_eq_none hp hname hw hbare]
    simp [Ne.symm hname]

/-- **A line is taken for the package header** exactly if it is the header of this table. -/
theorem isPackageHeader_iff {t ending : Text} {ss : List Statement} (h : PlainLine t ss)
    (hending : ending = [] ∨ IsNewline ending) :
    isPackageHeader (t ++ ending) = true ↔ ss = [.table [packageName]] := by
  have hwithout : withoutEnding (t ++ ending) = t := withoutEnding_append h.legal hending
  cases h with
  | nothing _ he =>
    have hnone : afterPart? ['['] (withoutEnding (t ++ ending)) = none := by
      rw [hwithout]
      rcases Text.dropBlanks_behind he with hnil | ⟨rest, hcomment⟩
      · exact afterPart?_eq_none fun behind heq => absurd (hnil.symm.trans heq) (by simp)
      · exact afterPart?_of_ne hcomment (by decide)
    rw [isPackageHeader_eq_false hnone]
    simp
  | entry w₁ w₂ w₃ name written behind key value h₁ h₂ h₃ hk hv he =>
    obtain ⟨part, more, w', c', r', hp, -, -, hline, -⟩ :=
      dropBlanks_entry h₁ h₂ hk '=' (w₃ ++ (written ++ behind))
    obtain ⟨d, tail, rfl, hd⟩ := hp.exists_cons
    rw [← hwithout] at hline
    rw [isPackageHeader_eq_false (afterPart?_of_ne hline (Toml.head_of_bare hd).1)]
    simp
  | header w₁ w₂ w₃ name behind key h₁ h₂ h₃ hk he =>
    rw [isPackageHeader_header h₁ h₂ h₃ hk he hwithout]
    simp

/-! ## Lines as parts of a section -/

theorem joinPairs_eq_self {t : Text} (h : '\r' ∉ t) : Text.joinPairs t = t := by
  fun_induction Text.joinPairs t with
  | case1 => rfl
  | case2 rest ih => exact absurd h (by simp)
  | case3 c rest _ ih => rw [ih fun hmem => h (List.mem_cons_of_mem c hmem)]

theorem withoutFeed_eq_self {t : Text} (h : '\n' ∉ t) : withoutFeed t = t := by
  refine if_neg ?_
  intro hend
  obtain ⟨s, rfl⟩ := endsLine_iff.mp hend
  exact h (by simp)

/-- **A plain line is read for itself**, with its ending or without. -/
theorem reads_plainLine {t ending : Text} {ss : List Statement} (h : PlainLine t ss)
    (hending : ending = [] ∨ IsNewline ending) : Reads (t ++ ending) ss := by
  have hreturn : '\r' ∉ t := h.legal.not_mem (by decide)
  have hfeed : '\n' ∉ t := h.legal.not_mem (by decide)
  have hwhole : t.getLast? ≠ some '\r' := fun hlast => hreturn (List.mem_of_getLast? hlast)
  rcases hending with rfl | hnewline
  · rw [List.append_nil]
    refine ⟨hwhole, ?_⟩
    rw [joinPairs_eq_self hreturn, withoutFeed_eq_self hfeed]
    exact h.statements
  · have hjoined : Text.joinPairs (t ++ ending) = t ++ ['\n'] := by
      rw [joinPairs_append hwhole, joinPairs_eq_self hreturn]
      rcases hnewline with rfl | rfl <;> rfl
    refine ⟨?_, ?_⟩
    · rcases hnewline with rfl | rfl <;> simp
    · rw [hjoined, withoutFeed, if_pos (endsLine_iff.mpr ⟨t, rfl⟩), List.dropLast_concat]
      exact h.statements

/-- A line without a managed key is a part of the section. -/
theorem part_of_none {t ending : Text} {ss : List Statement} (h : PlainLine t ss)
    (hending : ending = [] ∨ IsNewline ending) (hnone : managedKey? mode (t ++ ending) = none)
    (hentries : Entries ss) (hsets : ∀ s ∈ ss, s.sets (managed mode) = false) :
    Part mode (managed mode) ⟨[t ++ ending], ss⟩ := by
  refine .other [] (t ++ ending) ss ?_ (Or.inl rfl) ?_ hentries hsets
  · intro line hline
    rw [List.mem_singleton.mp hline, hnone]
  · rw [List.nil_append, List.flatten_singleton]
    exact reads_plainLine h hending

/-- **A plain line that is no header is a part of the section**: it is taken for an entry at a managed key
exactly if it is one. -/
theorem part_of_plainLine {t ending : Text} {ss : List Statement} (h : PlainLine t ss)
    (hending : ending = [] ∨ IsNewline ending) (hnot : isTableHeader (t ++ ending) = false) :
    Part mode (managed mode) ⟨[t ++ ending], ss⟩ := by
  have hreads : Reads (t ++ ending) ss := reads_plainLine h hending
  have hblank : Text.allBlank ending = true := allBlank_ending hending
  have hplain : PlainLine t ss := h
  cases h with
  | nothing _ he =>
    refine part_of_none hplain hending (managedKey?_eq_none ?_) (by simp [Entries]) (by simp)
    intro c rest hline
    rcases Text.dropBlanks_lineEnd he hblank with hnil | ⟨rest', hcomment⟩
    · exact absurd (hnil.symm.trans hline) (by simp)
    · obtain ⟨rfl, -⟩ := List.cons.inj (hcomment.symm.trans hline)
      decide
  | header w₁ w₂ w₃ name behind key h₁ h₂ h₃ hk he =>
    have htable := (isTableHeader_iff hplain hblank).mpr ⟨key, rfl⟩
    rw [hnot] at htable
    exact absurd htable (by simp)
  | entry w₁ w₂ w₃ name written behind key value h₁ h₂ h₃ hk hv he =>
    obtain ⟨part, more, w', c', r', hp, rfl, hw', hline, hnext⟩ :=
      dropBlanks_entry h₁ h₂ hk '=' (w₃ ++ (written ++ (behind ++ ending)))
    have hc : c' = '.' ∨ c' = '=' := by
      rcases hnext with ⟨-, rfl, -⟩ | ⟨-, rfl⟩ <;> simp
    have hassoc : w₁ ++ (name ++ (w₂ ++ '=' :: (w₃ ++ (written ++ behind)))) ++ ending
        = w₁ ++ (name ++ (w₂ ++ '=' :: (w₃ ++ (written ++ (behind ++ ending))))) := by
      simp
    rw [← hassoc] at hline
    have hkey : managedKey? mode _ = _ := managedKey?_eq hp hw' hc hline
    split_ifs at hkey with hmem
    · exact .managed _ part more value hkey hreads
    · refine part_of_none hplain hending hkey ?_ ?_
      · intro s hs
        rw [List.mem_singleton.mp hs]
        exact ⟨rfl, by simp [Statement.key]⟩
      · intro s hs
        rw [List.mem_singleton.mp hs]
        simpa [Statement.sets, Statement.key] using hmem

end Manifest

end CrateSync
