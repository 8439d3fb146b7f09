/-
# Lines of composed texts

Where a text ends with a line break, what follows begins a new line, so the lines of a composed text are
those of its parts; the pair of carriage return and line feed must not be torn apart.

* `lines_append` : the lines of two texts, the first of which ends its last line;
* `lines_of_append` : some of the lines of a text are the lines of what they make up;
* `lines_newline` : what becomes of the lines of a text when a line break is added to it;
* `unifyBreaks_append` : two texts whose line breaks are made line feeds.
-/
import Mathlib.Tactic.Common
import CrateSync.Text.Blank
import CrateSync.Text.Lines

namespace CrateSync.Text

/-! ## Texts that end with a line break -/

/-- The last line of a text has an ending, if there is a line at all. -/
def Finished (t : Text) : Prop :=
  ∀ c ∈ t.getLast?, isLineBreak c = true

theorem finished_nil : Finished [] := by
  intro c hc
  exact absurd hc (by simp)

theorem finished_cons {c d : Char} {rest : Text} : Finished (c :: d :: rest) ↔ Finished (d :: rest) := by
  rw [Finished, Finished, List.getLast?_cons_cons]

theorem finished_of_endsLine {t : Text} (h : endsLine t = true) : Finished t := by
  intro c hc
  rw [endsLine, beq_iff_eq] at h
  obtain rfl : '\n' = c := by simpa [h] using hc
  decide

theorem lines_pair (rest : Text) : lines ('\r' :: '\n' :: rest) = ['\r', '\n'] :: lines rest :=
  rfl

theorem lines_cons {c : Char} {rest : Text} (h : ∀ more, c = '\r' → rest = '\n' :: more → False) :
    lines (c :: rest) = if isLineBreak c then [c] :: lines rest else consFirst c (lines rest) :=
  lines.eq_3 c rest h

/-- A character that makes no pair with what follows makes none with more behind that. -/
theorem no_pair_append {c d : Char} {rest : Text}
    (h : ∀ more, c = '\r' → d :: rest = '\n' :: more → False) (u : Text) :
    ∀ more, c = '\r' → d :: rest ++ u = '\n' :: more → False := by
  rintro more rfl heq
  obtain ⟨rfl, -⟩ := List.cons.inj heq
  exact h rest rfl rfl

theorem consFirst_append (c : Char) {ts : List Text} (h : ts ≠ []) (us : List Text) :
    consFirst c (ts ++ us) = consFirst c ts ++ us := by
  obtain ⟨t, ts, rfl⟩ := List.exists_cons_of_ne_nil h
  rfl

theorem lines_ne_nil {t : Text} (h : t ≠ []) : lines t ≠ [] := by
  intro hnil
  have hflat := flatten_lines t
  rw [hnil] at hflat
  exact h hflat.symm

/-- **The lines of two texts**, of which the first ends its last line, are the lines of both. -/
theorem lines_append {t u : Text} (h : Finished t)
    (hpair : t.getLast? = some '\r' → u.head? ≠ some '\n') : lines (t ++ u) = lines t ++ lines u := by
  fun_induction lines t with
  | case1 => rfl
  | case2 rest ih =>
    have hrest : lines (rest ++ u) = lines rest ++ lines u := by
      cases rest with
      | nil => rfl
      | cons d rest =>
        refine ih (finished_cons.mp (finished_cons.mp h)) fun hlast => hpair ?_
        rwa [List.getLast?_cons_cons, List.getLast?_cons_cons]
    rw [List.cons_append, List.cons_append, lines_pair, hrest]
    rfl
  | case3 c rest hne hbreak ih =>
    have hrest : lines (rest ++ u) = lines rest ++ lines u := by
      cases rest with
      | nil => rfl
      | cons d rest =>
        refine ih (finished_cons.mp h) fun hlast => hpair ?_
        rwa [List.getLast?_cons_cons]
    have hnot : ∀ more, c = '\r' → rest ++ u = '\n' :: more → False := by
      cases rest with
      | nil =>
        rintro more rfl rfl
        exact hpair rfl rfl
      | cons d rest => exact no_pair_append hne u
    rw [List.cons_append, lines_cons hnot, if_pos hbreak, hrest]
    rfl
  | case4 c rest hne hbreak ih =>
    cases rest with
    | nil => exact absurd (h c (by simp)) hbreak
    | cons d rest =>
      have hrest : lines (d :: rest ++ u) = lines (d :: rest) ++ lines u := by
        refine ih (finished_cons.mp h) fun hlast => hpair ?_
        rwa [List.getLast?_cons_cons]
      rw [List.cons_append, lines_cons (no_pair_append hne u), if_neg hbreak, hrest,
        consFirst_append c (lines_ne_nil (by simp))]

/-! ## Texts without line breaks -/

theorem ne_return_of_not_isLineBreak {c : Char} (h : isLineBreak c = false) : c ≠ '\r' := by
  rintro rfl
  exact absurd h (by decide)

theorem lines_append_newline {t newline : Text} (h : ∀ c ∈ t, isLineBreak c = false)
    (hnewline : newline = ['\n'] ∨ newline = ['\r', '\n']) (rest : Text) :
    lines (t ++ (newline ++ rest)) = (t ++ newline) :: lines rest := by
  induction t with
  | nil => rcases hnewline with rfl | rfl <;> rfl
  | cons c t ih =>
    have hc : isLineBreak c = false := h c (by simp)
    rw [List.cons_append, lines_cons fun _ heq => absurd heq (ne_return_of_not_isLineBreak hc),
      if_neg (by simp [hc]), ih fun d hd => h d (by simp [hd])]
    rfl

theorem lines_eq_singleton {t : Text} (h : ∀ c ∈ t, isLineBreak c = false) (ht : t ≠ []) :
    lines t = [t] := by
  induction t with
  | nil => exact absurd rfl ht
  | cons c t ih =>
    have hc : isLineBreak c = false := h c (by simp)
    rw [lines_cons fun _ heq => absurd heq (ne_return_of_not_isLineBreak hc), if_neg (by simp [hc])]
    cases t with
    | nil => rfl
    | cons d t =>
      rw [ih (fun d hd => h d (by simp [hd])) (by simp)]
      rfl

/-! ## Some of the lines of a text -/

theorem lines_of_prefix {t : Text} {ts us : List Text} (h : lines t = ts ++ us) :
    lines ts.flatten = ts := by
  -- no pair comes about anew: what follows a return in the lines follows it in the text
  fun_induction lines t generalizing ts with
  | case1 =>
    obtain ⟨rfl, -⟩ := List.append_eq_nil_iff.mp h.symm
    rfl
  | case2 rest ih =>
    cases ts with
    | nil => rfl
    | cons first ts =>
      obtain ⟨rfl, hrest⟩ := List.cons.inj h
      rw [List.flatten_cons, List.cons_append, List.cons_append, List.nil_append, lines_pair, ih hrest]
  | case3 c rest hne hbreak ih =>
    cases ts with
    | nil => rfl
    | cons first ts =>
      obtain ⟨rfl, hrest⟩ : [c] = first ∧ lines rest = ts ++ us := List.cons.inj h
      have hnot : ∀ more, c = '\r' → ts.flatten = '\n' :: more → False := by
        intro more hc heq
        have hflat := flatten_lines rest
        rw [hrest, List.flatten_append, heq, List.cons_append] at hflat
        exact hne _ hc hflat.symm
      rw [List.flatten_cons, List.singleton_append, lines_cons hnot, if_pos hbreak, ih hrest]
  | case4 c rest hne hbreak ih =>
    cases ts with
    | nil => rfl
    | cons first ts =>
      cases hlines : lines rest with
      | nil =>
        rw [hlines] at h
        obtain ⟨rfl, hnil⟩ := List.cons.inj h
        obtain ⟨rfl, -⟩ := List.append_eq_nil_iff.mp hnil.symm
        rw [List.flatten_singleton, lines_cons (by simp), if_neg hbreak]
        rfl
      | cons line more =>
        -- the character is the first of the line behind it
        rw [hlines] at h
        obtain ⟨rfl, rfl⟩ : c :: line = first ∧ more = ts ++ us := List.cons.inj h
        have hrest : lines (line :: ts).flatten = line :: ts := ih hlines
        have hnot : ∀ more, c = '\r' → (line :: ts).flatten = '\n' :: more → False := by
          intro more hc heq
          have hflat : (line :: ts).flatten ++ us.flatten = rest := by
            rw [← List.flatten_append, ← flatten_lines rest, hlines]
            rfl
          rw [heq, List.cons_append] at hflat
          exact hne _ hc hflat.symm
        rw [List.flatten_cons, List.cons_append, ← List.flatten_cons, lines_cons hnot, if_neg hbreak,
          hrest]
        rfl

theorem lines_of_suffix {t : Text} {ts us : List Text} (h : lines t = ts ++ us) :
    lines us.flatten = us := by
  fun_induction lines t generalizing ts with
  | case1 =>
    obtain ⟨-, rfl⟩ := List.append_eq_nil_iff.mp h.symm
    rfl
  | case2 rest ih =>
    cases ts with
    | nil =>
      rw [← show _ = us from h, List.flatten_cons, flatten_lines, List.cons_append, List.cons_append,
        List.nil_append, lines_pair]
    | cons first ts => exact ih (List.cons.inj h).2
  | case3 c rest hne hbreak ih =>
    cases ts with
    | nil =>
      rw [← show _ = us from h, List.flatten_cons, flatten_lines, List.singleton_append, lines_cons hne,
        if_pos hbreak]
    | cons first ts => exact ih (List.cons.inj h).2
  | case4 c rest hne hbreak ih =>
    cases ts with
    | nil =>
      rw [← show _ = us from h, flatten_consFirst, flatten_lines, lines_cons hne, if_neg hbreak]
    | cons first ts =>
      cases hlines : lines rest with
      | nil =>
        rw [hlines] at h
        obtain ⟨-, rfl⟩ := List.append_eq_nil_iff.mp (List.cons.inj h).2.symm
        rfl
      | cons line more =>
        rw [hlines] at h
        obtain ⟨-, rfl⟩ := List.cons.inj h
        have hrest : lines rest = (line :: ts) ++ us := hlines
        exact ih hrest

/-- **Some of the lines of a text**, one after the other, are the lines of what they make up. -/
theorem lines_of_append {t : Text} {ts us vs : List Text} (h : lines t = ts ++ (us ++ vs)) :
    lines us.flatten = us :=
  lines_of_prefix (lines_of_suffix h)

/-! ## Adding a line break -/

/-- A line break that is added to a text whose last line has no ending ends that line. -/
theorem lines_append_of_not_finished {t newline : Text} (h : ¬Finished t)
    (hnewline : newline = ['\n'] ∨ newline = ['\r', '\n']) :
    ∃ front last, lines t = front ++ [last] ∧ lines (t ++ newline) = front ++ [last ++ newline] := by
  -- only the case of the last character sees what is added; in front of it the lines stay
  fun_induction lines t with
  | case1 => exact absurd finished_nil h
  | case2 rest ih =>
    cases rest with
    | nil => exact absurd (finished_of_endsLine rfl) h
    | cons d rest =>
      obtain ⟨front, last, hlines, hmore⟩ := ih fun hrest =>
        h (finished_cons.mpr (finished_cons.mpr hrest))
      refine ⟨['\r', '\n'] :: front, last, by rw [hlines]; rfl, ?_⟩
      rw [List.cons_append, List.cons_append, lines_pair, hmore]
      rfl
  | case3 c rest hne hbreak ih =>
    cases rest with
    | nil =>
      refine absurd (fun d hd => ?_) h
      obtain rfl : c = d := by simpa using hd
      exact hbreak
    | cons d rest =>
      obtain ⟨front, last, hlines, hmore⟩ := ih fun hrest => h (finished_cons.mpr hrest)
      refine ⟨[c] :: front, last, by rw [hlines]; rfl, ?_⟩
      rw [List.cons_append, lines_cons (no_pair_append hne newline), if_pos hbreak, hmore]
      rfl
  | case4 c rest hne hbreak ih =>
    cases rest with
    | nil =>
      refine ⟨[], [c], rfl, ?_⟩
      have hreturn : c ≠ '\r' := by
        rintro rfl
        exact absurd (by decide) hbreak
      have hnot : ∀ more, c = '\r' → newline = '\n' :: more → False := fun _ hc _ => hreturn hc
      rw [List.singleton_append, lines_cons hnot, if_neg hbreak]
      rcases hnewline with rfl | rfl <;> rfl
    | cons d rest =>
      obtain ⟨front, last, hlines, hmore⟩ := ih fun hrest => h (finished_cons.mpr hrest)
      rw [List.cons_append, lines_cons (no_pair_append hne newline), if_neg hbreak, hmore,
        hlines]
      cases front with
      | nil => exact ⟨[], c :: last, rfl, rfl⟩
      | cons first front => exact ⟨(c :: first) :: front, last, rfl, rfl⟩

/-- **A line break that is added to a text** is a line of its own behind a line with an ending, and ends
the last line otherwise. -/
theorem lines_newline {t newline : Text} (hreturn : t.getLast? ≠ some '\r')
    (hnewline : newline = ['\n'] ∨ newline = ['\r', '\n']) :
    lines (t ++ newline) = lines t ++ [newline]
      ∨ ∃ front last, lines t = front ++ [last] ∧ lines (t ++ newline) = front ++ [last ++ newline] := by
  by_cases h : Finished t
  · left
    rw [lines_append h fun hlast => absurd hlast hreturn]
    rcases hnewline with rfl | rfl <;> rfl
  · exact Or.inr (lines_append_of_not_finished h hnewline)

/-! ## Line breaks made line feeds -/

theorem unifyBreaks_cons {c : Char} (h : c ≠ '\r') (rest : Text) :
    unifyBreaks (c :: rest) = c :: unifyBreaks rest :=
  unifyBreaks.eq_4 c rest (fun _ hc _ => h hc) h

theorem unifyBreaks_return {rest : Text} (h : rest.head? ≠ some '\n') :
    unifyBreaks ('\r' :: rest) = '\n' :: unifyBreaks rest :=
  unifyBreaks.eq_3 rest fun _ heq => h (by rw [heq]; rfl)

/-- **The line breaks of two texts** are unified one by one, unless the pair of the two is torn apart. -/
theorem unifyBreaks_append {t u : Text} (hpair : t.getLast? = some '\r' → u.head? ≠ some '\n') :
    unifyBreaks (t ++ u) = unifyBreaks t ++ unifyBreaks u := by
  fun_induction unifyBreaks t with
  | case1 => rfl
  | case2 rest ih =>
    rw [List.cons_append, List.cons_append, unifyBreaks, ih]
    · rfl
    intro hlast
    refine hpair ?_
    cases rest with
    | nil => exact absurd hlast (by simp)
    | cons d rest => rwa [List.getLast?_cons_cons, List.getLast?_cons_cons]
  | case3 rest hne ih =>
    cases rest with
    | nil =>
      rw [List.singleton_append, unifyBreaks_return (hpair rfl)]
      rfl
    | cons d rest =>
      have hd : (d :: rest ++ u).head? ≠ some '\n' := by
        intro hhead
        obtain rfl : d = '\n' := by simpa using hhead
        exact hne rest rfl
      rw [List.cons_append, unifyBreaks_return hd, ih]
      · rfl
      · intro hlast
        exact hpair (by rwa [List.getLast?_cons_cons])
  | case4 c rest _ hc ih =>
    rw [List.cons_append, unifyBreaks_cons hc, ih]
    · rfl
    intro hlast
    refine hpair ?_
    cases rest with
    | nil => exact absurd hlast (by simp)
    | cons d rest => rwa [List.getLast?_cons_cons]

theorem return_not_mem_unifyBreaks (t : Text) : '\r' ∉ unifyBreaks t := by
  fun_induction unifyBreaks t with
  | case1 => exact List.not_mem_nil
  | case2 rest ih => simpa using ih
  | case3 rest _ ih => simpa using ih
  | case4 c rest _ hc ih => simpa [Ne.symm hc] using ih

theorem unifyBreaks_eq_self {t : Text} (h : '\r' ∉ t) : unifyBreaks t = t := by
  induction t with
  | nil => rfl
  | cons c t ih =>
    rw [List.mem_cons, not_or] at h
    rw [unifyBreaks_cons (Ne.symm h.1), ih h.2]

end CrateSync.Text
