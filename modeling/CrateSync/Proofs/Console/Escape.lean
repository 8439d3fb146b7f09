/-
# Escaping

A text is escaped tag by tag: each one is put behind an odd number of backslashes, and what stands between
the tags is left alone.  So nothing but backslashes comes in, and the end of a text stays as it is.

* `Escapes` : a text and the same text with its tags escaped;
* `escapes_escapeAux` : escaping does that;
* `escape_eq`, `escapes_escape` : behind the end it puts a backslash at most, and none unless the text ends
  in a single one.
-/
import CrateSync.Proofs.Console.Markup

namespace CrateSync.Markup

/-- A text and the same text with its tags escaped. -/
inductive Escapes : Text → Text → Prop
  /-- A text without a tag is left as it is. -/
  | clear {t : Text} (h : Clear t []) : Escapes t t
  /-- The first tag comes behind an odd number of backslashes. -/
  | tag {before body rest escaped : Text} {n : Nat} (hbody : IsTagBody body)
      (hclear : Clear before ['[']) (hlast : before.getLast? ≠ some '\\')
      (hrest : Escapes rest escaped) :
      Escapes (before ++ (List.replicate n '\\' ++ '[' :: (body ++ ']' :: rest)))
        (before ++ (List.replicate (2 * n + 1) '\\' ++ '[' :: (body ++ ']' :: escaped)))

/-- A tag behind a text in which none begins is the first one, however many backslashes are between them. -/
theorem firstTag?_behind {before body : Text} (hbody : IsTagBody body) (hclear : Clear before ['['])
    (hlast : before.getLast? ≠ some '\\') (n : Nat) (rest : Text) :
    firstTag? (before ++ (List.replicate n '\\' ++ '[' :: (body ++ ']' :: rest)))
      = some ⟨before, n, body, rest⟩ := by
  rw [firstTag?_append (hclear.of_bracket (m := 0) n _) hlast, firstTag?_here hbody]
  simp [Found.behind]

/-- What follows a tag is an end of the text. -/
theorem suffix_behind (before body rest : Text) (n : Nat) :
    rest <:+ before ++ (List.replicate n '\\' ++ '[' :: (body ++ ']' :: rest)) :=
  ⟨before ++ (List.replicate n '\\' ++ '[' :: (body ++ [']'])), by simp⟩

/-- **Escaping a text escapes its tags**, with as many steps as the text has characters. -/
theorem escapes_escapeAux {n : Nat} {t : Text} (h : t.length ≤ n) : Escapes t (escapeAux n t) := by
  induction n generalizing t with
  | zero =>
    obtain rfl : t = [] := List.length_eq_zero_iff.mp (by omega)
    exact .clear (clear_of_not_mem (by simp) _)
  | succ n ih =>
    rw [escapeAux]
    split
    · rename_i hnone
      exact .clear (firstTag?_eq_none.mp hnone)
    · rename_i found hfound
      obtain ⟨hbody, hlast, hclear, ht⟩ := firstTag?_eq_some hfound
      have hlength := congrArg List.length ht
      simp only [List.length_append, List.length_cons] at hlength
      have hescapes := Escapes.tag (n := found.backslashes) hbody (hclear.of_bracket 0 []) hlast
        (ih (t := found.rest) (by omega))
      rw [← ht] at hescapes
      simpa using hescapes

/-- Escaping puts backslashes into a text, and nothing else. -/
theorem Escapes.mem {t escaped : Text} (h : Escapes t escaped) {c : Char} (hc : c ≠ '\\')
    (hmem : c ∈ escaped) : c ∈ t := by
  induction h with
  | clear _ => exact hmem
  | tag _ _ _ _ ih =>
    simp only [List.mem_append, List.mem_cons, List.mem_replicate, hc, and_false, false_or] at hmem ⊢
    rcases hmem with hmem | hmem | hmem | hmem | hmem
    · exact Or.inl hmem
    · exact Or.inr (Or.inl hmem)
    · exact Or.inr (Or.inr (Or.inl hmem))
    · exact Or.inr (Or.inr (Or.inr (Or.inl hmem)))
    · exact Or.inr (Or.inr (Or.inr (Or.inr (ih hmem))))

/-! ## The end of a text -/

/-- What a text ends in is seen behind any character that is not part of it. -/
theorem isSuffixOf_append_cons {w front rest : Text} {c : Char} (hc : c ∉ w) :
    w.isSuffixOf (front ++ c :: rest) = w.isSuffixOf rest := by
  rw [Bool.eq_iff_iff, List.isSuffixOf_iff_suffix, List.isSuffixOf_iff_suffix]
  constructor
  · rintro ⟨more, heq⟩
    rcases List.append_eq_append_iff.mp heq with ⟨as, -, rfl⟩ | ⟨bs, -, hbs⟩
    · exact absurd (by simp) hc
    · cases bs with
      | nil =>
        rw [List.nil_append] at hbs
        exact absurd (by simp [← hbs]) hc
      | cons d bs => exact ⟨bs, (List.cons.inj hbs).2.symm⟩
  · intro h
    exact h.trans ⟨front ++ [c], by simp⟩

/-- Whether a text ends in a single backslash is seen behind any other character. -/
theorem endsInBackslash_append_cons {front rest : Text} {c : Char} (hc : c ≠ '\\') :
    endsInBackslash (front ++ c :: rest) = endsInBackslash rest := by
  simp only [endsInBackslash, isSuffixOf_append_cons (w := ['\\']) (by simpa using hc),
    isSuffixOf_append_cons (w := ['\\', '\\']) (by simpa using hc)]

theorem Escapes.endsInBackslash_eq {t escaped : Text} (h : Escapes t escaped) :
    endsInBackslash escaped = endsInBackslash t := by
  induction h with
  | clear _ => rfl
  | @tag before body rest escaped n _ _ _ _ ih =>
    -- behind the tag both texts go on in the same way
    have hend (m : Nat) (tail : Text) :
        endsInBackslash (before ++ (List.replicate m '\\' ++ '[' :: (body ++ ']' :: tail)))
          = endsInBackslash tail := by
      have heq : before ++ (List.replicate m '\\' ++ '[' :: (body ++ ']' :: tail))
          = (before ++ List.replicate m '\\' ++ '[' :: body) ++ ']' :: tail := by simp
      rw [heq, endsInBackslash_append_cons (by decide)]
    rw [hend, hend, ih]

/-- An escaped text is the text with its tags escaped, and perhaps a backslash. -/
theorem escape_eq (t : Text) :
    ∃ escaped extra, escape t = escaped ++ extra ∧ Escapes t escaped ∧ ∀ c ∈ extra, c = '\\' := by
  have hescapes := escapes_escapeAux (le_refl t.length)
  by_cases h : endsInBackslash (escapeAux t.length t) = true
  · exact ⟨_, ['\\'], by simp [escape, h], hescapes, by simp⟩
  · exact ⟨_, [], by simp [escape, h], hescapes, by simp⟩

/-- **Behind a text that does not end in a single backslash** nothing is put. -/
theorem escapes_escape {t : Text} (h : endsInBackslash t = false) : Escapes t (escape t) := by
  have hescapes := escapes_escapeAux (le_refl t.length)
  have hends := hescapes.endsInBackslash_eq.trans h
  simpa [escape, hends] using hescapes

theorem mem_of_mem_escape {t : Text} {c : Char} (h : c ∈ escape t) (hc : c ≠ '\\') : c ∈ t := by
  obtain ⟨escaped, extra, heq, hescapes, hextra⟩ := escape_eq t
  rw [heq, List.mem_append] at h
  rcases h with h | h
  · exact hescapes.mem hc h
  · exact absurd (hextra c h) hc

end CrateSync.Markup
