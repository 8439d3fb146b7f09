/-
# Line feeds behind carriage returns

Texts whose line feeds all stand behind a carriage return.  They can be put together, and each of their
lines is one; their ends are, unless a pair is cut in two.

* `Paired` : every line feed of a text stands behind a carriage return;
* `Paired.append`, `Paired.lines` : texts put together, and the lines of a text.
-/
import Mathlib.Data.List.Basic
import CrateSync.Proofs.Text.Lines

namespace CrateSync.Text

/-! ## Texts -/

/-- Every line feed of the text stands behind a carriage return. -/
def Paired (t : Text) : Prop :=
  ∀ front rest, t = front ++ '\n' :: rest → front.getLast? = some '\r'

theorem paired_iff {t : Text} :
    Paired t ↔ ∀ n < t.length, t[n]? = some '\n' → (t.take n).getLast? = some '\r' := by
  constructor
  · intro h n hn hfeed
    obtain ⟨hn, hget⟩ := List.getElem?_eq_some_iff.mp hfeed
    refine h (t.take n) (t.drop (n + 1)) ?_
    rw [← hget, ← List.drop_eq_getElem_cons hn, List.take_append_drop]
  · rintro h front rest rfl
    have hlast := h front.length (by simp) (by simp)
    rwa [List.take_left] at hlast

instance (t : Text) : Decidable (Paired t) :=
  decidable_of_iff _ paired_iff.symm

theorem paired_of_not_mem {t : Text} (h : '\n' ∉ t) : Paired t := by
  rintro front rest rfl
  exact absurd (by simp) h

theorem paired_nil : Paired [] :=
  paired_of_not_mem List.not_mem_nil

theorem Paired.left {t u : Text} (h : Paired (t ++ u)) : Paired t := by
  rintro front rest rfl
  exact h front (rest ++ u) (by simp)

/-- The end of a text, unless it begins inside of a pair. -/
theorem Paired.right {t u : Text} (h : Paired (t ++ u))
    (hpair : t.getLast? = some '\r' → u.head? ≠ some '\n') : Paired u := by
  rintro front rest rfl
  have hlast := h (t ++ front) rest (by simp)
  cases front with
  | nil =>
    rw [List.append_nil] at hlast
    exact absurd rfl (hpair hlast)
  | cons c front => rwa [List.getLast?_append_of_ne_nil _ (List.cons_ne_nil c front)] at hlast

theorem Paired.append {t u : Text} (ht : Paired t) (hu : Paired u) : Paired (t ++ u) := by
  intro front rest heq
  obtain ⟨more, rfl, hmore⟩ | ⟨more, rfl, hmore⟩ := List.append_eq_append_iff.mp heq
  · -- the line feed stands in the second text, which begins with no line feed
    have hlast := hu more rest hmore
    have hne : more ≠ [] := by
      rintro rfl
      exact absurd hlast (by simp)
    rwa [List.getLast?_append_of_ne_nil _ hne]
  · cases more with
    | nil => exact absurd (hu [] rest (by simpa using hmore.symm)) (by simp)
    | cons c more =>
      obtain ⟨rfl, -⟩ := List.cons.inj hmore
      exact ht front more rfl

theorem paired_flatten {ts : List Text} (h : ∀ t ∈ ts, Paired t) : Paired ts.flatten := by
  induction ts with
  | nil => exact paired_nil
  | cons t ts ih =>
    rw [List.flatten_cons]
    exact (h t (by simp)).append (ih fun u hu => h u (by simp [hu]))

/-! ## Lines -/

/-- **Each line of such a text is such a text.** -/
theorem Paired.lines {t : Text} (h : Paired t) : ∀ line ∈ lines t, Paired line := by
  fun_induction Text.lines t with
  | case1 => simp
  | case2 rest ih =>
    have hsplit : Paired (['\r', '\n'] ++ rest) := h
    intro line hline
    rcases List.mem_cons.mp hline with rfl | hline
    · exact hsplit.left
    · exact ih (hsplit.right (by simp)) line hline
  | case3 c rest hne hbreak ih =>
    have hsplit : Paired ([c] ++ rest) := h
    intro line hline
    rcases List.mem_cons.mp hline with rfl | hline
    · exact hsplit.left
    refine ih (hsplit.right fun hc hhead => ?_) line hline
    obtain ⟨more, rfl⟩ := List.head?_eq_some_iff.mp hhead
    exact hne more (by simpa using hc) rfl
  | case4 c rest hne hbreak ih =>
    have hsplit : Paired ([c] ++ rest) := h
    have hreturn : c ≠ '\r' := ne_return_of_not_isLineBreak (by simpa using hbreak)
    have hrest := ih (hsplit.right fun hc => absurd (by simpa using hc) hreturn)
    intro line hline
    cases hlines : Text.lines rest with
    | nil =>
      rw [hlines, consFirst, List.mem_singleton] at hline
      rw [hline]
      exact hsplit.left
    | cons first more =>
      rw [hlines] at hline hrest
      rcases List.mem_cons.mp hline with rfl | hline
      · have hflat := flatten_lines rest
        rw [hlines, List.flatten_cons] at hflat
        rw [← hflat, ← List.cons_append] at h
        exact h.left
      · exact hrest line (List.mem_cons_of_mem _ hline)

/-- Such a text ends in the pair if it ends in a line feed. -/
theorem Paired.isSuffixOf {t : Text} (h : Paired t) (hend : endsLine t = true) :
    ['\r', '\n'].isSuffixOf t = true := by
  rw [endsLine, beq_iff_eq] at hend
  obtain ⟨front, rfl⟩ := List.getLast?_eq_some_iff.mp hend
  obtain ⟨start, rfl⟩ := List.getLast?_eq_some_iff.mp (h front [] rfl)
  rw [List.isSuffixOf_iff_suffix]
  exact ⟨start, by simp⟩

end CrateSync.Text
