/-
# Blanks at the ends of a text

What becomes of the blanks in front of a text and behind it.  A text that is trimmed has neither, and blanks
that are added to a text are trimmed again.

* `dropBlanks_append`, `dropBlanks_append_blank` : blanks in front of a text and behind it;
* `trim_append` : trimming takes off what is added;
* `head?_trim`, `getLast?_trim` : a trimmed text begins and ends with no blank.
-/
import Mathlib.Data.List.DropRight
import CrateSync.Text.Blank

namespace CrateSync.Text

/-! ## In front of a text -/

theorem dropBlanks_append {blanks : Text} (h : allBlank blanks = true) (t : Text) :
    dropBlanks (blanks ++ t) = dropBlanks t :=
  List.dropWhile_append_of_pos (List.all_eq_true.mp h)

theorem dropBlanks_cons {c : Char} (h : isBlank c = false) (rest : Text) :
    dropBlanks (c :: rest) = c :: rest := by
  rw [dropBlanks, List.dropWhile_cons_of_neg (by simp [h])]

theorem dropBlanks_of_allBlank {t : Text} (h : allBlank t = true) : dropBlanks t = [] :=
  List.dropWhile_eq_nil_iff.mpr (List.all_eq_true.mp h)

/-! ## Behind a text -/

theorem dropBlanks_append_blank {t w : Text} (hw : allBlank w = true) :
    dropBlanks (t ++ w) = dropBlanks t ++ (if dropBlanks t = [] then [] else w) := by
  rw [dropBlanks, List.dropWhile_append]
  by_cases h : t.dropWhile isBlank = []
  · have hnil : w.dropWhile isBlank = [] := dropBlanks_of_allBlank hw
    simp [dropBlanks, h, hnil]
  · simp [dropBlanks, h]

theorem head?_dropBlanks_append {t w : Text} (hw : allBlank w = true) :
    (dropBlanks (t ++ w)).head? = (dropBlanks t).head? := by
  rw [dropBlanks_append_blank hw]
  cases dropBlanks t <;> rfl

theorem dropRightWhile_append {p : Char → Bool} {t ending : Text} (ht : ∀ c ∈ t, p c = false)
    (hending : ∀ c ∈ ending, p c = true) : dropRightWhile p (t ++ ending) = t := by
  have hstart : t.reverse.dropWhile p = t.reverse := by
    rw [List.dropWhile_eq_self_iff]
    intro hlen
    rw [ht _ (List.mem_reverse.mp (List.getElem_mem hlen))]
    simp
  rw [dropRightWhile, List.reverse_append,
    List.dropWhile_append_of_pos (fun c hc => hending c (List.mem_reverse.mp hc)), hstart,
    List.reverse_reverse]

theorem dropRightWhile_append_of_all {p : Char → Bool} {ending : Text}
    (h : ∀ c ∈ ending, p c = true) (t : Text) :
    dropRightWhile p (t ++ ending) = dropRightWhile p t := by
  rw [dropRightWhile, dropRightWhile, List.reverse_append,
    List.dropWhile_append_of_pos fun c hc => h c (List.mem_reverse.mp hc)]

/-! ## Trimming -/

/-- **Blanks that are added to a text are trimmed again.** -/
theorem trim_append {front back : Text} (hfront : allBlank front = true)
    (hback : allBlank back = true) (t : Text) : trim (front ++ t ++ back) = trim t := by
  rw [trim, trim, List.append_assoc, dropBlanks_append hfront, dropBlanks_append_blank hback]
  split_ifs
  · rw [List.append_nil]
  · exact dropRightWhile_append_of_all (List.all_eq_true.mp hback) _

theorem trim_eq_rdropWhile (t : Text) : trim t = (dropBlanks t).rdropWhile isBlank :=
  rfl

/-- The first character behind the blanks is none. -/
theorem head?_dropBlanks {t : Text} {c : Char} (h : (dropBlanks t).head? = some c) :
    isBlank c = false := by
  have hnot := List.head?_dropWhile_not isBlank t
  rw [← dropBlanks, h] at hnot
  simpa using hnot

theorem trim_eq_nil_iff {t : Text} : trim t = [] ↔ allBlank t = true := by
  rw [trim_eq_rdropWhile, List.rdropWhile_eq_nil_iff]
  constructor
  · intro h
    rcases hd : dropBlanks t with _ | ⟨c, rest⟩
    · exact List.all_eq_true.mpr (List.dropWhile_eq_nil_iff.mp hd)
    · have hhead : (dropBlanks t).head? = some c := by rw [hd]; rfl
      have hc := h c (List.mem_of_head? hhead)
      rw [head?_dropBlanks hhead] at hc
      exact absurd hc (by simp)
  · intro h c hc
    rw [dropBlanks_of_allBlank h] at hc
    exact absurd hc List.not_mem_nil

theorem head?_trim {t : Text} {c : Char} (h : (trim t).head? = some c) : isBlank c = false := by
  obtain ⟨rest, hrest⟩ := List.head?_eq_some_iff.mp h
  obtain ⟨more, hmore⟩ := List.rdropWhile_prefix isBlank (dropBlanks t)
  rw [← trim_eq_rdropWhile, hrest] at hmore
  exact head?_dropBlanks (by rw [← hmore]; rfl)

theorem getLast?_trim {t : Text} {c : Char} (h : (trim t).getLast? = some c) :
    isBlank c = false := by
  rw [trim_eq_rdropWhile] at h
  rcases hr : (dropBlanks t).rdropWhile isBlank with _ | ⟨d, rest⟩
  · rw [hr] at h
    exact absurd h (by simp)
  · have hne : (dropBlanks t).rdropWhile isBlank ≠ [] := by simp [hr]
    rw [List.getLast?_eq_some_getLast hne] at h
    rw [← Option.some.inj h]
    simpa using List.rdropWhile_last_not isBlank (dropBlanks t) hne

end CrateSync.Text
