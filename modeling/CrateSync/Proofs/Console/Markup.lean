/-
# Where tags begin

What is between two texts decides whether a tag begins in the first of them: a tag reaches from an opening
bracket over the next closing one, and the backslashes in front of it belong to it.

* `tagBody?_eq_some`, `tagHere?_eq_some`, `firstTag?_eq_some` : what it means that a tag was found;
* `Clear` : in a text, in front of another one, no tag begins;
* `firstTag?_append` : a clear text comes before the first tag of what follows.
-/
import Mathlib.Data.List.TakeWhile
import CrateSync.Console.Screen

namespace CrateSync.Markup

/-! ## Tags -/

/-- The inside of a tag: it begins as tags do and holds no bracket. -/
structure IsTagBody (body : Text) : Prop where
  start : body.head?.any isTagStart = true
  inside : ∀ c ∈ body, (c != '[' && c != ']') = true

/-- **A tag is read** from behind its opening bracket exactly if its inside and a closing bracket stand
there. -/
theorem tagBody?_eq_some {t body rest : Text} :
    tagBody? t = some (body, rest) ↔ t = body ++ ']' :: rest ∧ IsTagBody body := by
  constructor
  · intro h
    cases t with
    | nil => exact absurd h (by simp [tagBody?])
    | cons c t =>
      simp only [tagBody?] at h
      split_ifs at h with hc
      have hsplit :=
        List.takeWhile_append_dropWhile (p := fun c => c != '[' && c != ']') (l := c :: t)
      split at h
      · rename_i rest' hdrop
        obtain ⟨rfl, rfl⟩ := Prod.mk.inj (Option.some.inj h)
        rw [hdrop] at hsplit
        refine ⟨hsplit.symm, ?_, fun d hd =>
          List.mem_takeWhile_imp (p := fun c => c != '[' && c != ']') hd⟩
        -- the first character is no bracket, as tags do not begin with one
        cases hw : (c :: t).takeWhile fun c => c != '[' && c != ']' with
        | nil =>
          obtain rfl : ']' = c := by simpa [hw] using congrArg List.head? hsplit
          exact absurd hc (by decide)
        | cons d w =>
          obtain rfl : d = c := by simpa [hw] using congrArg List.head? hsplit
          simpa using hc
      · exact absurd h (by simp)
  · rintro ⟨rfl, hstart, hinside⟩
    cases body with
    | nil => exact absurd hstart (by simp)
    | cons c body =>
      have hc : isTagStart c = true := by simpa using hstart
      have hdrop : (c :: body ++ ']' :: rest).dropWhile (fun c => c != '[' && c != ']')
          = ']' :: rest := by
        rw [List.dropWhile_append_of_pos hinside]
        rfl
      have htake : (c :: body ++ ']' :: rest).takeWhile (fun c => c != '[' && c != ']')
          = c :: body := by
        rw [List.takeWhile_append_of_pos hinside]
        simp
      rw [List.cons_append] at hdrop htake
      simp only [tagBody?, List.cons_append, hc, if_true, hdrop, htake]

/-- The backslashes at the start of a text are as many as are counted. -/
theorem takeWhile_backslash (t : Text) :
    t.takeWhile (· = '\\') = List.replicate (t.takeWhile (· = '\\')).length '\\' := by
  refine List.eq_replicate_iff.mpr ⟨rfl, fun c hc => ?_⟩
  simpa using List.mem_takeWhile_imp (p := fun c => decide (c = '\\')) hc

/-- A tag begins right here, behind some backslashes, exactly if these and the tag stand here. -/
theorem tagHere?_eq_some {t : Text} {found : Found} :
    tagHere? t = some found ↔ found.before = [] ∧ IsTagBody found.body
      ∧ t = List.replicate found.backslashes '\\' ++ '[' :: (found.body ++ ']' :: found.rest) := by
  obtain ⟨before, backslashes, body, rest⟩ := found
  constructor
  · intro h
    have hsplit := List.takeWhile_append_dropWhile (p := fun c => decide (c = '\\')) (l := t)
    rw [takeWhile_backslash] at hsplit
    unfold tagHere? at h
    split at h
    · rename_i inside hdrop
      obtain ⟨⟨body', rest'⟩, hbody, hfound⟩ := Option.map_eq_some_iff.mp h
      obtain ⟨rfl, rfl, rfl, rfl⟩ := Found.mk.inj hfound
      obtain ⟨rfl, hinside⟩ := tagBody?_eq_some.mp hbody
      rw [hdrop] at hsplit
      exact ⟨rfl, hinside, hsplit.symm⟩
    · exact absurd h (by simp)
  · rintro ⟨rfl, hbody, ht⟩
    simp only at hbody ht
    have hall : ∀ c ∈ List.replicate backslashes '\\', decide (c = '\\') = true := by
      simp
    have hdrop : t.dropWhile (fun c => decide (c = '\\')) = '[' :: (body ++ ']' :: rest) := by
      rw [ht, List.dropWhile_append_of_pos hall]
      rfl
    have htake : t.takeWhile (fun c => decide (c = '\\')) = List.replicate backslashes '\\' := by
      rw [ht, List.takeWhile_append_of_pos hall]
      simp
    simp only [tagHere?, hdrop, htake, tagBody?_eq_some.mpr ⟨rfl, hbody⟩, Option.map_some,
      List.length_replicate]

/-! ## The first tag -/

@[simp] theorem firstTag?_nil : firstTag? [] = none :=
  rfl

/-- The first tag of a text begins right here, or it is the first one behind the next character. -/
theorem firstTag?_cons (c : Char) (rest : Text) :
    firstTag? (c :: rest) = match tagHere? (c :: rest) with
      | some found => some found
      | none => (firstTag? rest).map fun found => { found with before := c :: found.before } :=
  rfl

/-- No tag begins in a text in front of another. -/
def Clear (t behind : Text) : Prop :=
  ∀ before inside, t = before ++ '[' :: inside → tagBody? (inside ++ behind) = none

theorem clear_of_not_mem {t : Text} (h : '[' ∉ t) (behind : Text) : Clear t behind := by
  rintro before inside rfl
  exact absurd (by simp) h

theorem Clear.of_cons {c : Char} {t behind : Text} (h : Clear (c :: t) behind) : Clear t behind := by
  rintro before inside rfl
  exact h (c :: before) inside rfl

theorem getLast?_ne_of_cons {c d : Char} {t : Text} (h : (c :: t).getLast? ≠ some d) :
    t.getLast? ≠ some d := by
  cases t with
  | nil => simp
  | cons e t => simpa using h

/-- A text that consists of backslashes ends in one. -/
theorem getLast?_of_replicate {t more : Text} {n : Nat} (ht : t ≠ [])
    (h : List.replicate n '\\' = t ++ more) : t.getLast? = some '\\' := by
  have hin : t.getLast ht ∈ List.replicate n '\\' := by
    rw [h]
    exact List.mem_append_left _ (List.getLast_mem ht)
  rw [List.getLast?_eq_some_getLast ht, List.eq_of_mem_replicate hin]

/-- A text is clear if no tag begins right at its start and the rest of it is clear. -/
theorem clear_cons {c : Char} {t behind : Text} (hhere : tagHere? (c :: t ++ behind) = none)
    (h : Clear t behind) : Clear (c :: t) behind := by
  intro before inside heq
  cases before with
  | nil =>
    obtain ⟨rfl, rfl⟩ := List.cons.inj heq
    rcases hbody : tagBody? (t ++ behind) with _ | ⟨body, rest⟩
    · rfl
    · obtain ⟨hmore, hbody⟩ := tagBody?_eq_some.mp hbody
      have hsome : tagHere? ('[' :: (t ++ behind)) = some ⟨[], 0, body, rest⟩ :=
        tagHere?_eq_some.mpr ⟨rfl, hbody, by simp [hmore]⟩
      rw [List.cons_append, hsome] at hhere
      exact absurd hhere (by simp)
  | cons d before => exact h before inside (List.cons.inj heq).2

/-- Where a text is clear and does not end in a backslash, no tag begins right at its start. -/
theorem Clear.tagHere?_eq_none {t behind : Text} (h : Clear t behind) (ht : t ≠ [])
    (hlast : t.getLast? ≠ some '\\') : tagHere? (t ++ behind) = none := by
  rcases hfound : tagHere? (t ++ behind) with _ | found
  · rfl
  · obtain ⟨-, hbody, heq⟩ := tagHere?_eq_some.mp hfound
    -- the text would end among the backslashes of the tag, or the tag would begin inside it
    rcases List.append_eq_append_iff.mp heq with ⟨more, hmore, -⟩ | ⟨more, rfl, hmore⟩
    · exact absurd (getLast?_of_replicate ht hmore) hlast
    · cases more with
      | nil =>
        rw [List.append_nil] at ht hlast
        exact absurd (getLast?_of_replicate ht (List.append_nil _).symm) hlast
      | cons c more =>
        obtain ⟨rfl, hinside⟩ := List.cons.inj hmore
        have hsome : tagBody? (more ++ behind) = some (found.body, found.rest) :=
          tagBody?_eq_some.mpr ⟨hinside.symm, hbody⟩
        rw [h _ more rfl] at hsome
        exact absurd hsome (by simp)

/-- A place behind some text. -/
def Found.behind (t : Text) (found : Found) : Found :=
  { found with before := t ++ found.before }

/-- **A text in which no tag begins comes before the first tag of what follows.** -/
theorem firstTag?_append {t behind : Text} (h : Clear t behind)
    (hlast : t.getLast? ≠ some '\\') :
    firstTag? (t ++ behind) = (firstTag? behind).map (Found.behind t) := by
  induction t with
  | nil =>
    have hid : Found.behind [] = id := by
      funext found
      rfl
    simp [hid]
  | cons c t ih =>
    have hhere := h.tagHere?_eq_none (by simp) hlast
    rw [List.cons_append] at hhere ⊢
    rw [firstTag?_cons, hhere]
    simp only
    rw [ih h.of_cons (getLast?_ne_of_cons hlast), Option.map_map]
    rfl

/-- A tag that begins right here, behind some backslashes, is the first one. -/
theorem firstTag?_here {body : Text} (h : IsTagBody body) (n : Nat) (rest : Text) :
    firstTag? (List.replicate n '\\' ++ '[' :: (body ++ ']' :: rest)) = some ⟨[], n, body, rest⟩ := by
  have hhere : tagHere? (List.replicate n '\\' ++ '[' :: (body ++ ']' :: rest))
      = some ⟨[], n, body, rest⟩ := tagHere?_eq_some.mpr ⟨rfl, h, rfl⟩
  cases hc : List.replicate n '\\' ++ '[' :: (body ++ ']' :: rest) with
  | nil => exact absurd hc (by simp)
  | cons c t =>
    rw [hc] at hhere
    rw [firstTag?_cons, hhere]

/-- The first tag of a text, and the text in front of it. -/
theorem firstTag?_eq_some {t : Text} {found : Found} (h : firstTag? t = some found) :
    IsTagBody found.body ∧ found.before.getLast? ≠ some '\\'
      ∧ Clear found.before
        (List.replicate found.backslashes '\\' ++ '[' :: (found.body ++ ']' :: found.rest))
      ∧ t = found.before
        ++ (List.replicate found.backslashes '\\' ++ '[' :: (found.body ++ ']' :: found.rest)) := by
  induction t generalizing found with
  | nil => exact absurd h (by simp)
  | cons c t ih =>
    rw [firstTag?_cons] at h
    split at h
    · rename_i here hhere
      obtain rfl := Option.some.inj h
      obtain ⟨hbefore, hbody, ht⟩ := tagHere?_eq_some.mp hhere
      rw [hbefore]
      exact ⟨hbody, by simp, by rintro _ _ hnil; simp at hnil, ht⟩
    · rename_i hhere
      obtain ⟨found, hfound, rfl⟩ := Option.map_eq_some_iff.mp h
      obtain ⟨hbody, hlast, hclear, ht⟩ := ih hfound
      refine ⟨hbody, ?_, clear_cons (by rw [List.cons_append, ← ht]; exact hhere) hclear, ?_⟩
      · -- a backslash right in front of the others would have begun the tag
        cases hb : found.before with
        | nil =>
          rw [hb, List.nil_append] at ht
          intro hc
          obtain rfl : c = '\\' := by simpa using hc
          have hsome : tagHere? ('\\' :: t)
              = some ⟨[], found.backslashes + 1, found.body, found.rest⟩ :=
            tagHere?_eq_some.mpr
              ⟨rfl, hbody, by rw [List.replicate_succ, List.cons_append, ← ht]⟩
          rw [hsome] at hhere
          exact absurd hhere (by simp)
        | cons d before => simpa [hb] using hlast
      · rw [List.cons_append, ← ht]

/-- **A text has no tag** exactly if it is clear by itself. -/
theorem firstTag?_eq_none {t : Text} : firstTag? t = none ↔ Clear t [] := by
  constructor
  · intro h
    induction t with
    | nil =>
      intro before inside heq
      exact absurd heq (by simp)
    | cons c t ih =>
      rw [firstTag?_cons] at h
      split at h
      · exact absurd h (by simp)
      · rename_i hhere
        refine clear_cons (by rw [List.append_nil]; exact hhere) (ih ?_)
        simpa using h
  · intro h
    rcases hfound : firstTag? t with _ | found
    · rfl
    · obtain ⟨hbody, -, -, rfl⟩ := firstTag?_eq_some hfound
      have hnone := h (found.before ++ List.replicate found.backslashes '\\')
        (found.body ++ ']' :: found.rest) (by rw [List.append_assoc])
      rw [List.append_nil, tagBody?_eq_some.mpr ⟨rfl, hbody⟩] at hnone
      exact absurd hnone (by simp)

/-! ## What follows a text -/

theorem tagBody?_eq_none_of_not_mem {t : Text} (h : ']' ∉ t) : tagBody? t = none := by
  rcases hbody : tagBody? t with _ | ⟨body, rest⟩
  · rfl
  · obtain ⟨rfl, -⟩ := tagBody?_eq_some.mp hbody
    exact absurd (by simp) h

/-- Behind its first closing bracket a text has no part in a tag. -/
theorem tagBody?_append {t : Text} (h : ']' ∈ t) (behind : Text) :
    tagBody? (t ++ behind) = none ↔ tagBody? t = none := by
  constructor
  · intro hnone
    rcases hbody : tagBody? t with _ | ⟨body, rest⟩
    · rfl
    · obtain ⟨rfl, hinside⟩ := tagBody?_eq_some.mp hbody
      have hsome : tagBody? (body ++ ']' :: rest ++ behind) = some (body, rest ++ behind) :=
        tagBody?_eq_some.mpr ⟨by simp, hinside⟩
      rw [hsome] at hnone
      exact absurd hnone (by simp)
  · intro hnone
    rcases hbody : tagBody? (t ++ behind) with _ | ⟨body, rest⟩
    · rfl
    · obtain ⟨heq, hinside⟩ := tagBody?_eq_some.mp hbody
      -- a tag that is read from both reaches its closing bracket before the text ends
      have hnot : ']' ∉ body := fun hin => absurd (hinside.inside _ hin) (by decide)
      rcases List.append_eq_append_iff.mp heq with ⟨more, rfl, -⟩ | ⟨more, rfl, hmore⟩
      · exact absurd (List.mem_append_left _ h) hnot
      · cases more with
        | nil =>
          rw [List.append_nil] at h
          exact absurd h hnot
        | cons c more =>
          obtain ⟨rfl, -⟩ := List.cons.inj hmore
          have hsome : tagBody? (body ++ ']' :: more) = some (body, more) :=
            tagBody?_eq_some.mpr ⟨rfl, hinside⟩
          rw [hsome] at hnone
          exact absurd hnone (by simp)

/-- An opening bracket that comes first leaves no tag. -/
theorem tagBody?_bracket {t : Text} (hopen : '[' ∈ t) (hclose : ']' ∉ t) (behind : Text) :
    tagBody? (t ++ behind) = none := by
  rcases hbody : tagBody? (t ++ behind) with _ | ⟨body, rest⟩
  · rfl
  · obtain ⟨heq, hinside⟩ := tagBody?_eq_some.mp hbody
    have hnot : '[' ∉ body := fun hin => absurd (hinside.inside _ hin) (by decide)
    rcases List.append_eq_append_iff.mp heq with ⟨more, rfl, -⟩ | ⟨more, rfl, hmore⟩
    · exact absurd (List.mem_append_left _ hopen) hnot
    · cases more with
      | nil =>
        rw [List.append_nil] at hopen
        exact absurd hopen hnot
      | cons c more =>
        obtain ⟨rfl, -⟩ := List.cons.inj hmore
        exact absurd (by simp) hclose

/-- Whether a tag begins in a text is not changed by backslashes in front of a bracket behind it, nor by
what follows that bracket. -/
theorem Clear.of_bracket {t behind : Text} {m : Nat}
    (h : Clear t (List.replicate m '\\' ++ '[' :: behind)) (n : Nat) (behind' : Text) :
    Clear t (List.replicate n '\\' ++ '[' :: behind') := by
  intro before inside heq
  by_cases hclose : ']' ∈ inside
  · exact (tagBody?_append hclose _).mpr ((tagBody?_append hclose _).mp (h before inside heq))
  · have hnone := tagBody?_bracket (t := inside ++ (List.replicate n '\\' ++ ['['])) (by simp)
      (by simp [hclose]) behind'
    simpa using hnone

/-- A text leaves a bracket open: behind one of its opening brackets there is no closing one. -/
def LeavesOpen (t : Text) : Prop :=
  ∃ before inside, t = before ++ '[' :: inside ∧ ']' ∉ inside

/-- A text without a tag stays without one in front of a text that closes no bracket. -/
theorem Clear.append {t behind : Text} (h : Clear t []) (hopen : LeavesOpen t → ']' ∉ behind) :
    Clear t behind := by
  intro before inside heq
  have hnone : tagBody? inside = none := by simpa using h before inside heq
  by_cases hclose : ']' ∈ inside
  · exact (tagBody?_append hclose _).mpr hnone
  · refine tagBody?_eq_none_of_not_mem ?_
    rw [List.mem_append]
    exact not_or.mpr ⟨hclose, hopen ⟨before, inside, heq, hclose⟩⟩

end CrateSync.Markup
