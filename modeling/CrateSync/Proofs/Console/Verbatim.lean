/-
# Marked-up text that shows what was put into it

A text without tags shows itself, except that a backslash in front of an opening bracket is not shown; a
text that was escaped shows its tags and the backslashes in front of them.  What is lost, then, are
backslashes in front of brackets at which no tag begins, and what comes in is the second backslash behind
an end that has a single one.  Between two texts nothing happens unless a bracket that is left open in
the first is closed in the second.

* `Shows` : a marked-up text shows some text, in no style;
* `OpensTag`, `closesTag` : one text begins a tag that another one ends;
* `Shows.append_untagged`, `Shows.append_escape` : a text that is put in as it is, or escaped, is shown in
  front of what follows it.
-/
import Mathlib.Data.List.Infix
import CrateSync.Proofs.Console.Presentable

namespace CrateSync.Markup

/-! ## Backslashes -/

/-- Where a backslash stands in front of an opening bracket, a tag begins. -/
def BackslashesAtTags (t : Text) : Prop :=
  ∀ inside, '\\' :: '[' :: inside <:+ t → tagBody? inside ≠ none

/-- Whether a tag begins right here, if a backslash and a bracket stand here. -/
def backslashAtTag : Text → Bool
  | '\\' :: '[' :: inside => (tagBody? inside).isSome
  | _ => true

theorem backslashesAtTags_iff {t : Text} :
    BackslashesAtTags t ↔ ∀ u ∈ t.tails, backslashAtTag u = true := by
  constructor
  · intro h u hu
    rw [List.mem_tails] at hu
    unfold backslashAtTag
    split
    · exact Option.isSome_iff_ne_none.mpr (h _ hu)
    · rfl
  · intro h inside hinside
    exact Option.isSome_iff_ne_none.mp (h _ ((List.mem_tails _ _).mpr hinside))

instance (t : Text) : Decidable (BackslashesAtTags t) :=
  decidable_of_iff' _ backslashesAtTags_iff

theorem BackslashesAtTags.of_suffix {t u : Text} (h : BackslashesAtTags t) (hsuffix : u <:+ t) :
    BackslashesAtTags u :=
  fun inside hinside => h inside (hinside.trans hsuffix)

/-- Between the tags of such a text no backslash is lost. -/
theorem unescapeBrackets_of_clear {t behind : Text} (hclear : Clear t behind)
    (h : BackslashesAtTags (t ++ behind)) : unescapeBrackets t = t := by
  fun_induction unescapeBrackets t with
  | case1 => rfl
  | case2 rest ih => exact absurd (hclear ['\\'] rest rfl) (h _ (List.suffix_refl _))
  | case3 c rest _ ih => rw [ih hclear.of_cons (h.of_suffix (List.suffix_cons c _))]

/-- A character that is no bracket is shown behind any text. -/
theorem unescapeBrackets_concat (t : Text) {c : Char} (hc : c ≠ '[') :
    unescapeBrackets (t ++ [c]) = unescapeBrackets t ++ [c] := by
  fun_induction unescapeBrackets t with
  | case1 => simp [unescapeBrackets]
  | case2 rest ih =>
    rw [List.cons_append, List.cons_append, unescapeBrackets, ih, List.cons_append]
  | case3 d rest hd ih =>
    rw [List.cons_append, unescapeBrackets, ih, List.cons_append]
    rintro more rfl hmore
    cases rest with
    | nil => exact absurd (List.cons.inj hmore).1 hc
    | cons e rest =>
      obtain ⟨rfl, -⟩ := List.cons.inj hmore
      exact hd rest rfl rfl

theorem unescapeBrackets_of_not_mem {t : Text} (h : '[' ∉ t) : unescapeBrackets t = t := by
  fun_induction unescapeBrackets t with
  | case1 => rfl
  | case2 rest ih => exact absurd (by simp) h
  | case3 c rest _ ih => rw [ih fun hin => h (List.mem_cons_of_mem c hin)]

/-- An opening bracket in front of other text has no backslash in front of it. -/
theorem unescapeBrackets_cons_of_not_mem {t : Text} (h : '[' ∉ t) (c : Char) :
    unescapeBrackets (c :: t) = c :: t := by
  rw [unescapeBrackets, unescapeBrackets_of_not_mem h]
  rintro rest - rfl
  exact h (List.mem_cons_self ..)

/-! ## Tags that two texts make together -/

/-- A text ends in the beginning of a tag. -/
def OpensTag (t : Text) : Prop :=
  ∃ body, '[' :: body <:+ t ∧ IsTagBody body

instance (body : Text) : Decidable (IsTagBody body) :=
  decidable_of_iff
    (body.head?.any isTagStart = true ∧ body.all (fun c => c != '[' && c != ']') = true)
    ⟨fun ⟨h, h'⟩ => ⟨h, List.all_eq_true.mp h'⟩, fun ⟨h, h'⟩ => ⟨h, List.all_eq_true.mpr h'⟩⟩

/-- Whether a bracket stands right here, and behind it the inside of a tag up to the end. -/
def opensTagHere : Text → Bool
  | '[' :: body => IsTagBody body
  | _ => false

theorem opensTag_iff {t : Text} : OpensTag t ↔ ∃ u ∈ t.tails, opensTagHere u = true := by
  constructor
  · rintro ⟨body, hbody, hinside⟩
    exact ⟨_, (List.mem_tails _ _).mpr hbody, by simpa [opensTagHere] using hinside⟩
  · rintro ⟨u, hu, hopens⟩
    rw [List.mem_tails] at hu
    unfold opensTagHere at hopens
    split at hopens
    · exact ⟨_, hu, by simpa using hopens⟩
    · exact absurd hopens (by simp)

instance (t : Text) : Decidable (OpensTag t) :=
  decidable_of_iff' _ opensTag_iff

/-- Whether the first bracket of a text is a closing one. -/
def closesTag (t : Text) : Bool :=
  t.find? (fun c => c = '[' || c = ']') = some ']'

theorem OpensTag.of_suffix {t u : Text} (h : OpensTag u) (hsuffix : u <:+ t) : OpensTag t := by
  obtain ⟨body, hbody, hinside⟩ := h
  exact ⟨body, hbody.trans hsuffix, hinside⟩

theorem closesTag_append {t u : Text} (ht : closesTag t = false) (hu : closesTag u = false) :
    closesTag (t ++ u) = false := by
  simp only [closesTag, List.find?_append, decide_eq_false_iff_not] at ht hu ⊢
  cases hfind : t.find? (fun c => c = '[' || c = ']') with
  | none => simpa using hu
  | some c => rwa [hfind] at ht

theorem closesTag_of_literal {t : Text} (h : Literal t) : closesTag t = false := by
  simp only [closesTag, decide_eq_false_iff_not]
  exact fun hfind => h.closing (List.mem_of_find?_eq_some hfind)

/-- Escaping a text leaves its first bracket the first one. -/
theorem Escapes.closesTag_eq {t escaped : Text} (h : Escapes t escaped) :
    closesTag escaped = closesTag t := by
  cases h with
  | clear _ => rfl
  | tag _ _ _ _ => simp [closesTag, List.find?_append]

/-- **No tag begins in a text without tags** in front of another one that closes none. -/
theorem Clear.append_cons {t behind : Text} {c : Char} (h : Clear t []) (hc : isTagStart c = false)
    (hopen : OpensTag t → closesTag (c :: behind) = false) : Clear t (c :: behind) := by
  intro before inside heq
  have hnone : tagBody? inside = none := by simpa using h before inside heq
  rcases hbody : tagBody? (inside ++ c :: behind) with _ | ⟨body, rest⟩
  · rfl
  obtain ⟨hsplit, hinside⟩ := tagBody?_eq_some.mp hbody
  rcases List.append_eq_append_iff.mp hsplit with ⟨more, rfl, hmore⟩ | ⟨more, rfl, hmore⟩
  · -- the tag reaches over the end of the text
    have hfirst : closesTag (c :: behind) = true := by
      have hnot : more.find? (fun c => c = '[' || c = ']') = none := by
        refine List.find?_eq_none.mpr fun d hd => ?_
        have hd' := hinside.inside d (List.mem_append_right _ hd)
        simpa using hd'
      simp [closesTag, hmore, List.find?_append, hnot]
    have hopens : OpensTag t := by
      refine ⟨inside, ⟨before, heq.symm⟩, ?_, fun d hd => hinside.inside d (by simp [hd])⟩
      cases inside with
      | nil =>
        cases more with
        | nil => exact hinside.start
        | cons d more =>
          obtain ⟨rfl, -⟩ := List.cons.inj hmore
          exact absurd hinside.start (by simp [hc])
      | cons d inside => simpa using hinside.start
    rw [hopen hopens] at hfirst
    exact absurd hfirst (by simp)
  · -- the tag ends within the text, or right behind it
    cases more with
    | nil =>
      rw [List.append_nil] at heq
      obtain ⟨rfl, -⟩ := List.cons.inj hmore
      have hclosed := hopen ⟨body, ⟨before, heq.symm⟩, hinside⟩
      exact absurd hclosed (by simp [closesTag])
    | cons d more =>
      obtain ⟨rfl, -⟩ := List.cons.inj hmore
      rw [tagBody?_eq_some.mpr ⟨rfl, hinside⟩] at hnone
      exact absurd hnone (by simp)

/-! ## What is shown -/

/-- A marked-up text shows a text in no style, with as many steps as it has characters and wherever it
stands. -/
def Shows (marked t : Text) : Prop :=
  ∀ n position shown, marked.length ≤ n →
    renderParts [] shown (partsAux n position marked) = .ok (.plain t)

theorem Shows.render {marked t : Text} (h : Shows marked t) : render marked = .ok (.plain t) :=
  h marked.length 0 0 le_rfl

theorem renderParts_plain {t u : Text} {shown : Nat} {more : List Part} :
    renderParts [] shown (.plain t :: more) = .ok (.plain u)
      ↔ ∃ v, renderParts [] (shown + (unescapeBrackets t).length) more = .ok (.plain v)
        ∧ u = unescapeBrackets t ++ v := by
  rw [renderParts]
  cases renderParts [] (shown + (unescapeBrackets t).length) more with
  | error f => simp [Except.map]
  | ok s =>
    obtain ⟨text, spans⟩ := s
    constructor
    · intro h
      obtain ⟨rfl, rfl⟩ := Styled.mk.inj (Except.ok.inj h)
      exact ⟨text, rfl, rfl⟩
    · rintro ⟨v, hv, rfl⟩
      obtain ⟨rfl, rfl⟩ := Styled.mk.inj (Except.ok.inj hv)
      rfl

theorem shows_of_clear {t : Text} (h : Clear t []) : Shows t (unescapeBrackets t) := by
  intro n position shown _
  rw [partsAux_of_clear h]
  exact renderParts_plain.mpr ⟨[], rfl, (List.append_nil _).symm⟩

/-- **A text in which no tag begins** is shown in front of what is shown. -/
theorem Shows.append {t behind u : Text} (h : Shows behind u) (hclear : Clear t behind)
    (hlast : t.getLast? ≠ some '\\') : Shows (t ++ behind) (unescapeBrackets t ++ u) := by
  intro n position shown hn
  rw [List.length_append] at hn
  obtain ⟨first, more, hbehind, hparts⟩ := partsAux_append hclear hlast n position
  have hshow := h n (position + t.length) (shown + (unescapeBrackets t).length) (by omega)
  rw [hbehind, renderParts_plain] at hshow
  obtain ⟨v, hmore, rfl⟩ := hshow
  rw [hparts, renderParts_plain, unescapeBrackets_append hlast]
  refine ⟨v, ?_, by rw [List.append_assoc]⟩
  rwa [List.length_append, ← Nat.add_assoc]

/-- A tag behind an odd number of backslashes is shown, and so is one of each two other backslashes. -/
theorem shows_of_escaped {t u : Text} {found : Found} (h : firstTag? t = some found)
    (hodd : found.backslashes % 2 = 1) (hrest : Shows found.rest u) :
    Shows t (unescapeBrackets found.before ++ (List.replicate (found.backslashes / 2) '\\'
      ++ '[' :: (found.body ++ ']' :: u))) := by
  intro n position shown hn
  obtain ⟨hbody, -, -, ht⟩ := firstTag?_eq_some h
  have hlength := congrArg List.length ht
  simp only [List.length_append, List.length_cons] at hlength
  have htag : unescapeBrackets ('[' :: found.body ++ [']']) = '[' :: found.body ++ [']'] := by
    refine unescapeBrackets_cons_of_not_mem ?_ '['
    have hopening : '[' ∉ found.body := fun hin => absurd (hbody.inside _ hin) (by decide)
    simp [hopening]
  have hbackslashes := unescapeBrackets_of_not_mem
    (t := List.replicate (found.backslashes / 2) '\\') (by simp)
  cases n with
  | zero => omega
  | succ n =>
    simp only [partsAux, h, hodd, if_true]
    refine renderParts_plain.mpr ⟨_, renderParts_plain.mpr ⟨_, renderParts_plain.mpr
      ⟨u, hrest n _ _ (by omega), rfl⟩, rfl⟩, ?_⟩
    rw [hbackslashes, htag]
    simp

/-- A text whose tags were escaped is shown in front of what the end of it is shown in front of. -/
theorem shows_escapes {t escaped behind u : Text} (h : Escapes t escaped) (hkeep : BackslashesAtTags t)
    (hend : ∀ last, last <:+ t → Clear last [] → Shows (last ++ behind) (last ++ u)) :
    Shows (escaped ++ behind) (t ++ u) := by
  induction h with
  | clear hclear => exact hend _ (List.suffix_refl _) hclear
  | @tag before body rest escaped n hbody hclear hlast _ ih =>
    have hsuffix := suffix_behind before body rest n
    have hrest : Shows (escaped ++ behind) (rest ++ u) :=
      ih (hkeep.of_suffix hsuffix) fun last hl => hend last (hl.trans hsuffix)
    have hbefore : unescapeBrackets before = before :=
      unescapeBrackets_of_clear (hclear.of_bracket (m := 0) n _) hkeep
    -- the tag that was escaped is still the first one, now behind an odd number of backslashes
    have hfirst := firstTag?_behind hbody hclear hlast (2 * n + 1) (escaped ++ behind)
    have hshown := shows_of_escaped hfirst (by simp) hrest
    have hhalf : (2 * n + 1) / 2 = n := by omega
    simpa [hbefore, hhalf] using hshown

/-! ## Texts that are put in -/

theorem Shows.append_literal {t behind u : Text} (h : Shows behind u) (ht : Literal t) :
    Shows (t ++ behind) (t ++ u) := by
  have hshown := h.append (clear_of_not_mem ht.opening behind) fun hlast =>
    absurd (List.mem_of_getLast? hlast) ht.backslash
  rwa [unescapeBrackets_of_not_mem ht.opening] at hshown

/-- A text that is shown if it is put in as it is: it has no tag, and no backslash in front of a bracket. -/
structure Untagged (t : Text) : Prop where
  clear : Clear t []
  backslashes : BackslashesAtTags t

instance (t : Text) : Decidable (Untagged t) :=
  decidable_of_iff (firstTag? t = none ∧ BackslashesAtTags t)
    ⟨fun ⟨h, h'⟩ => ⟨firstTag?_eq_none.mp h, h'⟩, fun ⟨h, h'⟩ => ⟨firstTag?_eq_none.mpr h, h'⟩⟩

/-- A text that is shown if it is escaped: it has backslashes in front of brackets only where tags begin,
and does not end in a single backslash. -/
structure Escapable (t : Text) : Prop where
  backslashes : BackslashesAtTags t
  end_ne : endsInBackslash t = false

instance (t : Text) : Decidable (Escapable t) :=
  decidable_of_iff (BackslashesAtTags t ∧ endsInBackslash t = false)
    ⟨fun ⟨h, h'⟩ => ⟨h, h'⟩, fun ⟨h, h'⟩ => ⟨h, h'⟩⟩

variable {t behind u : Text} {c : Char}

/-- **A text without tags is shown as it is**, if what follows closes no tag that it opens. -/
theorem Shows.append_untagged (h : Shows behind u) (ht : Untagged t) (hc : Literal [c])
    (hstart : isTagStart c = false) (hopen : OpensTag t → closesTag (c :: behind) = false) :
    Shows (t ++ c :: behind) (t ++ c :: u) := by
  have hopening : c ≠ '[' := fun heq => hc.opening (by simp [heq])
  have hbackslash : c ≠ '\\' := fun heq => hc.backslash (by simp [heq])
  -- the one character that is no backslash goes to the text in front
  have hfront : Clear (t ++ [c]) behind :=
    (ht.clear.append_cons hstart hopen).append_extra (by simpa using hopening.symm)
  have hshown := h.append hfront (by simp [hbackslash])
  have hself : unescapeBrackets t = t :=
    unescapeBrackets_of_clear ht.clear (by simpa using ht.backslashes)
  rw [unescapeBrackets_concat t hopening, hself] at hshown
  simpa using hshown

/-- **An escaped text is shown as it was**, if what follows closes no tag that it opens. -/
theorem Shows.append_escape (h : Shows behind u) (ht : Escapable t) (hc : Literal [c])
    (hstart : isTagStart c = false) (hopen : OpensTag t → closesTag (c :: behind) = false) :
    Shows (escape t ++ c :: behind) (t ++ c :: u) :=
  shows_escapes (escapes_escape ht.end_ne) ht.backslashes fun _ hsuffix hclear =>
    h.append_untagged ⟨hclear, ht.backslashes.of_suffix hsuffix⟩ hc hstart fun hlast =>
      hopen (hlast.of_suffix hsuffix)

end CrateSync.Markup
