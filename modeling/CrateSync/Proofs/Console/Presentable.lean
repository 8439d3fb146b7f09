/-
# Marked-up text that can be shown

Showing a marked-up text fails if a tag ends a style that was not begun, gives an action ill-formed
arguments, or names a style that cannot be made out.  None of this happens to a text without opening
brackets, to a text that was escaped, and to one that begins and ends a style named by a word; and a
text in which no tag begins may be put in front of what can be shown.

* `Presentable` : the tags can be taken out, and the styles that they leave can be made out;
* `presentable_escape`, `presentable_escape_append` : what was escaped can be shown, also in front of
  other text, if its closing brackets close no bracket left open;
* `Screen.document_ok`, `Screen.title_ok` : what has such styles is shown.
-/
import CrateSync.Proofs.Console.Escape

namespace CrateSync.Markup

/-! ## Parts -/

/-- Ranges whose styles can all be made out. -/
def Known (spans : List Span) : Prop :=
  ∀ span ∈ spans, ∃ d, Style.named? span.style = .ok d

/-- Parts whose tags can be taken out, and whose styles can be made out. -/
def CanShow (opened : List OpenTag) (shown : Nat) (parts : List Part) : Prop :=
  ∃ s, renderParts opened shown parts = .ok s ∧ Known s.spans

variable {opened : List OpenTag} {shown position : Nat} {more : List Part}

theorem canShow_nil : CanShow [] shown [] :=
  ⟨⟨[], []⟩, rfl, by simp [Known]⟩

theorem canShow_plain {t : Text} :
    CanShow opened shown (.plain t :: more)
      ↔ CanShow opened (shown + (unescapeBrackets t).length) more := by
  unfold CanShow
  rw [renderParts]
  cases renderParts opened (shown + (unescapeBrackets t).length) more with
  | error f => simp [Except.map]
  | ok s => simp [Except.map]

theorem canShow_tag {body : Text} {opened' : List OpenTag} {closed : List Span}
    (h : afterTag opened shown position body = .ok (opened', closed))
    (hclosed : Known closed) (hmore : CanShow opened' shown more) :
    CanShow opened shown (.tag position body :: more) := by
  obtain ⟨s, hs, hspans⟩ := hmore
  refine ⟨{ s with spans := closed ++ s.spans }, ?_, ?_⟩
  · simp [renderParts, h, hs, bind, Except.bind, pure, Except.pure]
  · intro span hspan
    rcases List.mem_append.mp hspan with hin | hin
    · exact hclosed span hin
    · exact hspans span hin

/-! ## Texts -/

/-- A text whose tags can be taken out, with as many steps as it has characters and wherever it stands,
and whose styles can be made out. -/
def Presentable (t : Text) : Prop :=
  ∀ n position shown, t.length ≤ n → CanShow [] shown (partsAux n position t)

/-- A text without tags is one part. -/
theorem partsAux_of_clear {t : Text} (h : Clear t []) (n position : Nat) :
    partsAux n position t = [.plain t] := by
  cases n with
  | zero => rfl
  | succ n => rw [partsAux, firstTag?_eq_none.mpr h]

theorem presentable_of_clear {t : Text} (h : Clear t []) : Presentable t := by
  intro n position shown _
  rw [partsAux_of_clear h]
  exact canShow_plain.mpr canShow_nil

/-- A tag behind an odd number of backslashes is ordinary text. -/
theorem presentable_of_escaped {t : Text} {found : Found} (h : firstTag? t = some found)
    (hodd : found.backslashes % 2 = 1) (hrest : Presentable found.rest) : Presentable t := by
  intro n position shown hn
  have ht := (firstTag?_eq_some h).2.2.2
  have hlength := congrArg List.length ht
  simp only [List.length_append, List.length_cons] at hlength
  cases n with
  | zero => omega
  | succ n =>
    simp only [partsAux, h, hodd, if_true]
    exact canShow_plain.mpr (canShow_plain.mpr (canShow_plain.mpr (hrest n _ _ (by omega))))

/-- Backslashes in front of brackets are found in the parts of a text, unless it is cut behind one. -/
theorem unescapeBrackets_append {t : Text} (h : t.getLast? ≠ some '\\') (behind : Text) :
    unescapeBrackets (t ++ behind) = unescapeBrackets t ++ unescapeBrackets behind := by
  fun_induction unescapeBrackets t with
  | case1 => rfl
  | case2 rest ih =>
    have hrest := getLast?_ne_of_cons (getLast?_ne_of_cons h)
    rw [List.cons_append, List.cons_append, unescapeBrackets, ih hrest, List.cons_append]
  | case3 c rest hc ih =>
    rw [List.cons_append, unescapeBrackets, ih (getLast?_ne_of_cons h), List.cons_append]
    rintro more rfl hmore
    cases rest with
    | nil => simp at h
    | cons d rest =>
      obtain ⟨rfl, -⟩ := List.cons.inj hmore
      exact hc rest rfl rfl

/-- The parts of a text behind one in which no tag begins: only the first one is longer. -/
theorem partsAux_append {t behind : Text} (hclear : Clear t behind) (hlast : t.getLast? ≠ some '\\')
    (n position : Nat) : ∃ first more, partsAux n (position + t.length) behind = .plain first :: more
      ∧ partsAux n position (t ++ behind) = .plain (t ++ first) :: more := by
  cases n with
  | zero => exact ⟨behind, [], rfl, rfl⟩
  | succ n =>
    have hfirst := firstTag?_append hclear hlast
    cases hfound : firstTag? behind with
    | none =>
      rw [hfound] at hfirst
      exact ⟨behind, [], by simp [partsAux, hfound], by simp [partsAux, hfirst]⟩
    | some found =>
      rw [hfound] at hfirst
      refine ⟨found.before, _, by simp only [partsAux, hfound]; rfl, ?_⟩
      simp only [partsAux, hfirst, Option.map_some, Found.behind, List.length_append,
        ← Nat.add_assoc]

/-- **What can be shown can be shown behind a text in which no tag begins.** -/
theorem Presentable.append {t behind : Text} (h : Presentable behind) (hclear : Clear t behind)
    (hlast : t.getLast? ≠ some '\\') : Presentable (t ++ behind) := by
  intro n position shown hn
  rw [List.length_append] at hn
  obtain ⟨first, more, hbehind, hparts⟩ := partsAux_append hclear hlast n position
  have hshow := h n (position + t.length) (shown + (unescapeBrackets t).length) (by omega)
  rw [hbehind, canShow_plain, Nat.add_assoc, ← List.length_append] at hshow
  rw [hparts, canShow_plain, unescapeBrackets_append hlast]
  exact hshow

/-- A text without brackets and without backslashes, which is shown as it is. -/
structure Literal (t : Text) : Prop where
  opening : '[' ∉ t
  closing : ']' ∉ t
  backslash : '\\' ∉ t

instance (t : Text) : Decidable (Literal t) :=
  decidable_of_iff ('[' ∉ t ∧ ']' ∉ t ∧ '\\' ∉ t)
    ⟨fun ⟨h, h', h''⟩ => ⟨h, h', h''⟩, fun ⟨h, h', h''⟩ => ⟨h, h', h''⟩⟩

theorem Literal.append {t u : Text} (ht : Literal t) (hu : Literal u) : Literal (t ++ u) where
  opening := by simp [ht.opening, hu.opening]
  closing := by simp [ht.closing, hu.closing]
  backslash := by simp [ht.backslash, hu.backslash]

theorem Literal.presentable {t : Text} (h : Literal t) : Presentable t :=
  presentable_of_clear (clear_of_not_mem h.opening [])

/-- What can be shown can be shown behind a text that is shown as it is. -/
theorem Presentable.append_literal {t behind : Text} (h : Presentable behind) (ht : Literal t) :
    Presentable (t ++ behind) :=
  h.append (clear_of_not_mem ht.opening behind) fun hlast =>
    absurd (List.mem_of_getLast? hlast) ht.backslash

/-! ## Escaped texts -/

/-- A text whose tags have been escaped can be shown in front of what the end of it can be shown in
front of. -/
theorem presentable_escapes {t escaped behind : Text} (h : Escapes t escaped)
    (hend : ∀ last, last <:+ t → Clear last [] → Presentable (last ++ behind)) :
    Presentable (escaped ++ behind) := by
  induction h with
  | clear hclear => exact hend _ (List.suffix_refl _) hclear
  | @tag before body rest escaped n hbody hclear hlast _ ih =>
    have hrest : Presentable (escaped ++ behind) :=
      ih fun last hl => hend last (hl.trans (suffix_behind before body rest n))
    -- the tag that was escaped is still the first one, now behind an odd number of backslashes
    have hfirst := firstTag?_behind hbody hclear hlast (2 * n + 1) (escaped ++ behind)
    have hshown := presentable_of_escaped hfirst (by simp) hrest
    simpa using hshown

theorem LeavesOpen.of_suffix {last t : Text} (hsuffix : last <:+ t) (h : LeavesOpen last) :
    LeavesOpen t := by
  obtain ⟨front, rfl⟩ := hsuffix
  obtain ⟨before, inside, rfl, hclose⟩ := h
  exact ⟨front ++ before, inside, by rw [List.append_assoc], hclose⟩

/-- A text without opening brackets may go from the text behind to the one in front. -/
theorem Clear.append_extra {last extra behind : Text} (h : Clear last (extra ++ behind))
    (hextra : '[' ∉ extra) : Clear (last ++ extra) behind := by
  intro before inside heq
  rcases List.append_eq_append_iff.mp heq with ⟨more, rfl, hmore⟩ | ⟨more, rfl, hmore⟩
  · exact absurd (by rw [hmore]; simp) hextra
  · cases more with
    | nil =>
      rw [List.nil_append] at hmore
      exact absurd (by rw [← hmore]; simp) hextra
    | cons c more =>
      obtain ⟨rfl, hinside⟩ := List.cons.inj hmore
      have hnone := h before more rfl
      rw [hinside]
      simpa using hnone

/-- **An escaped text can be shown** in front of what can be shown, if its closing brackets close no
bracket that the text leaves open. -/
theorem presentable_escape_append {t behind : Text} {c : Char} (h : Presentable behind)
    (hopen : LeavesOpen t → ']' ∉ c :: behind) (hbracket : c ≠ '[') (hbackslash : c ≠ '\\') :
    Presentable (escape t ++ c :: behind) := by
  obtain ⟨escaped, extra, heq, hescapes, hextra⟩ := escape_eq t
  have hno : ∀ d : Char, d ≠ '\\' → d ∉ extra := fun d hd hin => hd (hextra d hin)
  rw [heq, List.append_assoc]
  refine presentable_escapes hescapes fun last hsuffix hclear => ?_
  -- the one character that is no backslash goes to the text in front
  have hshown : Presentable ((last ++ (extra ++ [c])) ++ behind) :=
    h.append ((hclear.append fun hlast => ?_).append_extra (by simp [hno, hbracket.symm]))
      (by simp [hbackslash])
  · simpa using hshown
  · have hclose := hopen (hlast.of_suffix hsuffix)
    simp only [List.mem_cons, not_or] at hclose
    simp [hno, hclose.1, hclose.2]

/-- **An escaped text can be shown.** -/
theorem presentable_escape (t : Text) : Presentable (escape t) := by
  obtain ⟨escaped, extra, heq, hescapes, hextra⟩ := escape_eq t
  have hno : ∀ d : Char, d ≠ '\\' → d ∉ extra := fun d hd hin => hd (hextra d hin)
  rw [heq]
  exact presentable_escapes hescapes fun last _ hclear =>
    presentable_of_clear ((hclear.append fun _ => by simp [hno]).append_extra (by simp [hno]))

/-! ## Styles named by a word -/

/-- Whether a character is one of the letters from a to z. -/
def isSmallLetter (c : Char) : Bool :=
  'a' ≤ c && c ≤ 'z'

/-- A style that is named by one word of small letters, which is its one name. -/
structure IsWordStyle (style : Text) : Prop where
  nonempty : style ≠ []
  small : style.all isSmallLetter = true
  trimmed : Text.trim style = style
  normal : Style.normalName style = .ok style

instance (style : Text) : Decidable (IsWordStyle style) :=
  decidable_of_iff
    (style ≠ [] ∧ style.all isSmallLetter = true ∧ Text.trim style = style
      ∧ Style.normalName style = .ok style)
    ⟨fun ⟨h, hsmall, htrim, hnormal⟩ => ⟨h, hsmall, htrim, hnormal⟩,
      fun ⟨h, hsmall, htrim, hnormal⟩ => ⟨h, hsmall, htrim, hnormal⟩⟩

variable {style : Text}

theorem IsWordStyle.not_mem (h : IsWordStyle style) {c : Char} (hc : isSmallLetter c = false) :
    c ∉ style := by
  intro hmem
  rw [List.all_eq_true.mp h.small c hmem] at hc
  exact absurd hc (by simp)

theorem IsWordStyle.head_ne (h : IsWordStyle style) {c : Char} (hc : isSmallLetter c = false) :
    style.head? ≠ some c :=
  fun hhead => h.not_mem hc (List.mem_of_head? hhead)

theorem IsWordStyle.named (h : IsWordStyle style) : ∃ d, Style.named? style = .ok d := by
  have hnormal := h.normal
  unfold Style.normalName at hnormal
  cases hd : Style.named? style with
  | ok d => exact ⟨d, rfl⟩
  | error f =>
    rw [hd] at hnormal
    exact absurd hnormal (by simp [Except.map])

/-- A word has no part behind an equals sign. -/
theorem IsWordStyle.all_name (h : IsWordStyle style) : ∀ c ∈ style, (c != '=') = true := by
  intro c hc
  have hne : c ≠ '=' := by
    rintro rfl
    exact h.not_mem rfl hc
  simpa using hne

theorem IsWordStyle.afterTag_begin (h : IsWordStyle style) (shown position : Nat) :
    afterTag [] shown position style = .ok ([⟨style, none, shown⟩], []) := by
  have hname : tagName style = style := List.takeWhile_eq_self_iff.mpr h.all_name
  have harguments : tagArguments? style = none := by
    rw [tagArguments?, List.dropWhile_eq_nil_iff.mpr h.all_name]
  unfold afterTag
  rw [hname]
  split
  · rename_i name
    exact absurd rfl (h.head_ne (c := '/') rfl)
  · simp [styleName, h.normal, harguments, bind, Except.bind, pure, Except.pure, Except.mapError]

theorem IsWordStyle.afterTag_end (h : IsWordStyle style) (start shown position : Nat) :
    afterTag [⟨style, none, start⟩] shown position ('/' :: style)
      = .ok ([], [⟨⟨start, shown⟩, style⟩]) := by
  have hname : tagName ('/' :: style) = '/' :: style := by
    rw [tagName, List.takeWhile_cons_of_pos (by decide), List.takeWhile_eq_self_iff.mpr h.all_name]
  have haction : OpenTag.isAction ⟨style, none, start⟩ = false := by
    simpa [OpenTag.isAction] using h.head_ne (c := '@') rfl
  have hempty : style.isEmpty = false := by
    simpa using h.nonempty
  simp [afterTag, hname, h.trimmed, hempty, styleName, h.normal, bind, Except.bind, pure,
    Except.pure, Except.mapError, OpenTag.close, haction, OpenTag.span]

theorem IsWordStyle.isTagBody (h : IsWordStyle style) : IsTagBody style where
  start := by
    cases style with
    | nil => exact absurd rfl h.nonempty
    | cons c rest =>
      have hc := List.all_eq_true.mp h.small c (by simp)
      have hstart : 'a' ≤ c ∧ c ≤ 'z' := by simpa [isSmallLetter] using hc
      simp [isTagStart, hstart]
  inside c hc := by
    have h1 : c ≠ '[' := by rintro rfl; exact h.not_mem rfl hc
    have h2 : c ≠ ']' := by rintro rfl; exact h.not_mem rfl hc
    simp [h1, h2]

/-- **A style that begins and ends again can be shown** around a text that is shown as it is, in front of
what can be shown. -/
theorem IsWordStyle.presentable_append (h : IsWordStyle style) {t behind : Text} (ht : Literal t)
    (hbehind : Presentable behind) :
    Presentable ('[' :: (style ++ ']' :: (t ++ '[' :: '/' :: (style ++ ']' :: behind)))) := by
  have hend : IsTagBody ('/' :: style) :=
    ⟨by simp [isTagStart], by
      intro c hc
      rcases List.mem_cons.mp hc with rfl | hc
      · decide
      · exact h.isTagBody.inside c hc⟩
  have hlast : t.getLast? ≠ some '\\' := fun hl => absurd (List.mem_of_getLast? hl) ht.backslash
  -- the two tags are found one after the other, with the text between them
  have hfirst := firstTag?_here h.isTagBody 0 (t ++ '[' :: '/' :: (style ++ ']' :: behind))
  have hsecond := firstTag?_append
    (clear_of_not_mem ht.opening ('[' :: '/' :: (style ++ ']' :: behind))) hlast
  have hthere := firstTag?_here hend 0 behind
  simp only [List.replicate_zero, List.nil_append, List.cons_append] at hfirst hthere
  rw [hthere] at hsecond
  intro n position shown hn
  simp only [List.length_cons, List.length_append] at hn
  obtain ⟨n, rfl⟩ : ∃ m, n = m + 2 := ⟨n - 2, by omega⟩
  simp only [partsAux, hfirst, hsecond, Option.map_some, Found.behind, Nat.zero_mod, Nat.zero_ne_one,
    if_false]
  refine canShow_plain.mpr (canShow_plain.mpr (canShow_tag (h.afterTag_begin _ _) (by simp [Known]) ?_))
  refine canShow_plain.mpr (canShow_plain.mpr (canShow_tag (h.afterTag_end _ _ _) ?_ ?_))
  · intro span hspan
    rw [List.mem_singleton.mp hspan]
    exact h.named
  · exact hbehind n _ _ (by omega)

/-! ## On the screen -/

theorem Presentable.render {t : Text} (h : Presentable t) :
    ∃ s, Markup.render t = .ok s ∧ Known s.spans :=
  h t.length 0 0 le_rfl

end CrateSync.Markup

namespace CrateSync.Screen

open Markup

/-- Styles that can be made out are made out wherever they are shown. -/
theorem forM_checkStyle {spans : List Span} (h : Known spans) :
    spans.forM checkStyle = (.ok () : Except Fault PUnit) := by
  induction spans with
  | nil => rfl
  | cons span rest ih =>
    obtain ⟨d, hd⟩ := h span (by simp)
    have hspan : checkStyle span = .ok () := by rw [checkStyle, hd]
    calc (span :: rest).forM checkStyle
        = checkStyle span >>= fun _ => rest.forM checkStyle := rfl
      _ = rest.forM checkStyle := by rw [hspan]; rfl
      _ = .ok () := ih fun s hs => h s (List.mem_cons_of_mem _ hs)

theorem checkStyles_ok {spans : List Span} (h : Known spans) (layout : Layout) :
    checkStyles layout spans = .ok () :=
  forM_checkStyle fun span hspan => h span (List.mem_filter.mp hspan).1

theorem document_ok {s : Styled} (h : Known s.spans) : ∃ lines, document s = .ok lines := by
  unfold document
  exact ⟨_, by simp only [checkStyles_ok h]; rfl⟩

theorem title_ok {s : Styled} (h : Known s.spans) (width : Nat) :
    ∃ lines, title width s = .ok lines := by
  unfold title
  exact ⟨_, by simp only [checkStyles_ok h]; rfl⟩

end CrateSync.Screen
