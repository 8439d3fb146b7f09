/-
# Reading is local

What a reader finds does not depend on the lines behind it.  A part of a document that is read to its end
is read the same with a line feed and any text behind it, and leaves what it left before with that text
behind.

* the readers of spaces, digits, dates, numbers and truth values never read over a line feed: for them an
  equation holds for every text (`date?_append`, `prefixed?_append`, ...);
* strings, arrays and inline tables may go over several lines: what was read is read again, with more fuel
  if need be (`basicReadsOn`, `readsOn`);
* `readValue_append`, `readKey_append`, `skipComment_append` : the parts of a statement.
-/
import Mathlib
import CrateSync.Toml.Document

namespace CrateSync.Toml

/-! ## Runs of characters -/

section

variable {p : Char → Bool} {c : Char} (hc : p c = false) (t x : Text)

include hc

theorem dropWhile_append_stop : (t ++ c :: x).dropWhile p = t.dropWhile p ++ c :: x := by
  induction t with
  | nil => simp [hc]
  | cons d t ih =>
    by_cases hd : p d = true
    · simp [hd, ih]
    · simp [hd]

theorem takeWhile_append_stop : (t ++ c :: x).takeWhile p = t.takeWhile p := by
  induction t with
  | nil => simp [hc]
  | cons d t ih =>
    by_cases hd : p d = true
    · simp [hd, ih]
    · simp [hd]

end

/-- What was read, with a line feed and a text behind what was left. -/
def followedBy {α : Type} (x : Text) (r : α × Text) : α × Text :=
  (r.1, r.2 ++ '\n' :: x)

@[simp] theorem followedBy_fst {α : Type} (x : Text) (r : α × Text) : (followedBy x r).1 = r.1 :=
  rfl

@[simp] theorem followedBy_snd {α : Type} (x : Text) (r : α × Text) :
    (followedBy x r).2 = r.2 ++ '\n' :: x :=
  rfl

@[simp] theorem followedBy_mk {α : Type} (x : Text) (a : α) (rest : Text) :
    followedBy x (a, rest) = (a, rest ++ '\n' :: x) :=
  rfl

variable (t x : Text)

@[simp] theorem skipSpaces_append :
    skipSpaces (t ++ '\n' :: x) = skipSpaces t ++ '\n' :: x :=
  dropWhile_append_stop (by decide) t x

/-- A beginning without line feeds is found the same. -/
theorem isPrefixOf_append {part : Text} (h : '\n' ∉ part) :
    part.isPrefixOf (t ++ '\n' :: x) = part.isPrefixOf t := by
  induction part generalizing t with
  | nil => simp [List.isPrefixOf]
  | cons c part ih =>
    rw [List.mem_cons, not_or] at h
    cases t with
    | nil => simp [List.isPrefixOf, Ne.symm h.1]
    | cons d t => simp [List.isPrefixOf, ih t h.2]

theorem after?_append {part : Text} (h : '\n' ∉ part) :
    Text.after? part (t ++ '\n' :: x) = (Text.after? part t).map (· ++ '\n' :: x) := by
  unfold Text.after?
  induction part generalizing t with
  | nil => simp [List.isPrefixOf?]
  | cons c part ih =>
    rw [List.mem_cons, not_or] at h
    cases t with
    | nil => simp [List.isPrefixOf?, Ne.symm h.1]
    | cons d t =>
      by_cases hd : c = d
      · simpa [List.isPrefixOf?, hd] using ih t h.2
      · simp [List.isPrefixOf?, hd]

/-! ## Digits -/

section

variable {isDigit : Char → Bool} (hfeed : isDigit '\n' = false) (hline : isDigit '_' = false)

include hfeed hline

theorem moreDigits_append :
    moreDigits isDigit (t ++ '\n' :: x) = followedBy x (moreDigits isDigit t) := by
  induction t using moreDigits.induct isDigit with
  | case1 d rest hd digits after heq ih =>
    simp only [List.cons_append, moreDigits, hd, if_true, ih]
    rfl
  | case2 d rest hd => simp [moreDigits, hd]
  | case3 d rest hne hd digits after heq ih =>
    have hd' : d ≠ '_' := fun h => by simp [h, hline] at hd
    rw [List.cons_append, moreDigits.eq_2 _ _ _ (fun _ _ h => absurd h hd'),
      moreDigits.eq_2 _ _ _ (fun _ _ h => absurd h hd'), if_pos hd, if_pos hd, ih]
    rfl
  | case4 d rest hne hd =>
    rw [moreDigits.eq_2 _ _ _ hne, if_neg hd]
    by_cases hd' : d = '_'
    · subst hd'
      cases rest with
      | nil => simp [moreDigits, hfeed]
      | cons e rest => exact absurd rfl (fun h => hne e rest rfl h)
    · rw [List.cons_append, moreDigits.eq_2 _ _ _ (fun _ _ h => absurd h hd'), if_neg hd]
      rfl
  | case5 => simp [moreDigits, hfeed]

theorem digits?_append :
    digits? isDigit (t ++ '\n' :: x) = (digits? isDigit t).map (followedBy x) := by
  cases t with
  | nil => simp [digits?, hfeed]
  | cons d rest =>
    by_cases hd : isDigit d = true
    · simp [digits?, hd, moreDigits_append rest x hfeed hline]
    · simp [digits?, hd]

end

theorem decimalDigits_append :
    digits? Char.isDigit (t ++ '\n' :: x) = (digits? Char.isDigit t).map (followedBy x) :=
  digits?_append t x (by decide) (by decide)

/-! ## Dates and times -/

theorem fixed?_append (width low high : Nat) :
    fixed? width low high (t ++ '\n' :: x) = (fixed? width low high t).map (followedBy x) := by
  unfold fixed?
  by_cases h : width ≤ t.length
  · rw [List.take_append_of_le_length h, List.drop_append_of_le_length h]
    simp only [apply_ite (Option.map (followedBy x)), Option.map_some, Option.map_none,
      followedBy_mk]
  · -- the line feed is among the first characters
    have hlen : ¬min width t.length = width := by omega
    have hmem : '\n' ∈ (t ++ '\n' :: x).take width := by
      rw [List.take_append, List.mem_append]
      right
      obtain ⟨k, hk⟩ : ∃ k, width - t.length = k + 1 := ⟨width - t.length - 1, by omega⟩
      simp [hk]
    have hall : ((t ++ '\n' :: x).take width).all Char.isDigit = false := by
      rw [List.all_eq_false]
      exact ⟨'\n', hmem, by decide⟩
    simp [hlen, hall]

theorem char?_append {c : Char} (hc : c ≠ '\n') :
    char? c (t ++ '\n' :: x) = (char? c t).map (· ++ '\n' :: x) := by
  cases t with
  | nil => simp [char?, Ne.symm hc]
  | cons d t =>
    by_cases h : d = c
    · simp [char?, h]
    · simp [char?, h]

theorem date?_append : date? (t ++ '\n' :: x) = (date? t).map (followedBy x) := by
  unfold date?
  simp [fixed?_append, char?_append, Option.bind_map, Function.comp_def, Option.map_bind]

theorem microseconds_append : microseconds (t ++ '\n' :: x) = followedBy x (microseconds t) := by
  cases t with
  | nil => rfl
  | cons c rest =>
    by_cases hc : c = '.'
    · subst hc
      simp only [List.cons_append, microseconds]
      rw [takeWhile_append_stop (by decide), dropWhile_append_stop (by decide)]
      split
      · rfl
      · rfl
    · simp [microseconds, hc]

theorem time?_append : time? (t ++ '\n' :: x) = (time? t).map (followedBy x) := by
  unfold time?
  simp [fixed?_append, char?_append, microseconds_append, Option.bind_map, Function.comp_def,
    Option.map_bind]

theorem offset?_append : offset? (t ++ '\n' :: x) = (offset? t).map (followedBy x) := by
  cases t with
  | nil => rfl
  | cons c rest =>
    by_cases hz : c = 'Z' ∨ c = 'z'
    · rcases hz with rfl | rfl
      · rfl
      · rfl
    · rw [not_or] at hz
      rw [List.cons_append, offset?.eq_3 _ _ hz.1 hz.2, offset?.eq_3 _ _ hz.1 hz.2]
      by_cases hs : c = '+' ∨ c = '-'
      · simp [hs, fixed?_append, char?_append, Option.bind_map, Function.comp_def, Option.map_bind]
      · simp [hs]

/-! ## Numbers -/

theorem sign_append : sign (t ++ '\n' :: x) = followedBy x (sign t) := by
  cases t with
  | nil => rfl
  | cons c rest =>
    by_cases hp : c = '+'
    · subst hp
      rfl
    · by_cases hm : c = '-'
      · subst hm
        rfl
      · simp [sign, hp, hm]

theorem prefixed?_append : prefixed? (t ++ '\n' :: x) = (prefixed? t).map (followedBy x) := by
  match t with
  | [] => rfl
  | [c] =>
    by_cases hc : c = '0'
    · subst hc
      rfl
    · simp [prefixed?, hc]
  | c :: base :: rest =>
    by_cases hc : c = '0'
    · subst hc
      have hhex : digits? Text.isHexDigit (rest ++ '\n' :: x)
          = (digits? Text.isHexDigit rest).map (followedBy x) :=
        digits?_append rest x (by decide) (by decide)
      have hoctal : digits? (fun c => '0' ≤ c && c ≤ '7') (rest ++ '\n' :: x)
          = (digits? (fun c => '0' ≤ c && c ≤ '7') rest).map (followedBy x) :=
        digits?_append rest x (by decide) (by decide)
      have hbinary : digits? (fun c => c = '0' || c = '1') (rest ++ '\n' :: x)
          = (digits? (fun c => c = '0' || c = '1') rest).map (followedBy x) :=
        digits?_append rest x (by decide) (by decide)
      by_cases hx : base = 'x'
      · simp [prefixed?, hx, hhex, Option.bind_map, Function.comp_def, Option.map_bind]
      · by_cases ho : base = 'o'
        · simp [prefixed?, ho, hoctal, Option.bind_map, Function.comp_def, Option.map_bind]
        · by_cases hb : base = 'b'
          · simp [prefixed?, hb, hbinary, Option.bind_map, Function.comp_def, Option.map_bind]
          · simp [prefixed?, hx, ho, hb]
    · simp [prefixed?, hc]

theorem wholePart?_append : wholePart? (t ++ '\n' :: x) = (wholePart? t).map (followedBy x) := by
  cases t with
  | nil => rfl
  | cons c rest =>
    by_cases hc : c = '0'
    · subst hc
      rfl
    · rw [List.cons_append, wholePart?.eq_2 _ (by simpa using hc), wholePart?.eq_2 _ (by simpa using hc),
        ← List.cons_append, decimalDigits_append]

theorem fraction?_append : fraction? (t ++ '\n' :: x) = (fraction? t).map (followedBy x) := by
  cases t with
  | nil => rfl
  | cons c rest =>
    by_cases hc : c = '.'
    · subst hc
      exact decimalDigits_append rest x
    · simp [fraction?, hc]

theorem exponent?_append : exponent? (t ++ '\n' :: x) = (exponent? t).map (followedBy x) := by
  cases t with
  | nil => rfl
  | cons c rest =>
    by_cases hc : c = 'e' ∨ c = 'E'
    · simp [exponent?, hc, sign_append, decimalDigits_append, Option.bind_map, Function.comp_def,
        Option.map_bind]
    · simp [exponent?, hc, guard, failure]

theorem named?_append : named? (t ++ '\n' :: x) = (named? t).map (followedBy x) := by
  unfold named?
  simp only [sign_append, followedBy_fst, followedBy_snd]
  rw [after?_append _ _ (by decide), after?_append _ _ (by decide)]
  cases Text.after? "inf" (sign t).2 with
  | none => simp [Function.comp_def]
  | some rest => simp

theorem boolean?_append : boolean? (t ++ '\n' :: x) = (boolean? t).map (followedBy x) := by
  unfold boolean?
  rw [after?_append _ _ (by decide), after?_append _ _ (by decide)]
  cases Text.after? "true" t with
  | none => simp [Function.comp_def]
  | some rest => simp

/-! ## Scalars -/

/-- Of two attempts to read, the second with more behind the text: where the first finds nothing the second
finds nothing, and what the first reads the second reads. -/
structure Agree {α : Type} (x : Text) (o o' : Option (Result (α × Text))) : Prop where
  none : o = none → o' = none
  some : ∀ r, o = some (.ok r) → o' = some (.ok (followedBy x r))

section

variable {α β : Type} (x : Text)

theorem agree_none : Agree (α := α) x none none :=
  ⟨fun _ => rfl, fun _ h => absurd h (by simp)⟩

theorem agree_ok (a : α) (rest : Text) :
    Agree x (some (.ok (a, rest))) (some (.ok (a, rest ++ '\n' :: x))) := by
  refine ⟨fun h => absurd h (by simp), fun r h => ?_⟩
  rw [← Except.ok.inj (Option.some.inj h)]
  rfl

theorem agree_error (f f' : Failure) :
    Agree (α := α) x (some (.error f)) (some (.error f')) :=
  ⟨fun h => absurd h (by simp), fun _ h => absurd (Option.some.inj h) (by simp)⟩

theorem agree_map {o o' : Option (α × Text)} (f : α → β) (h : o' = o.map (followedBy x)) :
    Agree x (o.map fun r => (.ok (f r.1, r.2) : Result (β × Text)))
      (o'.map fun r => (.ok (f r.1, r.2) : Result (β × Text))) := by
  subst h
  cases o with
  | none => exact agree_none x
  | some r => exact agree_ok x (f r.1) r.2

end

theorem Agree.orElse {α : Type} {x : Text} {o o' p p' : Option (Result (α × Text))}
    (h : Agree x o o') (hp : Agree x p p') : Agree x (o <|> p) (o' <|> p') := by
  cases o with
  | none =>
    rw [h.none rfl]
    simpa using hp
  | some result =>
    constructor
    · intro hnone
      exact absurd hnone (by simp)
    · intro r hr
      have hresult : result = .ok r := by simpa using hr
      rw [h.some r (by rw [hresult])]
      simp

theorem Agree.getD {α : Type} {x : Text} {o o' : Option (Result (α × Text))} (h : Agree x o o')
    {cause cause' : Cause} {t t' : Text} {r : α × Text} (hr : o.getD (stop cause t) = .ok r) :
    o'.getD (stop cause' t') = .ok (followedBy x r) := by
  cases o with
  | none => exact absurd hr (by simp [stop])
  | some result =>
    have hresult : result = .ok r := by simpa using hr
    rw [h.some r (by rw [hresult])]
    rfl

theorem readDate?_agree : Agree x (readDate? t) (readDate? (t ++ '\n' :: x)) := by
  unfold readDate?
  rw [date?_append]
  rcases date? t with _ | ⟨date, rest⟩
  · exact agree_none x
  have hrest : ∀ (value : Value) (rest' : Text), Agree x
      (some (if date.exists then .ok (value, rest') else stop .badDate t))
      (some (if date.exists then .ok (value, rest' ++ '\n' :: x)
        else stop .badDate (t ++ '\n' :: x))) := by
    intro value rest'
    split_ifs
    · exact agree_ok x value rest'
    · exact agree_error x _ _
  cases rest with
  | nil => exact hrest (.date date) []
  | cons separator timeText =>
    by_cases hs : separator = 'T' ∨ separator = 't' ∨ separator = ' '
    · rcases htime : time? timeText with _ | ⟨time, after⟩
      · simpa [hs, time?_append, htime] using hrest (.date date) (separator :: timeText)
      · rcases hoffset : offset? after with _ | ⟨offset, behind⟩
        · simpa [hs, time?_append, htime, offset?_append, hoffset] using
            hrest (.dateTime ⟨date, time, none⟩) after
        · simpa [hs, time?_append, htime, offset?_append, hoffset] using
            hrest (.dateTime ⟨date, time, some offset⟩) behind
    · simpa [hs] using hrest (.date date) (separator :: timeText)

theorem decimal?_agree : Agree x (decimal? t) (decimal? (t ++ '\n' :: x)) := by
  unfold decimal?
  rw [sign_append]
  rcases sign t with ⟨negative, rest⟩
  rcases hwhole : wholePart? rest with _ | ⟨whole, rest⟩
  · simpa [wholePart?_append, hwhole] using agree_none x
  rcases hfraction : fraction? rest with _ | ⟨places, after⟩
  · rcases hexponent : exponent? rest with _ | ⟨power, behind⟩
    · simp only [followedBy_mk, wholePart?_append, hwhole, fraction?_append, hfraction,
        exponent?_append, hexponent, Option.map_some, Option.map_none, Option.bind_eq_bind,
        Option.bind_some, Option.getD_none, Option.isNone_none, Bool.and_self, if_true]
      by_cases hlen : whole.length ≤ maxIntegerDigits
      · rw [if_pos hlen, if_pos hlen]
        exact agree_ok x _ rest
      · rw [if_neg hlen, if_neg hlen]
        exact agree_error x _ _
    · simpa [wholePart?_append, hwhole, fraction?_append, hfraction, exponent?_append, hexponent]
        using agree_ok x _ behind
  · rcases hexponent : exponent? after with _ | ⟨power, behind⟩
    · simpa [wholePart?_append, hwhole, fraction?_append, hfraction, exponent?_append, hexponent]
        using agree_ok x _ after
    · simpa [wholePart?_append, hwhole, fraction?_append, hfraction, exponent?_append, hexponent]
        using agree_ok x _ behind

theorem readScalar_append {r : Value × Text} (h : readScalar t = .ok r) :
    readScalar (t ++ '\n' :: x) = .ok (followedBy x r) := by
  have hall := (agree_map x id (boolean?_append t x)).orElse <|
    (readDate?_agree t x).orElse <|
    (agree_map x Value.time (time?_append t x)).orElse <|
    (agree_map x Value.integer (prefixed?_append t x)).orElse <|
    (decimal?_agree t x).orElse <| agree_map x id (named?_append t x)
  exact hall.getD h

/-! ## Comments -/

/-- What is read in two steps. -/
theorem bind_eq_ok {ε α β : Type} {first : Except ε α} {next : α → Except ε β} {b : β} :
    (first >>= next) = .ok b ↔ ∃ a, first = .ok a ∧ next a = .ok b := by
  cases first with
  | error e => simp [bind, Except.bind]
  | ok a => simp [bind, Except.bind]

theorem map_eq_ok {ε α β : Type} {first : Except ε α} {f : α → β} {b : β} :
    first.map f = .ok b ↔ ∃ a, first = .ok a ∧ f a = b := by
  cases first with
  | error e => simp [Except.map]
  | ok a => simp [Except.map]

theorem skipComment_of_ne {c : Char} (hc : c ≠ '#') : skipComment (c :: t) = .ok (c :: t) := by
  simp [skipComment, hc]

theorem skipComment_append {rest : Text} (h : skipComment t = .ok rest) :
    skipComment (t ++ '\n' :: x) = .ok (rest ++ '\n' :: x) := by
  cases t with
  | nil =>
    obtain rfl : [] = rest := Except.ok.inj h
    rfl
  | cons c t =>
    by_cases hc : c = '#'
    · subst hc
      simp only [skipComment, List.cons_append] at h ⊢
      rw [takeWhile_append_stop (by decide)]
      cases hf : (t.takeWhile (· != '\n')).find? isIllegal with
      | none =>
        rw [hf] at h
        dsimp only at h ⊢
        rw [dropWhile_append_stop (by decide), ← Except.ok.inj h]
      | some d =>
        rw [hf] at h
        exact absurd h (by simp [stop])
    · rw [skipComment_of_ne t hc] at h
      rw [List.cons_append, skipComment_of_ne _ hc, ← Except.ok.inj h]
      rfl

theorem dropWhile_append_of_ne_nil {p : Char → Bool} {t : Text} (h : t.dropWhile p ≠ []) (q : Text) :
    (t ++ q).dropWhile p = t.dropWhile p ++ q := by
  rw [List.dropWhile_append, if_neg (by simpa using h)]

theorem dropWhile_append_cons {p : Char → Bool} {t rest : Text} {c : Char}
    (h : t.dropWhile p = c :: rest) (q : Text) : (t ++ q).dropWhile p = c :: rest ++ q := by
  rw [dropWhile_append_of_ne_nil (by simp [h]), h]

theorem skipLooseAux_of_ne {t rest : Text} {c : Char} (hc : c ≠ '#')
    (h : t.dropWhile isSpaceOrBreak = c :: rest) (n : Nat) :
    skipLooseAux n t = .ok (c :: rest) := by
  cases n with
  | zero => rw [skipLooseAux, h]
  | succ n =>
    rw [skipLooseAux, h]
    split
    · rename_i heq
      exact absurd (List.cons.inj heq).1 hc
    · rfl

theorem skipLooseAux_append {n m : Nat} (hm : n ≤ m) {c : Char} {rest : Text} (hc : c ≠ '#')
    (h : skipLooseAux n t = .ok (c :: rest)) :
    skipLooseAux m (t ++ '\n' :: x) = .ok (c :: rest ++ '\n' :: x) := by
  induction n generalizing t m with
  | zero =>
    rw [skipLooseAux] at h
    exact skipLooseAux_of_ne hc (dropWhile_append_cons (Except.ok.inj h) _) m
  | succ n ih =>
    obtain ⟨k, rfl⟩ : ∃ k, m = k + 1 := ⟨m - 1, by omega⟩
    cases hd : t.dropWhile isSpaceOrBreak with
    | nil =>
      rw [skipLooseAux, hd] at h
      exact absurd (Except.ok.inj h) (by simp)
    | cons d after =>
      by_cases hhash : d = '#'
      · subst hhash
        rw [skipLooseAux, hd] at h
        obtain ⟨behind, hcomment, hloose⟩ := bind_eq_ok.mp h
        rw [skipLooseAux, dropWhile_append_cons hd]
        exact bind_eq_ok.mpr ⟨_, skipComment_append _ x hcomment, ih behind (by omega) hloose⟩
      · rw [skipLooseAux_of_ne hhash hd] at h
        rw [← Except.ok.inj h]
        exact skipLooseAux_of_ne hhash (dropWhile_append_cons hd _) _

theorem skipLoose_append {c : Char} {rest : Text} (hc : c ≠ '#') (h : skipLoose t = .ok (c :: rest)) :
    skipLoose (t ++ '\n' :: x) = .ok (c :: rest ++ '\n' :: x) :=
  skipLooseAux_append t x (by simp) hc h

/-! ## Strings -/

theorem readHexEscape_append {width : Nat} {r : Char × Text} (h : readHexEscape width t = .ok r) :
    readHexEscape width (t ++ '\n' :: x) = .ok (followedBy x r) := by
  unfold readHexEscape at h ⊢
  by_cases hlen : width ≤ t.length
  · rw [List.take_append_of_le_length hlen, List.drop_append_of_le_length hlen]
    dsimp only at h ⊢
    split_ifs at h ⊢ with hd hv
    · rw [← Except.ok.inj h]
      rfl
    · exact absurd h (by simp [stop])
    · exact absurd h (by simp [stop])
  · have hne : ¬min width t.length = width := by omega
    exact absurd h (by simp [hne, stop])

theorem readEscape_append {multiline : Bool} {r : Option Char × Text} (hr : r.2 ≠ [])
    (h : readEscape multiline t = .ok r) :
    readEscape multiline (t ++ '\n' :: x) = .ok (followedBy x r) := by
  cases t with
  | nil => exact absurd h (by simp [readEscape, stop])
  | cons c rest =>
    rw [List.cons_append]
    rw [readEscape] at h ⊢
    -- where the string goes on in another line, all blanks in front are skipped, but not up to the end
    by_cases hfeed : (multiline && c = '\n') = true
    · rw [if_pos hfeed] at h ⊢
      rw [← Except.ok.inj h] at hr ⊢
      rw [dropWhile_append_of_ne_nil hr]
      rfl
    rw [if_neg hfeed] at h ⊢
    by_cases hspace : (multiline && isSpace c) = true
    · rw [if_pos hspace] at h ⊢
      rw [skipSpaces_append]
      cases hskip : skipSpaces rest with
      | nil =>
        rw [hskip] at h
        rw [← Except.ok.inj h] at hr
        exact absurd rfl hr
      | cons d next =>
        rw [hskip] at h
        by_cases hd : d = '\n'
        · subst hd
          rw [← Except.ok.inj h] at hr ⊢
          show Except.ok (none, (next ++ '\n' :: x).dropWhile isSpaceOrBreak) = _
          rw [dropWhile_append_of_ne_nil hr]
          rfl
        · exact absurd h (by simp [hd, stop])
    rw [if_neg hspace] at h ⊢
    by_cases hshort : c = 'u'
    · rw [if_pos hshort] at h ⊢
      obtain ⟨found, hfound, rfl⟩ := map_eq_ok.mp h
      rw [readHexEscape_append rest x hfound]
      rfl
    rw [if_neg hshort] at h ⊢
    by_cases hlong : c = 'U'
    · rw [if_pos hlong] at h ⊢
      obtain ⟨found, hfound, rfl⟩ := map_eq_ok.mp h
      rw [readHexEscape_append rest x hfound]
      rfl
    rw [if_neg hlong] at h ⊢
    -- the escapes of one letter
    split_ifs at h ⊢
    case neg => exact absurd h (by simp [stop])
    all_goals
      rw [← Except.ok.inj h]
      rfl

theorem consRead_eq_ok {c : Char} {first : Result (Text × Text)} {r : Text × Text} :
    consRead c first = .ok r ↔ ∃ s, first = .ok s ∧ (c :: s.1, s.2) = r :=
  map_eq_ok

theorem readBasicAux_ne_nil {multiline : Bool} {n : Nat} {r : Text × Text}
    (h : readBasicAux multiline n t = .ok r) : t ≠ [] := by
  rintro rfl
  cases n with
  | zero => exact absurd h (by simp [readBasicAux, stop])
  | succ n => exact absurd h (by simp [readBasicAux, stop])

/-- Two quotes do not begin with more behind a text if they did not before. -/
theorem not_quotes_append {quote : Char} (hquote : quote ≠ '\n') {t : Text}
    (h : ∀ after, t = quote :: quote :: after → False) (x : Text) :
    ∀ after, t ++ '\n' :: x = quote :: quote :: after → False := by
  intro after he
  match t with
  | [] => exact hquote (List.cons.inj he).1.symm
  | [c] => exact hquote (List.cons.inj (List.cons.inj he).2).1.symm
  | c :: d :: rest =>
    obtain ⟨rfl, htail⟩ := List.cons.inj he
    obtain ⟨rfl, -⟩ := List.cons.inj htail
    exact h rest rfl

/-- Whether what is read of a string by at most `n` steps is read by more steps with more behind the text. -/
def BasicReadsOn (x : Text) (multiline : Bool) (n : Nat) : Prop :=
  ∀ (t : Text) {m : Nat} {r : Text × Text}, n ≤ m → readBasicAux multiline n t = .ok r →
    readBasicAux multiline m (t ++ '\n' :: x) = .ok (followedBy x r)

variable {x} in
/-- A quote ends the string, or is a part of it where no two more follow. -/
theorem basic_quote {multiline : Bool} {n m : Nat} (ih : BasicReadsOn x multiline n) (hm : n ≤ m)
    {rest : Text} {r : Text × Text} (h : readBasicAux multiline (n + 1) ('"' :: rest) = .ok r) :
    readBasicAux multiline (m + 1) ('"' :: (rest ++ '\n' :: x)) = .ok (followedBy x r) := by
  cases multiline with
  | false =>
    have hr : r = ([], rest) := by simpa [readBasicAux] using h.symm
    rw [hr]
    rfl
  | true =>
    by_cases hclose : ∃ after, rest = '"' :: '"' :: after
    · obtain ⟨after, rfl⟩ := hclose
      have hr : r = ([], after) := by simpa [readBasicAux] using h.symm
      rw [hr]
      rfl
    · have hopen : ∀ after, rest = '"' :: '"' :: after → False :=
        fun after ha => hclose ⟨after, ha⟩
      rw [readBasicAux.eq_4 _ _ _ hopen, if_pos rfl] at h
      rw [readBasicAux.eq_4 _ _ _ (not_quotes_append (by decide) hopen x), if_pos rfl]
      obtain ⟨s, hs, rfl⟩ := consRead_eq_ok.mp h
      exact consRead_eq_ok.mpr ⟨_, ih rest hm hs, rfl⟩

variable {x} in
theorem basic_escape {multiline : Bool} {n m : Nat} (ih : BasicReadsOn x multiline n) (hm : n ≤ m)
    {rest : Text} {r : Text × Text} (h : readBasicAux multiline (n + 1) ('\\' :: rest) = .ok r) :
    readBasicAux multiline (m + 1) ('\\' :: (rest ++ '\n' :: x)) = .ok (followedBy x r) := by
  rw [readBasicAux] at h ⊢
  obtain ⟨⟨c?, after⟩, hescape, hnext⟩ := bind_eq_ok.mp h
  -- the string goes on behind the escape, which so does not reach to the end of the text
  have hafter : after ≠ [] := by
    cases c? with
    | none => exact readBasicAux_ne_nil _ hnext
    | some d =>
      obtain ⟨s, hs, -⟩ := consRead_eq_ok.mp hnext
      exact readBasicAux_ne_nil _ hs
  refine bind_eq_ok.mpr ⟨_, readEscape_append rest x hafter hescape, ?_⟩
  cases c? with
  | none => exact ih after hm hnext
  | some d =>
    obtain ⟨s, hs, rfl⟩ := consRead_eq_ok.mp hnext
    exact consRead_eq_ok.mpr ⟨_, ih after hm hs, rfl⟩

theorem basicReadsOn (multiline : Bool) (n : Nat) : BasicReadsOn x multiline n := by
  induction n with
  | zero => exact fun t _ _ _ h => absurd h (by simp [readBasicAux, stop])
  | succ n ih =>
    intro t m r hm h
    obtain ⟨k, rfl⟩ : ∃ k, m = k + 1 := ⟨m - 1, by omega⟩
    have hk : n ≤ k := by omega
    cases t with
    | nil => exact absurd rfl (readBasicAux_ne_nil [] h)
    | cons c rest =>
      rw [List.cons_append]
      by_cases hquote : c = '"'
      · subst hquote
        exact basic_quote ih hk h
      by_cases hback : c = '\\'
      · subst hback
        exact basic_escape ih hk h
      rw [readBasicAux.eq_6 _ _ _ _ hquote hback] at h ⊢
      by_cases hillegal : (if multiline then isIllegalMultiline c else isIllegal c) = true
      · rw [if_pos hillegal] at h
        exact absurd h (by simp [stop])
      · rw [if_neg hillegal] at h ⊢
        obtain ⟨s, hs, rfl⟩ := consRead_eq_ok.mp h
        exact consRead_eq_ok.mpr ⟨_, ih rest hk hs, rfl⟩

theorem readBasic_append {multiline : Bool} {r : Text × Text} (h : readBasic multiline t = .ok r) :
    readBasic multiline (t ++ '\n' :: x) = .ok (followedBy x r) :=
  basicReadsOn x multiline _ t (by simp) h

theorem cutAt?_append {mark before found : Text} (hmark : '\n' ∉ mark)
    (h : Text.cutAt? mark t = some (before, found)) :
    Text.cutAt? mark (t ++ '\n' :: x) = some (before, found ++ '\n' :: x) := by
  induction t generalizing before with
  | nil =>
    rw [Text.cutAt?] at h
    split_ifs at h with he
    obtain ⟨rfl, rfl⟩ := Prod.mk.inj (Option.some.inj h)
    rw [List.isEmpty_iff.mp he]
    rfl
  | cons c t ih =>
    have hpre := isPrefixOf_append (c :: t) x hmark
    rw [Text.cutAt?] at h
    rw [List.cons_append, Text.cutAt?, ← List.cons_append, hpre]
    by_cases hp : mark.isPrefixOf (c :: t) = true
    · rw [if_pos hp] at h ⊢
      obtain ⟨rfl, rfl⟩ := Prod.mk.inj (Option.some.inj h)
      rfl
    · rw [if_neg hp] at h ⊢
      obtain ⟨⟨before', found'⟩, hfound, heq⟩ := Option.map_eq_some_iff.mp h
      obtain ⟨rfl, rfl⟩ := Prod.mk.inj heq
      rw [ih hfound]
      rfl

/-- What is found begins with what was looked for. -/
theorem isPrefixOf_of_cutAt? {mark before found : Text}
    (h : Text.cutAt? mark t = some (before, found)) : mark <+: found := by
  induction t generalizing before with
  | nil =>
    rw [Text.cutAt?] at h
    split_ifs at h with he
    rw [List.isEmpty_iff.mp he]
    exact List.nil_prefix
  | cons c t ih =>
    rw [Text.cutAt?] at h
    by_cases hp : mark.isPrefixOf (c :: t) = true
    · rw [if_pos hp] at h
      obtain ⟨rfl, rfl⟩ := Prod.mk.inj (Option.some.inj h)
      exact List.isPrefixOf_iff_prefix.mp hp
    · rw [if_neg hp] at h
      obtain ⟨⟨before', found'⟩, hfound, heq⟩ := Option.map_eq_some_iff.mp h
      obtain ⟨rfl, rfl⟩ := Prod.mk.inj heq
      exact ih hfound

theorem readLiteral_append {delimiter : Text} {illegal : Char → Bool} (hd : '\n' ∉ delimiter)
    {r : Text × Text} (h : readLiteral delimiter illegal t = .ok r) :
    readLiteral delimiter illegal (t ++ '\n' :: x) = .ok (followedBy x r) := by
  unfold readLiteral at h ⊢
  rcases hcut : Text.cutAt? delimiter t with _ | ⟨content, found⟩
  · exact absurd h (by simp [hcut, stop])
  · rw [cutAt?_append t x hd hcut]
    rw [hcut] at h
    dsimp only at h ⊢
    cases hf : content.find? illegal with
    | some c => exact absurd h (by simp [hf, stop])
    | none =>
      rw [hf] at h
      rw [List.drop_append_of_le_length (isPrefixOf_of_cutAt? t hcut).length_le, ← Except.ok.inj h]
      rfl

theorem dropFirstBreak_append (h : t ≠ []) :
    dropFirstBreak (t ++ '\n' :: x) = dropFirstBreak t ++ '\n' :: x := by
  obtain ⟨c, t, rfl⟩ := List.exists_cons_of_ne_nil h
  by_cases hc : c = '\n'
  · subst hc
    rfl
  · simp [dropFirstBreak, hc]

theorem takeExtraQuotes_append {quote : Char} (hquote : quote ≠ '\n') (r : Text × Text) :
    takeExtraQuotes quote (followedBy x r) = followedBy x (takeExtraQuotes quote r) := by
  obtain ⟨content, rest⟩ := r
  match rest with
  | [] =>
    cases x with
    | nil => simp [takeExtraQuotes, hquote.symm]
    | cons d x => simp [takeExtraQuotes, hquote.symm]
  | [c] =>
    by_cases hc : c = quote
    · simp [takeExtraQuotes, hc, hquote.symm]
    · simp [takeExtraQuotes, hc]
  | c :: d :: rest =>
    by_cases hc : c = quote
    · by_cases hd : d = quote
      · simp [takeExtraQuotes, hc, hd]
      · simp [takeExtraQuotes, hc, hd]
    · simp [takeExtraQuotes, hc]

theorem readLiteral_ne_nil {delimiter : Text} {illegal : Char → Bool} (hd : delimiter ≠ [])
    {r : Text × Text} (h : readLiteral delimiter illegal t = .ok r) : t ≠ [] := by
  rintro rfl
  exact absurd h (by simp [readLiteral, Text.cutAt?, hd, stop])

/-- A string over several lines is read the same, whatever its reader behind the quotes. -/
theorem agree_multiline {quote : Char} (hquote : quote ≠ '\n') {read : Text → Result (Text × Text)}
    (hread : ∀ t r, read t = .ok r → read (t ++ '\n' :: x) = .ok (followedBy x r))
    (hne : ∀ r, read [] ≠ .ok r) (rest : Text) :
    Agree x (some ((read (dropFirstBreak rest)).map (takeExtraQuotes quote)))
      (some ((read (dropFirstBreak (rest ++ '\n' :: x))).map (takeExtraQuotes quote))) := by
  refine ⟨fun h => absurd h (by simp), fun r h => ?_⟩
  obtain ⟨s, hs, rfl⟩ := map_eq_ok.mp (Option.some.inj h)
  have hrest : rest ≠ [] := by
    rintro rfl
    exact hne s hs
  rw [dropFirstBreak_append rest x hrest, hread _ s hs]
  exact congrArg (fun r => some (Except.ok r)) (takeExtraQuotes_append x hquote s)

/-- A string on one line is read the same, whatever its reader behind the quote. -/
theorem agree_line {read : Text → Result (Text × Text)}
    (hread : ∀ t r, read t = .ok r → read (t ++ '\n' :: x) = .ok (followedBy x r)) (rest : Text) :
    Agree x (some (read rest)) (some (read (rest ++ '\n' :: x))) := by
  refine ⟨fun h => absurd h (by simp), fun r h => ?_⟩
  rw [hread rest r (Option.some.inj h)]

theorem readString?_agree : Agree x (readString? t) (readString? (t ++ '\n' :: x)) := by
  cases t with
  | nil => exact agree_none x
  | cons c rest =>
    by_cases hdouble : c = '"'
    · subst hdouble
      by_cases hthree : ∃ after, rest = '"' :: '"' :: after
      · obtain ⟨after, rfl⟩ := hthree
        exact agree_multiline x (by decide) (fun t r => readBasic_append t x)
          (fun r h => readBasicAux_ne_nil [] h rfl) after
      · have hone : ∀ after, rest = '"' :: '"' :: after → False := fun after h => hthree ⟨after, h⟩
        rw [List.cons_append, readString?.eq_2 _ hone,
          readString?.eq_2 _ (not_quotes_append (by decide) hone x)]
        exact agree_line x (fun t r => readBasic_append t x) rest
    by_cases hsingle : c = '\''
    · subst hsingle
      by_cases hthree : ∃ after, rest = '\'' :: '\'' :: after
      · obtain ⟨after, rfl⟩ := hthree
        exact agree_multiline x (by decide) (fun t r => readLiteral_append t x (by decide))
          (fun r h => readLiteral_ne_nil [] (by decide) h rfl) after
      · have hone : ∀ after, rest = '\'' :: '\'' :: after → False :=
          fun after h => hthree ⟨after, h⟩
        rw [List.cons_append, readString?.eq_4 _ hone,
          readString?.eq_4 _ (not_quotes_append (by decide) hone x)]
        exact agree_line x (fun t r => readLiteral_append t x (by decide)) rest
    simp only [List.cons_append, readString?]
    simpa [readString?, hdouble, hsingle] using agree_none x

/-! ## Keys -/

theorem readKeyPart_append {r : Text × Text} (h : readKeyPart t = .ok r) :
    readKeyPart (t ++ '\n' :: x) = .ok (followedBy x r) := by
  cases t with
  | nil => exact absurd h (by simp [readKeyPart, stop])
  | cons c rest =>
    by_cases hdouble : c = '"'
    · subst hdouble
      exact readBasic_append rest x h
    by_cases hsingle : c = '\''
    · subst hsingle
      exact readLiteral_append rest x (by decide) h
    rw [List.cons_append]
    rw [readKeyPart.eq_3 _ (by simp [hdouble]) (by simp [hsingle])] at h ⊢
    rw [← List.cons_append, takeWhile_append_stop (by decide), dropWhile_append_stop (by decide)]
    cases hpart : (c :: rest).takeWhile isBareKeyChar with
    | nil => exact absurd h (by simp [hpart, stop])
    | cons d part =>
      rw [hpart] at h
      rw [← Except.ok.inj h]
      rfl

theorem readKeyAux_append {n m : Nat} (hm : n ≤ m) {r : Key × Text} (h : readKeyAux n t = .ok r) :
    readKeyAux m (t ++ '\n' :: x) = .ok (followedBy x r) := by
  induction n generalizing t m r with
  | zero => exact absurd h (by simp [readKeyAux, stop])
  | succ n ih =>
    obtain ⟨k, rfl⟩ : ∃ k, m = k + 1 := ⟨m - 1, by omega⟩
    rw [readKeyAux] at h ⊢
    obtain ⟨⟨part, rest⟩, hpart, hrest⟩ := bind_eq_ok.mp h
    refine bind_eq_ok.mpr ⟨_, readKeyPart_append t x hpart, ?_⟩
    rw [followedBy_mk]
    dsimp only at hrest ⊢
    rw [skipSpaces_append]
    cases hskip : skipSpaces rest with
    | nil =>
      rw [hskip] at hrest
      rw [← Except.ok.inj hrest]
      rfl
    | cons c after =>
      rw [hskip] at hrest
      by_cases hdot : c = '.'
      · subst hdot
        obtain ⟨⟨parts, behind⟩, hparts, hr⟩ := bind_eq_ok.mp hrest
        have hkey := ih (skipSpaces after) (m := k) (by omega) hparts
        rw [← skipSpaces_append] at hkey
        rw [← Except.ok.inj hr]
        exact bind_eq_ok.mpr ⟨_, hkey, rfl⟩
      · obtain rfl : ([part], c :: after) = r := by simpa [hdot] using hrest
        simp [hdot]

theorem readKey_append {r : Key × Text} (h : readKey t = .ok r) :
    readKey (t ++ '\n' :: x) = .ok (followedBy x r) :=
  readKeyAux_append t x (by simp) h

theorem readKeyEquals_append {r : Key × Text} (h : readKeyEquals t = .ok r) :
    readKeyEquals (t ++ '\n' :: x) = .ok (followedBy x r) := by
  unfold readKeyEquals at h ⊢
  obtain ⟨⟨key, rest⟩, hkey, hrest⟩ := bind_eq_ok.mp h
  refine bind_eq_ok.mpr ⟨_, readKey_append t x hkey, ?_⟩
  cases rest with
  | nil => exact absurd hrest (by simp [stop])
  | cons c rest =>
    by_cases hc : c = '='
    · subst hc
      rw [← Except.ok.inj hrest]
      exact congrArg (fun rest => Except.ok (key, rest)) (skipSpaces_append rest x)
    · exact absurd hrest (by simp [hc, stop])

/-! ## Values -/

theorem failAt_eq_ok {α : Type} {rest : Text} {e : Except Cause α} {a : α} :
    failAt rest e = .ok a ↔ e = .ok a := by
  cases e <;> simp [failAt, stop]

/-- A value begins with no comment. -/
theorem readScalar_hash (rest : Text) (r : Value × Text) : readScalar ('#' :: rest) ≠ .ok r := by
  have hfixed : ∀ low high, fixed? 4 low high ('#' :: rest) = none ∧
      fixed? 2 low high ('#' :: rest) = none := by
    intro low high
    simp [fixed?]
  simp [readScalar, boolean?, Text.after?, List.isPrefixOf?, readDate?, date?, time?, hfixed,
    prefixed?, decimal?, sign, wholePart?, digits?, named?, stop]

theorem readScalar_nil (r : Value × Text) : readScalar [] ≠ .ok r := by
  rw [show readScalar [] = stop .badValue [] from rfl]
  simp [stop]

theorem readValueAux_head {n depth : Nat} {r : Value × Text} (h : readValueAux n depth t = .ok r) :
    ∃ c rest, t = c :: rest ∧ c ≠ '#' := by
  cases n with
  | zero => exact absurd h (by simp [readValueAux, stop])
  | succ n =>
    cases t with
    | nil => exact absurd h (by simpa [readValueAux, readString?] using readScalar_nil r)
    | cons c rest =>
      refine ⟨c, rest, rfl, ?_⟩
      rintro rfl
      have hscalar : readScalar ('#' :: rest) = .ok r := by simpa [readValueAux, readString?] using h
      exact readScalar_hash rest r hscalar

theorem readEntriesAux_nil (n depth : Nat) (entries : Table) (closed : List Key)
    (r : Table × Text) : readEntriesAux n depth entries closed [] ≠ .ok r := by
  cases n with
  | zero => simp [readEntriesAux, stop]
  | succ n => simp [readEntriesAux, readKeyEquals, readKey, readKeyAux, readKeyPart, stop, bind,
      Except.bind]

/-- What is read by at most `n` steps is read by more steps with more behind the text. -/
structure ReadsOn (n : Nat) : Prop where
  value : ∀ {t depth r}, readValueAux n depth t = .ok r →
    ∀ {m}, n ≤ m → ∀ x, readValueAux m depth (t ++ '\n' :: x) = .ok (followedBy x r)
  items : ∀ {t depth r}, readItemsAux n depth t = .ok r →
    ∀ {m}, n ≤ m → ∀ x, readItemsAux m depth (t ++ '\n' :: x) = .ok (followedBy x r)
  entries : ∀ {t depth entries closed r}, readEntriesAux n depth entries closed t = .ok r →
    ∀ {m}, n ≤ m → ∀ x,
      readEntriesAux m depth entries closed (t ++ '\n' :: x) = .ok (followedBy x r)

theorem array_succ {n : Nat} (ih : ReadsOn n) {rest : Text} {depth : Nat} {r : Value × Text}
    (h : readValueAux (n + 1) depth ('[' :: rest) = .ok r) {m : Nat} (hm : n ≤ m) (x : Text) :
    readValueAux (m + 1) depth ('[' :: (rest ++ '\n' :: x)) = .ok (followedBy x r) := by
  rw [readValueAux] at h ⊢
  by_cases hdepth : deepest < depth + 3
  · rw [if_pos hdepth] at h
    exact absurd h (by simp)
  rw [if_neg hdepth] at h ⊢
  obtain ⟨⟨items, after⟩, hitems, hr⟩ := bind_eq_ok.mp h
  rw [← Except.ok.inj hr]
  exact bind_eq_ok.mpr ⟨_, ih.items hitems hm x, rfl⟩

theorem inlineTable_succ {n : Nat} (ih : ReadsOn n) {rest : Text} {depth : Nat} {r : Value × Text}
    (h : readValueAux (n + 1) depth ('\x7b' :: rest) = .ok r) {m : Nat} (hm : n ≤ m) (x : Text) :
    readValueAux (m + 1) depth ('\x7b' :: (rest ++ '\n' :: x)) = .ok (followedBy x r) := by
  rw [readValueAux] at h ⊢
  by_cases hdepth : deepest < depth + 5
  · rw [if_pos hdepth] at h
    exact absurd h (by simp)
  rw [if_neg hdepth] at h ⊢
  rw [skipSpaces_append]
  cases hskip : skipSpaces rest with
  | nil =>
    rw [hskip] at h
    obtain ⟨r', hentries, -⟩ := bind_eq_ok.mp h
    exact absurd hentries (readEntriesAux_nil _ _ _ _ r')
  | cons d after =>
    rw [hskip] at h
    rw [List.cons_append]
    -- the table has no entry, or the first begins
    split at h
    · rename_i after' heq
      obtain ⟨rfl, rfl⟩ := List.cons.inj heq
      rw [← Except.ok.inj h]
      rfl
    · rename_i hne
      obtain ⟨⟨entries, behind⟩, hentries, hr⟩ := bind_eq_ok.mp h
      rw [← Except.ok.inj hr]
      split
      · rename_i heq
        exact absurd (congrArg (· :: after) (List.cons.inj heq).1) (hne after)
      · exact bind_eq_ok.mpr ⟨_, ih.entries hentries hm x, rfl⟩

theorem value_succ {n : Nat} (ih : ReadsOn n) {t : Text} {depth : Nat} {r : Value × Text}
    (h : readValueAux (n + 1) depth t = .ok r) {m : Nat} (hm : n ≤ m) (x : Text) :
    readValueAux (m + 1) depth (t ++ '\n' :: x) = .ok (followedBy x r) := by
  obtain ⟨c, rest, rfl, hc⟩ := readValueAux_head t h
  by_cases harray : c = '['
  · subst harray
    exact array_succ ih h hm x
  by_cases htable : c = '\x7b'
  · subst htable
    exact inlineTable_succ ih h hm x
  rw [List.cons_append]
  rw [readValueAux.eq_4 _ _ _ (by simp [harray]) (by simp [htable])] at h ⊢
  rw [← List.cons_append]
  -- a string may go over several lines, the other values end in theirs
  have hagree := readString?_agree (c :: rest) x
  cases hstring : readString? (c :: rest) with
  | none =>
    rw [hstring] at h
    rw [hagree.none hstring]
    exact readScalar_append _ x h
  | some result =>
    rw [hstring] at h
    obtain ⟨s, hs, rfl⟩ := map_eq_ok.mp h
    rw [hagree.some s (by rw [hstring, hs])]
    rfl

theorem items_succ {n : Nat} (ih : ReadsOn n) {t : Text} {depth : Nat} {r : List Value × Text}
    (h : readItemsAux (n + 1) depth t = .ok r) {m : Nat} (hm : n ≤ m) (x : Text) :
    readItemsAux (m + 1) depth (t ++ '\n' :: x) = .ok (followedBy x r) := by
  rw [readItemsAux] at h ⊢
  obtain ⟨start, hstart, hfirst⟩ := bind_eq_ok.mp h
  clear h
  -- the array ends here, or an item begins
  split at hfirst
  · rw [← Except.ok.inj hfirst]
    exact bind_eq_ok.mpr ⟨_, skipLoose_append t x (by decide) hstart, rfl⟩
  rename_i hne
  obtain ⟨⟨item, rest⟩, hitem, hsecond⟩ := bind_eq_ok.mp hfirst
  clear hfirst
  obtain ⟨c, begun, rfl, hc⟩ := readValueAux_head _ hitem
  refine bind_eq_ok.mpr ⟨_, skipLoose_append t x hc hstart, ?_⟩
  split
  · rename_i heq
    exact absurd (congrArg (· :: begun) (List.cons.inj heq).1) (hne begun)
  refine bind_eq_ok.mpr ⟨_, ih.value hitem hm x, ?_⟩
  obtain ⟨behind, hbehind, hthird⟩ := bind_eq_ok.mp hsecond
  -- behind an item the array ends, or a comma stands
  split at hthird
  · rw [← Except.ok.inj hthird]
    exact bind_eq_ok.mpr ⟨_, skipLoose_append rest x (by decide) hbehind, rfl⟩
  · obtain ⟨⟨items, last⟩, hitems, hr⟩ := bind_eq_ok.mp hthird
    rw [← Except.ok.inj hr]
    refine bind_eq_ok.mpr ⟨_, skipLoose_append rest x (by decide) hbehind, ?_⟩
    exact bind_eq_ok.mpr ⟨_, ih.items hitems hm x, rfl⟩
  · exact absurd hthird (by simp [stop])

theorem entries_succ {n : Nat} (ih : ReadsOn n) {t : Text} {depth : Nat} {entries : Table}
    {closed : List Key} {r : Table × Text}
    (h : readEntriesAux (n + 1) depth entries closed t = .ok r) {m : Nat} (hm : n ≤ m) (x : Text) :
    readEntriesAux (m + 1) depth entries closed (t ++ '\n' :: x) = .ok (followedBy x r) := by
  rw [readEntriesAux] at h ⊢
  obtain ⟨⟨key, rest⟩, hkey, h⟩ := bind_eq_ok.mp h
  refine bind_eq_ok.mpr ⟨_, readKeyEquals_append t x hkey, ?_⟩
  obtain ⟨⟨value, after⟩, hvalue, h⟩ := bind_eq_ok.mp h
  refine bind_eq_ok.mpr ⟨_, ih.value hvalue hm x, ?_⟩
  obtain ⟨entries', hassign, h⟩ := bind_eq_ok.mp h
  refine bind_eq_ok.mpr ⟨entries', failAt_eq_ok.mpr (failAt_eq_ok.mp hassign), ?_⟩
  rw [followedBy_mk]
  dsimp only at h ⊢
  rw [skipSpaces_append]
  split at h
  · rename_i behind hskip
    rw [← Except.ok.inj h, hskip]
    rfl
  · rename_i behind hskip
    have hmore := ih.entries h hm x
    rw [← skipSpaces_append] at hmore
    rw [hskip]
    exact hmore
  · exact absurd h (by simp [stop])

theorem readsOn (n : Nat) : ReadsOn n := by
  induction n with
  | zero =>
    constructor
    · intro t depth r h
      exact absurd h (by simp [readValueAux, stop])
    · intro t depth r h
      exact absurd h (by simp [readItemsAux, stop])
    · intro t depth entries closed r h
      exact absurd h (by simp [readEntriesAux, stop])
  | succ n ih =>
    constructor
    · intro t depth r h m hm x
      obtain ⟨k, rfl⟩ : ∃ k, m = k + 1 := ⟨m - 1, by omega⟩
      exact value_succ ih h (by omega) x
    · intro t depth r h m hm x
      obtain ⟨k, rfl⟩ : ∃ k, m = k + 1 := ⟨m - 1, by omega⟩
      exact items_succ ih h (by omega) x
    · intro t depth entries closed r h m hm x
      obtain ⟨k, rfl⟩ : ∃ k, m = k + 1 := ⟨m - 1, by omega⟩
      exact entries_succ ih h (by omega) x

/-- **A value is read the same with more lines behind it.** -/
theorem readValue_append {r : Value × Text} (h : readValue t = .ok r) :
    readValue (t ++ '\n' :: x) = .ok (followedBy x r) :=
  (readsOn _).value h (by rw [List.length_append]; omega) x

end CrateSync.Toml
