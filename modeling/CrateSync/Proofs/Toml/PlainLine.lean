/-
# Plain lines

Lines of a document that are written without quoted keys, escapes and values over several lines: blank lines,
comments, table headers and entries with truth values and simple strings.  What such a line says is read off
its form.

* `PlainLine` : the forms of a line, with the statements that it says;
* `PlainLine.statements` : a plain line says what its form tells;
* `PlainLine.legal` : its characters may all stand on a line;
* `DottedKey.split` : the first part of a key and what follows it.
-/
import CrateSync.Proofs.Toml.Statements

namespace CrateSync.Toml

/-! ## Forms -/

/-- Whether a text consists of spaces and tabs. -/
def Spaces (w : Text) : Prop :=
  ∀ c ∈ w, isSpace c = true

theorem Spaces.of_all {w : Text} (h : w.all isSpace = true) : Spaces w :=
  List.all_eq_true.mp h

theorem spaces_nil : Spaces [] :=
  .of_all rfl

/-- A part of a key without quotes. -/
structure BarePart (part : Text) : Prop where
  ne_nil : part ≠ []
  bare : ∀ c ∈ part, isBareKeyChar c = true

theorem BarePart.of_all {part : Text} (hne : part ≠ []) (h : part.all isBareKeyChar = true) :
    BarePart part :=
  ⟨hne, List.all_eq_true.mp h⟩

/-- A dotted key of parts without quotes, with spaces around its points. -/
inductive DottedKey : Text → Key → Prop
  | one (part : Text) (h : BarePart part) : DottedKey part [part]
  | more (part w₁ w₂ rest : Text) (key : Key) (h : BarePart part) (h₁ : Spaces w₁) (h₂ : Spaces w₂)
      (hr : DottedKey rest key) : DottedKey (part ++ (w₁ ++ '.' :: (w₂ ++ rest))) (part :: key)

/-- A truth value, or a string on one line without quotes, backslashes and control characters. -/
inductive PlainValue : Text → Value → Prop
  | on : PlainValue "true" (.boolean true)
  | off : PlainValue "false" (.boolean false)
  | string (content : Text)
      (h : ∀ c ∈ content, c ≠ '"' ∧ c ≠ '\\' ∧ isControl c = false) :
      PlainValue ('"' :: (content ++ ['"'])) (.string content)

/-- Whether a text has no characters that may not stand on a line. -/
def Legal (t : Text) : Prop :=
  ∀ c ∈ t, isIllegal c = false

/-- The end of a line: spaces, and a comment or none. -/
inductive LineEnd : Text → Prop
  | blank (w : Text) (h : Spaces w) : LineEnd w
  | comment (w text : Text) (h : Spaces w) (ht : Legal text) : LineEnd (w ++ '#' :: text)

/-- A plain line, without its line break, and the statements that it says. -/
inductive PlainLine : Text → List Statement → Prop
  | nothing (t : Text) (h : LineEnd t) : PlainLine t []
  | header (w₁ w₂ w₃ name behind : Text) (key : Key) (h₁ : Spaces w₁) (h₂ : Spaces w₂) (h₃ : Spaces w₃)
      (hk : DottedKey name key) (he : LineEnd behind) :
      PlainLine (w₁ ++ '[' :: (w₂ ++ (name ++ (w₃ ++ ']' :: behind)))) [.table key]
  | entry (w₁ w₂ w₃ name written behind : Text) (key : Key) (value : Value) (h₁ : Spaces w₁)
      (h₂ : Spaces w₂) (h₃ : Spaces w₃) (hk : DottedKey name key) (hv : PlainValue written value)
      (he : LineEnd behind) :
      PlainLine (w₁ ++ (name ++ (w₂ ++ '=' :: (w₃ ++ (written ++ behind))))) [.entry key value]

/-! ## Characters -/

theorem toNat_of_bare {c : Char} (h : isBareKeyChar c = true) : 0x2D ≤ c.toNat ∧ c.toNat ≤ 0x7A := by
  simp only [isBareKeyChar, Char.isAlphanum, Char.isAlpha, Char.isUpper, Char.isLower, Char.isDigit,
    Bool.or_eq_true, Bool.and_eq_true, decide_eq_true_eq, ge_iff_le, UInt32.le_iff_toNat_le] at h
  rcases h with ((((⟨h₁, h₂⟩ | ⟨h₁, h₂⟩) | ⟨h₁, h₂⟩) | rfl) | rfl)
  · exact ⟨le_trans (by decide) h₁, le_trans h₂ (by decide)⟩
  · exact ⟨le_trans (by decide) h₁, le_trans h₂ (by decide)⟩
  · exact ⟨le_trans (by decide) h₁, le_trans h₂ (by decide)⟩
  · decide
  · decide

theorem Legal.of_any {t : Text} (h : t.any isIllegal = false) : Legal t := by
  intro c hc
  rw [← Bool.not_eq_true]
  exact List.any_eq_false.mp h c hc

theorem Legal.append {t u : Text} (ht : Legal t) (hu : Legal u) : Legal (t ++ u) := by
  intro c hc
  rcases List.mem_append.mp hc with hc | hc
  · exact ht c hc
  · exact hu c hc

theorem Legal.cons {c : Char} (hc : isIllegal c = false) {t : Text} (ht : Legal t) : Legal (c :: t) := by
  intro d hd
  rcases List.mem_cons.mp hd with rfl | hd
  · exact hc
  · exact ht d hd

theorem Spaces.legal {w : Text} (h : Spaces w) : Legal w := by
  intro c hc
  have hspace : c = ' ' ∨ c = '\t' := by simpa [isSpace] using h c hc
  rcases hspace with rfl | rfl <;> decide

theorem BarePart.legal {part : Text} (h : BarePart part) : Legal part := by
  intro c hc
  obtain ⟨hlow, hhigh⟩ := toNat_of_bare (h.bare c hc)
  have hcontrol : isControl c = false := by
    simp only [isControl, Bool.or_eq_false_iff, decide_eq_false_iff_not]
    omega
  rw [isIllegal, hcontrol, Bool.false_and]

theorem DottedKey.legal {name : Text} {key : Key} (h : DottedKey name key) : Legal name := by
  induction h with
  | one part hp => exact hp.legal
  | more part w₁ w₂ rest key hp h₁ h₂ hr ih =>
    exact hp.legal.append (h₁.legal.append (.cons (by decide) (h₂.legal.append ih)))

theorem PlainValue.legal {written : Text} {value : Value} (h : PlainValue written value) :
    Legal written := by
  cases h with
  | on => exact .of_any (by decide)
  | off => exact .of_any (by decide)
  | string content h =>
    refine .cons (by decide) (Legal.append ?_ (.cons (by decide) (by simp [Legal])))
    intro c hc
    rw [isIllegal, (h c hc).2.2, Bool.false_and]

theorem LineEnd.legal {behind : Text} (h : LineEnd behind) : Legal behind := by
  cases h with
  | blank _ h => exact h.legal
  | comment w text h ht => exact h.legal.append (.cons (by decide) ht)

theorem PlainLine.legal {t : Text} {ss : List Statement} (h : PlainLine t ss) : Legal t := by
  cases h with
  | nothing _ he => exact he.legal
  | header w₁ w₂ w₃ name behind key h₁ h₂ h₃ hk he =>
    refine h₁.legal.append (.cons (by decide) (h₂.legal.append (hk.legal.append ?_)))
    exact h₃.legal.append (.cons (by decide) he.legal)
  | entry w₁ w₂ w₃ name written behind key value h₁ h₂ h₃ hk hv he =>
    refine h₁.legal.append (hk.legal.append (h₂.legal.append (.cons (by decide) ?_)))
    exact h₃.legal.append (hv.legal.append he.legal)

theorem Legal.not_mem {t : Text} (h : Legal t) {c : Char} (hc : isIllegal c = true) : c ∉ t := by
  intro hmem
  rw [h c hmem] at hc
  exact absurd hc (by simp)

/-! ## Spaces and keys -/

theorem skipSpaces_spaces {w : Text} (h : Spaces w) (rest : Text) :
    skipSpaces (w ++ rest) = skipSpaces rest :=
  List.dropWhile_append_of_pos h

theorem skipSpaces_cons {c : Char} (h : isSpace c = false) (rest : Text) :
    skipSpaces (c :: rest) = c :: rest := by
  rw [skipSpaces, List.dropWhile_cons_of_neg (by simp [h])]

theorem isSpace_of_bare {c : Char} (h : isBareKeyChar c = true) : isSpace c = false := by
  by_contra hspace
  rw [Bool.not_eq_false] at hspace
  have hc : c = ' ' ∨ c = '\t' := by simpa [isSpace] using hspace
  rcases hc with rfl | rfl
  · exact absurd h (by decide)
  · exact absurd h (by decide)

theorem BarePart.exists_cons {part : Text} (h : BarePart part) :
    ∃ c rest, part = c :: rest ∧ isBareKeyChar c = true := by
  obtain ⟨c, rest, rfl⟩ := List.exists_cons_of_ne_nil h.ne_nil
  exact ⟨c, rest, rfl, h.bare c (by simp)⟩

theorem BarePart.skipSpaces {part : Text} (h : BarePart part) (rest : Text) :
    Toml.skipSpaces (part ++ rest) = part ++ rest := by
  obtain ⟨c, tail, rfl, hc⟩ := h.exists_cons
  exact skipSpaces_cons (isSpace_of_bare hc) _

/-- A key begins with its first part, behind which a point stands or what stands behind the key. -/
theorem DottedKey.split {name : Text} {key : Key} (h : DottedKey name key) {w : Text} (hw : Spaces w)
    (c : Char) (r : Text) :
    ∃ part more w' c' r', BarePart part ∧ key = part :: more ∧ Spaces w'
      ∧ name ++ (w ++ c :: r) = part ++ (w' ++ c' :: r')
      ∧ (more = [] ∧ c' = c ∧ r' = r ∨ more ≠ [] ∧ c' = '.') := by
  cases h with
  | one part hp => exact ⟨name, [], w, c, r, hp, rfl, hw, rfl, Or.inl ⟨rfl, rfl, rfl⟩⟩
  | more part w₁ w₂ rest key hp h₁ h₂ hr =>
    refine ⟨part, key, w₁, '.', w₂ ++ rest ++ (w ++ c :: r), hp, rfl, h₁, by simp, Or.inr ⟨?_, rfl⟩⟩
    cases hr with
    | one => simp
    | more => simp

theorem DottedKey.skipSpaces {name : Text} {key : Key} (h : DottedKey name key) {w : Text}
    (hw : Spaces w) (c : Char) (r : Text) :
    Toml.skipSpaces (name ++ (w ++ c :: r)) = name ++ (w ++ c :: r) := by
  obtain ⟨part, more, w', c', r', hp, -, -, heq, -⟩ := h.split hw c r
  rw [heq, hp.skipSpaces]

theorem takeWhile_bare {w : Text} (hw : Spaces w) {c : Char} (hc : isBareKeyChar c = false) (r : Text) :
    (w ++ c :: r).takeWhile isBareKeyChar = [] ∧ (w ++ c :: r).dropWhile isBareKeyChar = w ++ c :: r := by
  cases w with
  | nil => simp [hc]
  | cons d w =>
    have hd : isBareKeyChar d = false := by
      by_contra hbare
      rw [Bool.not_eq_false] at hbare
      exact absurd (hw d (by simp)) (by simp [isSpace_of_bare hbare])
    simp [hd]

theorem readKeyPart_bare {part : Text} (h : BarePart part) {w : Text} (hw : Spaces w) {c : Char}
    (hc : isBareKeyChar c = false) (r : Text) :
    readKeyPart (part ++ (w ++ c :: r)) = .ok (part, w ++ c :: r) := by
  obtain ⟨d, tail, rfl, hd⟩ := h.exists_cons
  have hdouble : d ≠ '"' := by
    rintro rfl
    exact absurd hd (by decide)
  have hsingle : d ≠ '\'' := by
    rintro rfl
    exact absurd hd (by decide)
  obtain ⟨htake, hdrop⟩ := takeWhile_bare hw hc r
  rw [readKeyPart.eq_3 _ (by simp [hdouble]) (by simp [hsingle]), List.takeWhile_append_of_pos h.bare,
    List.dropWhile_append_of_pos h.bare, htake, hdrop, List.append_nil]

theorem readKeyAux_dotted {name : Text} {key : Key} (h : DottedKey name key) {n : Nat}
    (hn : key.length ≤ n) {w : Text} (hw : Spaces w) {c : Char} (hc : isBareKeyChar c = false)
    (hspace : isSpace c = false) (hdot : c ≠ '.') (r : Text) :
    readKeyAux n (name ++ (w ++ c :: r)) = .ok (key, c :: r) := by
  induction h generalizing n with
  | one part hp =>
    obtain ⟨m, rfl⟩ : ∃ m, n = m + 1 := ⟨n - 1, by simp at hn; omega⟩
    rw [readKeyAux]
    refine bind_eq_ok.mpr ⟨_, readKeyPart_bare hp hw hc r, ?_⟩
    dsimp only
    rw [skipSpaces_spaces hw, skipSpaces_cons hspace]
    split
    · rename_i heq
      exact absurd (List.cons.inj heq).1 hdot
    · rfl
  | more part w₁ w₂ rest key hp h₁ h₂ hr ih =>
    obtain ⟨m, rfl⟩ : ∃ m, n = m + 1 := ⟨n - 1, by simp at hn; omega⟩
    have hm : key.length ≤ m := by
      rw [List.length_cons] at hn
      omega
    rw [readKeyAux]
    simp only [List.append_assoc, List.cons_append]
    refine bind_eq_ok.mpr ⟨_, readKeyPart_bare hp h₁ (by decide) _, ?_⟩
    dsimp only
    rw [skipSpaces_spaces h₁, skipSpaces_cons (by decide)]
    refine bind_eq_ok.mpr ⟨(key, c :: r), ?_, rfl⟩
    show readKeyAux m (skipSpaces (w₂ ++ (rest ++ (w ++ c :: r)))) = .ok (key, c :: r)
    rw [skipSpaces_spaces h₂, hr.skipSpaces hw, ih hm]

theorem DottedKey.length_le {name : Text} {key : Key} (h : DottedKey name key) :
    key.length ≤ name.length := by
  induction h with
  | one part hp =>
    have hpos : 0 < part.length := List.length_pos_iff.mpr hp.ne_nil
    rw [List.length_singleton]
    omega
  | more part w₁ w₂ rest key hp h₁ h₂ hr ih =>
    simp only [List.length_cons, List.length_append]
    omega

theorem readKey_dotted {name : Text} {key : Key} (h : DottedKey name key) {w : Text} (hw : Spaces w)
    {c : Char} (hc : isBareKeyChar c = false) (hspace : isSpace c = false) (hdot : c ≠ '.') (r : Text) :
    readKey (name ++ (w ++ c :: r)) = .ok (key, c :: r) := by
  refine readKeyAux_dotted h ?_ hw hc hspace hdot r
  have hlen := h.length_le
  rw [List.length_append]
  omega

theorem isSpace_of_value {written : Text} {value : Value} (h : PlainValue written value) :
    ∃ c rest, written = c :: rest ∧ isSpace c = false := by
  cases h with
  | on => exact ⟨_, _, rfl, by decide⟩
  | off => exact ⟨_, _, rfl, by decide⟩
  | string content h => exact ⟨'"', _, rfl, by decide⟩

theorem readKeyEquals_plain {name written : Text} {key : Key} {value : Value} (hk : DottedKey name key)
    (hv : PlainValue written value) {w₂ w₃ : Text} (h₂ : Spaces w₂) (h₃ : Spaces w₃) (behind : Text) :
    readKeyEquals (name ++ (w₂ ++ '=' :: (w₃ ++ (written ++ behind)))) = .ok (key, written ++ behind) := by
  unfold readKeyEquals
  refine bind_eq_ok.mpr ⟨_, readKey_dotted hk h₂ (by decide) (by decide) (by decide) _, ?_⟩
  obtain ⟨c, rest, rfl, hc⟩ := isSpace_of_value hv
  show Except.ok (key, skipSpaces (w₃ ++ (c :: rest ++ behind))) = _
  rw [skipSpaces_spaces h₃, List.cons_append, skipSpaces_cons hc]

/-! ## Values -/

theorem readBasicAux_plain {content : Text}
    (h : ∀ c ∈ content, c ≠ '"' ∧ c ≠ '\\' ∧ isControl c = false) {n : Nat} (hn : content.length < n)
    (behind : Text) :
    readBasicAux false n (content ++ '"' :: behind) = .ok (content, behind) := by
  induction content generalizing n with
  | nil =>
    obtain ⟨m, rfl⟩ : ∃ m, n = m + 1 := ⟨n - 1, by simp at hn; omega⟩
    rfl
  | cons c content ih =>
    obtain ⟨m, rfl⟩ : ∃ m, n = m + 1 := ⟨n - 1, by simp at hn; omega⟩
    have hm : content.length < m := by
      rw [List.length_cons] at hn
      omega
    obtain ⟨hquote, hback, hcontrol⟩ := h c (by simp)
    rw [List.cons_append, readBasicAux.eq_6 _ _ _ _ hquote hback]
    rw [if_neg (by simp [isIllegal, hcontrol]), ih (fun c hc => h c (by simp [hc])) hm]
    rfl

/-- What stands at the end of a line begins with a space or a comment, if there is anything. -/
theorem LineEnd.head {behind : Text} (h : LineEnd behind) :
    behind = [] ∨ ∃ c rest, behind = c :: rest ∧ (isSpace c = true ∨ c = '#') := by
  cases h with
  | blank _ h =>
    cases behind with
    | nil => exact Or.inl rfl
    | cons c rest => exact Or.inr ⟨c, rest, rfl, Or.inl (h c (by simp))⟩
  | comment w text h ht =>
    cases w with
    | nil => exact Or.inr ⟨'#', text, rfl, Or.inr rfl⟩
    | cons c w => exact Or.inr ⟨c, w ++ '#' :: text, rfl, Or.inl (h c (by simp))⟩

theorem readValue_plain {written : Text} {value : Value} (hv : PlainValue written value) {behind : Text}
    (he : LineEnd behind) : readValue (written ++ behind) = .ok (value, behind) := by
  cases hv with
  | on => rfl
  | off => rfl
  | string content h =>
    -- the string is not one over several lines, as no third quote follows
    have hone : ∀ after, content ++ '"' :: behind = '"' :: '"' :: after → False := by
      intro after heq
      cases content with
      | nil =>
        have htail : behind = '"' :: after := (List.cons.inj heq).2
        rcases he.head with rfl | ⟨c, rest, rfl, hspace | rfl⟩
        · exact absurd htail (by simp)
        · obtain ⟨rfl, -⟩ := List.cons.inj htail
          exact absurd hspace (by decide)
        · exact absurd (List.cons.inj htail).1 (by decide)
      | cons c content => exact (h c (by simp)).1 (List.cons.inj heq).1
    have hbasic : readBasic false (content ++ '"' :: behind) = .ok (content, behind) :=
      readBasicAux_plain h (by rw [List.length_append]; omega) behind
    have hstring : readString? ('"' :: (content ++ '"' :: behind)) = some (.ok (content, behind)) := by
      rw [readString?.eq_2 _ hone, hbasic]
    rw [List.cons_append, List.append_assoc, List.singleton_append]
    unfold readValue
    rw [readValueAux.eq_4 _ _ _ (by simp) (by simp), hstring]
    rfl

/-! ## Lines -/

theorem skipComment_lineEnd {behind : Text} (h : LineEnd behind) :
    skipComment (skipSpaces behind) = .ok [] := by
  cases h with
  | blank _ h =>
    have hnil : skipSpaces behind = [] := by
      have hskip := skipSpaces_spaces h []
      rwa [List.append_nil] at hskip
    rw [hnil]
    rfl
  | comment w text h ht =>
    have hfeed : ∀ c ∈ text, (c != '\n') = true := by
      intro c hc
      by_contra hne
      have heq : c = '\n' := by simpa using hne
      have hlegal := ht c hc
      rw [heq] at hlegal
      exact absurd hlegal (by decide)
    have hlegal : text.find? isIllegal = none := by
      rw [List.find?_eq_none]
      intro c hc
      simp [ht c hc]
    have htake : text.takeWhile (· != '\n') = text := List.takeWhile_eq_self_iff.mpr hfeed
    have hdrop : text.dropWhile (· != '\n') = [] := List.dropWhile_eq_nil_iff.mpr hfeed
    rw [skipSpaces_spaces h, skipSpaces_cons (by decide)]
    simp only [skipComment, htake, hlegal, hdrop]

/-- What begins a key begins no header, no comment and no empty line. -/
theorem head_of_bare {c : Char} (h : isBareKeyChar c = true) :
    c ≠ '[' ∧ c ≠ '#' ∧ c ≠ '\n' := by
  refine ⟨?_, ?_, ?_⟩
  · rintro rfl
    exact absurd h (by decide)
  · rintro rfl
    exact absurd h (by decide)
  · rintro rfl
    exact absurd h (by decide)

theorem readForm_header {w₂ w₃ name behind : Text} {key : Key} (h₂ : Spaces w₂) (h₃ : Spaces w₃)
    (hk : DottedKey name key) :
    readForm ('[' :: (w₂ ++ (name ++ (w₃ ++ ']' :: behind)))) = .ok ([.table key], behind) := by
  have hsecond : ∀ r, w₂ ++ (name ++ (w₃ ++ ']' :: behind)) ≠ '[' :: r := by
    intro r heq
    cases w₂ with
    | nil =>
      obtain ⟨part, more, w', c', r', hp, -, -, hname, -⟩ := hk.split h₃ ']' behind
      obtain ⟨d, tail, rfl, hd⟩ := hp.exists_cons
      rw [List.nil_append, hname] at heq
      exact (head_of_bare hd).1 (List.cons.inj heq).1
    | cons c w₂ =>
      obtain ⟨rfl, -⟩ := List.cons.inj heq
      exact absurd (h₂ '[' (by simp)) (by decide)
  rw [readForm.eq_2 _ hsecond]
  refine readHeader_eq_ok.mpr ⟨key, ?_, rfl⟩
  rw [skipSpaces_spaces h₂, hk.skipSpaces h₃]
  exact readKey_dotted hk h₃ (by decide) (by decide) (by decide) behind

/-- **A plain line says what its form tells.** -/
theorem PlainLine.statements {t : Text} {ss : List Statement} (h : PlainLine t ss) :
    Toml.statements t = .ok ss := by
  refine readForms_succ.mpr ?_
  cases h with
  | nothing _ h =>
    cases h with
    | blank _ h =>
      have hskip := skipSpaces_spaces h []
      rw [List.append_nil] at hskip
      exact .done hskip
    | comment w text h ht =>
      have hskip : skipSpaces (w ++ '#' :: text) = '#' :: text := by
        rw [skipSpaces_spaces h, skipSpaces_cons (by decide)]
      have hend : LineEnd ('#' :: text) := .comment [] text spaces_nil ht
      refine .last ('#' :: text) ('#' :: text) [] hskip (by simp) (by simp) rfl ?_
      exact skipComment_lineEnd hend
  | header w₁ w₂ w₃ name behind key h₁ h₂ h₃ hk he =>
    refine .last _ behind _ rfl ?_ ?_ ?_ (skipComment_lineEnd he)
    · rw [skipSpaces_spaces h₁, skipSpaces_cons (by decide)]
      simp
    · rw [skipSpaces_spaces h₁, skipSpaces_cons (by decide)]
      simp
    · rw [skipSpaces_spaces h₁, skipSpaces_cons (by decide)]
      exact readForm_header h₂ h₃ hk
  | entry w₁ w₂ w₃ name written behind key value h₁ h₂ h₃ hk hv he =>
    have hskip : skipSpaces (w₁ ++ (name ++ (w₂ ++ '=' :: (w₃ ++ (written ++ behind)))))
        = name ++ (w₂ ++ '=' :: (w₃ ++ (written ++ behind))) := by
      rw [skipSpaces_spaces h₁, hk.skipSpaces h₂]
    obtain ⟨c, rest, hstart, hc⟩ : ∃ c rest,
        name ++ (w₂ ++ '=' :: (w₃ ++ (written ++ behind))) = c :: rest ∧ isBareKeyChar c = true := by
      obtain ⟨part, more, w', c', r', hp, -, -, hname, -⟩ := hk.split h₂ '=' (w₃ ++ (written ++ behind))
      obtain ⟨d, tail, rfl, hd⟩ := hp.exists_cons
      exact ⟨d, _, hname, hd⟩
    obtain ⟨hbracket, hhash, hfeed⟩ := head_of_bare hc
    have hkeyStart : isKeyStart c = true := by
      simp [isKeyStart, hc]
    refine .last _ behind _ hskip ?_ ?_ ?_ (skipComment_lineEnd he)
    · simp [hstart]
    · simp [hstart, hfeed]
    · refine (readForm_entry_eq_ok ?_ ?_).mpr ⟨?_, key, value, _, readKeyEquals_plain hk hv h₂ h₃ behind,
        readValue_plain hv he, rfl⟩
      · simp [hstart, hbracket]
      · simp [hstart, hhash]
      · simp [hstart, hkeyStart]

end CrateSync.Toml
