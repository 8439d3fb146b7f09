/-
# The statements of a document

A document read in two stages: the statements that stand in the text, and what they do one after the
other.  The reader of documents does both at once; where the statements can be read, it succeeds exactly
if they can be carried out.

* `Statement.apply`, `enact` : what statements do to a document in the making;
* `statements` : the statements of a text;
* `parse_eq_ok` : the document of a text whose statements are known;
* `statements_append` : the statements of two texts with a line feed in between are those of the first
  and those of the second.
-/
import CrateSync.Proofs.Toml.Locality

namespace CrateSync.Toml

/-! ## Statements and what they do -/

/-- A statement of a document. -/
inductive Statement where
  /-- A value under a key of the current table. -/
  | entry (key : Key) (value : Value)
  /-- The header of a table. -/
  | table (key : Key)
  /-- The header of a table at the end of an array. -/
  | array (key : Key)

/-- The key that a statement gives. -/
def Statement.key : Statement → Key
  | entry key _ => key
  | table key => key
  | array key => key

/-- What a statement does. -/
def Statement.apply : Statement → Draft → Except Cause Draft
  | entry key value, d => d.assign key value
  | table key, d => d.settle.openTable key
  | array key, d => d.settle.extendArray key

/-- What statements do one after the other. -/
def enact (ss : List Statement) (d : Draft) : Except Cause Draft :=
  ss.foldlM (fun d s => s.apply d) d

@[simp] theorem enact_nil (d : Draft) : enact [] d = .ok d :=
  rfl

theorem enact_cons {s : Statement} {ss : List Statement} {d d' : Draft} :
    enact (s :: ss) d = .ok d' ↔ ∃ e, s.apply d = .ok e ∧ enact ss e = .ok d' :=
  bind_eq_ok

theorem enact_append {ss us : List Statement} {d d' : Draft} :
    enact (ss ++ us) d = .ok d' ↔ ∃ e, enact ss d = .ok e ∧ enact us e = .ok d' := by
  unfold enact
  rw [List.foldlM_append]
  exact bind_eq_ok

/-! ## Reading statements -/

/-- Reads a header from behind its brackets up to its closing ones. -/
def readHeader (statement : Key → Statement) (closing : Text) (cause : Cause) (t : Text) :
    Result (List Statement × Text) := do
  let (key, rest) ← readKey (skipSpaces t)
  match Text.after? closing rest with
  | some rest => .ok ([statement key], rest)
  | none => stop cause rest

/-- Reads the statement that begins here; a comment is none and is left for later. -/
def readForm : Text → Result (List Statement × Text)
  | '[' :: '[' :: rest => readHeader .array [']', ']'] .unclosedArrayHeader rest
  | '[' :: rest => readHeader .table [']'] .unclosedTableHeader rest
  | '#' :: rest => .ok ([], '#' :: rest)
  | t =>
    if (t.head?.map isKeyStart).getD false then do
      let (key, rest) ← readKeyEquals t
      let (value, rest) ← readValue rest
      .ok ([.entry key value], rest)
    else stop .badStatement t

/-- Reads the statements of at most `n` lines. -/
def readForms : Nat → Text → Result (List Statement)
  | 0, t => stop .badStatement t
  | n + 1, t =>
    match skipSpaces t with
    | [] => .ok []
    | '\n' :: rest => readForms n rest
    | start => do
      let (ss, rest) ← readForm start
      match ← skipComment (skipSpaces rest) with
      | [] => .ok ss
      | '\n' :: rest => (readForms n rest).map (ss ++ ·)
      | rest => stop .unfinishedLine rest

/-- The statements of a text. -/
def statements (t : Text) : Result (List Statement) :=
  readForms (t.length + 1) t

/-! ## One statement -/

theorem after?_eq_some {start rest behind : Text} :
    Text.after? start rest = some behind ↔ rest = start ++ behind := by
  unfold Text.after?
  induction start generalizing rest with
  | nil => simp [List.isPrefixOf?]
  | cons c start ih =>
    cases rest with
    | nil => simp [List.isPrefixOf?]
    | cons d rest =>
      by_cases h : c = d
      · simp [List.isPrefixOf?, h, ih]
      · simp [List.isPrefixOf?, h, Ne.symm h]

theorem readHeader_eq_ok {statement : Key → Statement} {closing : Text} {cause : Cause} {t rest : Text}
    {ss : List Statement} : readHeader statement closing cause t = .ok (ss, rest) ↔
      ∃ key, readKey (skipSpaces t) = .ok (key, closing ++ rest) ∧ ss = [statement key] := by
  unfold readHeader
  rw [bind_eq_ok]
  constructor
  · rintro ⟨⟨key, behind⟩, hkey, h⟩
    dsimp only at h
    cases hafter : Text.after? closing behind with
    | none =>
      rw [hafter] at h
      exact absurd h (by simp [stop])
    | some found =>
      rw [hafter] at h
      obtain ⟨rfl, rfl⟩ := Prod.mk.inj (Except.ok.inj h)
      exact ⟨key, by rw [hkey, after?_eq_some.mp hafter], rfl⟩
  · rintro ⟨key, hkey, rfl⟩
    refine ⟨_, hkey, ?_⟩
    dsimp only
    rw [after?_eq_some.mpr rfl]

/-- What a statement is that begins here. -/
theorem readForm_cases (t : Text) :
    (∃ rest, t = '[' :: '[' :: rest) ∨ (∃ rest, t = '[' :: rest ∧ ∀ r, rest ≠ '[' :: r)
      ∨ (∃ rest, t = '#' :: rest) ∨ (∀ rest, t ≠ '[' :: rest) ∧ ∀ rest, t ≠ '#' :: rest := by
  match t with
  | [] => simp
  | [c] =>
    by_cases hc : c = '['
    · simp [hc]
    · by_cases hh : c = '#' <;> simp [hc, hh]
  | c :: d :: rest =>
    by_cases hc : c = '['
    · by_cases hd : d = '[' <;> simp [hc, hd]
    · by_cases hh : c = '#' <;> simp [hc, hh]

theorem readForm_entry_eq_ok {t rest : Text} {ss : List Statement} (hb : ∀ rest, t ≠ '[' :: rest)
    (hc : ∀ rest, t ≠ '#' :: rest) : readForm t = .ok (ss, rest) ↔
      (t.head?.map isKeyStart).getD false = true ∧ ∃ key value middle,
        readKeyEquals t = .ok (key, middle) ∧ readValue middle = .ok (value, rest)
          ∧ ss = [.entry key value] := by
  rw [readForm.eq_4 t (fun rest h => hb _ h) (fun rest h => hb _ h) (fun rest h => hc _ h)]
  by_cases hs : (t.head?.map isKeyStart).getD false = true
  · rw [if_pos hs, bind_eq_ok]
    constructor
    · rintro ⟨⟨key, middle⟩, hkey, h⟩
      obtain ⟨⟨value, rest'⟩, hvalue, hr⟩ := bind_eq_ok.mp h
      obtain ⟨rfl, rfl⟩ := Prod.mk.inj (Except.ok.inj hr)
      exact ⟨hs, key, value, middle, hkey, hvalue, rfl⟩
    · rintro ⟨-, key, value, middle, hkey, hvalue, rfl⟩
      exact ⟨_, hkey, bind_eq_ok.mpr ⟨_, hvalue, rfl⟩⟩
  · simp [hs, stop]

/-- **Reading a statement and carrying it out** is reading it into the document. -/
theorem readStatement_eq_ok {t rest : Text} {ss : List Statement} (h : readForm t = .ok (ss, rest))
    {d : Draft} {r : Draft × Text} :
    readStatement d t = .ok r ↔ ∃ d', enact ss d = .ok d' ∧ (d', rest) = r := by
  -- a statement that is read is carried out when its key and value are there
  have hone : ∀ (s : Statement) (behind : Text),
      (failAt behind (s.apply d) >>= fun d' => (.ok (d', rest) : Result (Draft × Text))) = .ok r
        ↔ ∃ d', enact [s] d = .ok d' ∧ (d', rest) = r := by
    intro s behind
    rw [bind_eq_ok]
    simp [failAt_eq_ok, enact_cons]
  rcases readForm_cases t with ⟨u, rfl⟩ | ⟨u, rfl, hu⟩ | ⟨u, rfl⟩ | ⟨hb, hc⟩
  · obtain ⟨key, hkey, rfl⟩ := readHeader_eq_ok.mp h
    rw [← hone, readStatement, readArrayHeader, hkey]
    rfl
  · rw [readForm.eq_2 u hu] at h
    obtain ⟨key, hkey, rfl⟩ := readHeader_eq_ok.mp h
    rw [← hone, readStatement.eq_2 d u hu, readTableHeader, hkey]
    rfl
  · obtain ⟨rfl, rfl⟩ := Prod.mk.inj (Except.ok.inj h)
    simp [readStatement]
  · obtain ⟨hs, key, value, middle, hkey, hvalue, rfl⟩ := (readForm_entry_eq_ok hb hc).mp h
    rw [← hone,
      readStatement.eq_4 d t (fun rest h => hb _ h) (fun rest h => hb _ h) (fun rest h => hc _ h),
      if_pos hs, readEntry, hkey]
    simp only [bind, Except.bind, hvalue]
    rfl

theorem readForm_append {t rest : Text} {ss : List Statement} (h : readForm t = .ok (ss, rest))
    (x : Text) : readForm (t ++ '\n' :: x) = .ok (ss, rest ++ '\n' :: x) := by
  have hheader : ∀ (statement : Key → Statement) (closing u : Text) (cause : Cause),
      readHeader statement closing cause u = .ok (ss, rest) →
      readHeader statement closing cause (u ++ '\n' :: x) = .ok (ss, rest ++ '\n' :: x) := by
    intro statement closing u cause hu
    obtain ⟨key, hkey, rfl⟩ := readHeader_eq_ok.mp hu
    refine readHeader_eq_ok.mpr ⟨key, ?_, rfl⟩
    rw [skipSpaces_append, readKey_append _ x hkey, followedBy_mk, List.append_assoc]
  rcases readForm_cases t with ⟨u, rfl⟩ | ⟨u, rfl, hu⟩ | ⟨u, rfl⟩ | ⟨hb, hc⟩
  · exact hheader .array _ _ _ h
  · have hu' : ∀ r, u ++ '\n' :: x ≠ '[' :: r := by
      intro r he
      cases u with
      | nil => exact absurd (List.cons.inj he).1 (by decide)
      | cons c u => exact hu u (by rw [(List.cons.inj he).1])
    rw [readForm.eq_2 u hu] at h
    rw [List.cons_append, readForm.eq_2 _ hu']
    exact hheader .table _ _ _ h
  · obtain ⟨rfl, rfl⟩ := Prod.mk.inj (Except.ok.inj h)
    rfl
  · obtain ⟨hs, key, value, middle, hkey, hvalue, rfl⟩ := (readForm_entry_eq_ok hb hc).mp h
    cases t with
    | nil => exact absurd hs (by simp)
    | cons c u =>
      refine (readForm_entry_eq_ok ?_ ?_).mpr ⟨by simpa using hs, key, value, _,
        readKeyEquals_append _ x hkey, readValue_append _ x hvalue, rfl⟩
      · intro r he
        exact hb u (by rw [(List.cons.inj he).1])
      · intro r he
        exact hc u (by rw [(List.cons.inj he).1])

/-- A key that is read has a part. -/
theorem readKey_ne_nil {t rest : Text} {key : Key} (h : readKey t = .ok (key, rest)) : key ≠ [] := by
  unfold readKey at h
  rw [readKeyAux] at h
  obtain ⟨⟨part, behind⟩, -, hnext⟩ := bind_eq_ok.mp h
  dsimp only at hnext
  split at hnext
  · obtain ⟨⟨parts, last⟩, -, hr⟩ := bind_eq_ok.mp hnext
    rw [← (Prod.mk.inj (Except.ok.inj hr)).1]
    exact List.cons_ne_nil part parts
  · rw [← (Prod.mk.inj (Except.ok.inj hnext)).1]
    exact List.cons_ne_nil part []

theorem readForm_key_ne_nil {t rest : Text} {ss : List Statement} (h : readForm t = .ok (ss, rest)) :
    ∀ s ∈ ss, s.key ≠ [] := by
  have hheader : ∀ (statement : Key → Statement) (closing u : Text) (cause : Cause),
      (∀ key, (statement key).key = key) →
      readHeader statement closing cause u = .ok (ss, rest) → ∀ s ∈ ss, s.key ≠ [] := by
    intro statement closing u cause hkeys hu s hs
    obtain ⟨key, hkey, rfl⟩ := readHeader_eq_ok.mp hu
    rw [List.mem_singleton.mp hs, hkeys]
    exact readKey_ne_nil hkey
  rcases readForm_cases t with ⟨u, rfl⟩ | ⟨u, rfl, hu⟩ | ⟨u, rfl⟩ | ⟨hb, hc⟩
  · exact hheader .array _ _ _ (fun _ => rfl) h
  · rw [readForm.eq_2 u hu] at h
    exact hheader .table _ _ _ (fun _ => rfl) h
  · obtain ⟨rfl, -⟩ := Prod.mk.inj (Except.ok.inj h)
    simp
  · obtain ⟨-, key, value, middle, hkey, -, rfl⟩ := (readForm_entry_eq_ok hb hc).mp h
    intro s hs
    rw [List.mem_singleton.mp hs]
    unfold readKeyEquals at hkey
    obtain ⟨⟨key', behind⟩, hread, hnext⟩ := bind_eq_ok.mp hkey
    dsimp only at hnext
    split at hnext
    · rw [Statement.key, ← (Prod.mk.inj (Except.ok.inj hnext)).1]
      exact readKey_ne_nil hread
    · exact absurd hnext (by simp [stop])

/-! ## All statements -/

/-- How a text goes on whose statements are read by at most `n + 1` lines: it is empty, the line is empty,
or a statement stands there, which is the last of the text or has further lines behind it. -/
inductive FormsFrom (n : Nat) (t : Text) : List Statement → Prop
  | done (h : skipSpaces t = []) : FormsFrom n t []
  | emptyLine (rest : Text) (ss : List Statement) (h : skipSpaces t = '\n' :: rest)
      (hr : readForms n rest = .ok ss) : FormsFrom n t ss
  | last (start rest : Text) (ss : List Statement) (h : skipSpaces t = start)
      (hn : start ≠ []) (hl : ∀ u, start ≠ '\n' :: u) (hf : readForm start = .ok (ss, rest))
      (hc : skipComment (skipSpaces rest) = .ok []) : FormsFrom n t ss
  | next (start rest behind : Text) (ss us : List Statement) (h : skipSpaces t = start)
      (hn : start ≠ []) (hl : ∀ u, start ≠ '\n' :: u) (hf : readForm start = .ok (ss, rest))
      (hc : skipComment (skipSpaces rest) = .ok ('\n' :: behind)) (hr : readForms n behind = .ok us) :
      FormsFrom n t (ss ++ us)

theorem readForms_succ {n : Nat} {t : Text} {ss : List Statement} :
    readForms (n + 1) t = .ok ss ↔ FormsFrom n t ss := by
  rw [readForms]
  constructor
  · intro h
    split at h
    · rename_i hskip
      rw [← Except.ok.inj h]
      exact .done hskip
    · rename_i rest hskip
      exact .emptyLine rest ss hskip h
    · rename_i hn hl
      obtain ⟨⟨us, rest⟩, hform, h⟩ := bind_eq_ok.mp h
      obtain ⟨behind, hcomment, h⟩ := bind_eq_ok.mp h
      split at h
      · rw [← Except.ok.inj h]
        exact .last _ rest us rfl hn hl hform hcomment
      · obtain ⟨vs, hvs, rfl⟩ := map_eq_ok.mp h
        exact .next _ rest _ us vs rfl hn hl hform hcomment hvs
      · exact absurd h (by simp [stop])
  · intro h
    cases h with
    | done h => rw [h]
    | emptyLine rest ss h hr => rw [h]; exact hr
    | last start rest ss h hn hl hf hc =>
      subst h
      split
      · contradiction
      · rename_i rest' heq
        exact absurd heq (hl rest')
      · exact bind_eq_ok.mpr ⟨_, hf, bind_eq_ok.mpr ⟨_, hc, rfl⟩⟩
    | next start rest behind ss us h hn hl hf hc hr =>
      subst h
      split
      · contradiction
      · rename_i rest' heq
        exact absurd heq (hl rest')
      · exact bind_eq_ok.mpr ⟨_, hf, bind_eq_ok.mpr ⟨_, hc, map_eq_ok.mpr ⟨_, hr, rfl⟩⟩⟩

theorem readForms_mono {n m : Nat} (hm : n ≤ m) {t : Text} {ss : List Statement}
    (h : readForms n t = .ok ss) : readForms m t = .ok ss := by
  induction n generalizing t m ss with
  | zero => exact absurd h (by simp [readForms, stop])
  | succ n ih =>
    obtain ⟨k, rfl⟩ : ∃ k, m = k + 1 := ⟨m - 1, by omega⟩
    have hk : n ≤ k := by omega
    rw [readForms_succ] at h ⊢
    cases h with
    | done h => exact .done h
    | emptyLine rest ss h hr => exact .emptyLine rest ss h (ih hk hr)
    | last start rest ss h hn hl hf hc => exact .last start rest ss h hn hl hf hc
    | next start rest behind ss us h hn hl hf hc hr =>
      exact .next start rest behind ss us h hn hl hf hc (ih hk hr)

/-- What a statement begins with, with a text behind. -/
theorem start_append {start : Text} (hn : start ≠ []) (hl : ∀ u, start ≠ '\n' :: u) (x : Text) :
    start ++ '\n' :: x ≠ [] ∧ ∀ u, start ++ '\n' :: x ≠ '\n' :: u := by
  obtain ⟨c, rest, rfl⟩ := List.exists_cons_of_ne_nil hn
  refine ⟨by simp, fun u he => hl rest ?_⟩
  rw [(List.cons.inj he).1]

theorem readForms_append {n m : Nat} {t x : Text} {ss us : List Statement}
    (ht : readForms n t = .ok ss) (hx : readForms m x = .ok us) :
    readForms (n + m) (t ++ '\n' :: x) = .ok (ss ++ us) := by
  induction n generalizing t ss with
  | zero => exact absurd ht (by simp [readForms, stop])
  | succ n ih =>
    have hx' : readForms (n + m) x = .ok us := readForms_mono (by omega) hx
    rw [show n + 1 + m = n + m + 1 by omega, readForms_succ]
    cases readForms_succ.mp ht with
    | done h => exact .emptyLine x us (by rw [skipSpaces_append, h]; rfl) hx'
    | emptyLine rest ss h hr =>
      exact .emptyLine (rest ++ '\n' :: x) _ (by rw [skipSpaces_append, h]; rfl) (ih hr)
    | last start rest ss h hn hl hf hc =>
      refine .next (start ++ '\n' :: x) (rest ++ '\n' :: x) x ss us (by rw [skipSpaces_append, h])
        (start_append hn hl x).1 (start_append hn hl x).2 (readForm_append hf x) ?_ hx'
      rw [skipSpaces_append, skipComment_append _ x hc]
      rfl
    | next start rest behind ss vs h hn hl hf hc hr =>
      rw [List.append_assoc]
      refine .next (start ++ '\n' :: x) (rest ++ '\n' :: x) (behind ++ '\n' :: x) ss (vs ++ us)
        (by rw [skipSpaces_append, h]) (start_append hn hl x).1 (start_append hn hl x).2
        (readForm_append hf x) ?_ (ih hr)
      rw [skipSpaces_append, skipComment_append _ x hc]
      rfl

/-- **The statements of two texts** with a line feed in between are those of the first and then those of
the second. -/
theorem statements_append {t x : Text} {ss us : List Statement} (ht : statements t = .ok ss)
    (hx : statements x = .ok us) : statements (t ++ '\n' :: x) = .ok (ss ++ us) := by
  unfold statements at *
  have h := readForms_append ht hx
  rwa [show t.length + 1 + (x.length + 1) = (t ++ '\n' :: x).length + 1 by simp; omega] at h

theorem readForms_key_ne_nil {n : Nat} {t : Text} {ss : List Statement}
    (h : readForms n t = .ok ss) : ∀ s ∈ ss, s.key ≠ [] := by
  induction n generalizing t ss with
  | zero => exact absurd h (by simp [readForms, stop])
  | succ n ih =>
    cases readForms_succ.mp h with
    | done h => simp
    | emptyLine rest ss h hr => exact ih hr
    | last start rest ss h hn hl hf hc => exact readForm_key_ne_nil hf
    | next start rest behind ss us h hn hl hf hc hr =>
      intro s hs
      rcases List.mem_append.mp hs with hs | hs
      · exact readForm_key_ne_nil hf s hs
      · exact ih hr s hs

/-- **A statement that is read gives a key.** -/
theorem statements_key_ne_nil {t : Text} {ss : List Statement} (h : statements t = .ok ss) :
    ∀ s ∈ ss, s.key ≠ [] :=
  readForms_key_ne_nil h

/-! ## The document -/

/-- Where a statement begins, it is carried out, and what is left of the line is no more than a
comment. -/
theorem readStatementsAux_start {n : Nat} {t rest : Text} {ss : List Statement}
    (hn : skipSpaces t ≠ []) (hl : ∀ u, skipSpaces t ≠ '\n' :: u)
    (hf : readForm (skipSpaces t) = .ok (ss, rest)) {d d' : Draft} :
    readStatementsAux (n + 1) d t = .ok d' ↔ ∃ e behind, enact ss d = .ok e
      ∧ skipComment (skipSpaces rest) = .ok behind ∧
        (match behind with
          | [] => .ok e
          | '\n' :: rest => readStatementsAux n e rest
          | rest => stop .unfinishedLine rest : Result Draft) = .ok d' := by
  rw [readStatementsAux]
  split
  · contradiction
  · rename_i rest' heq
    exact absurd heq (hl rest')
  · rw [bind_eq_ok]
    simp only [readStatement_eq_ok hf, bind_eq_ok]
    constructor
    · rintro ⟨r, ⟨e, he, rfl⟩, behind, hbehind, h⟩
      exact ⟨e, behind, he, hbehind, h⟩
    · rintro ⟨e, behind, he, hbehind, h⟩
      exact ⟨_, ⟨e, he, rfl⟩, behind, hbehind, h⟩

theorem readStatementsAux_eq_ok {n : Nat} {t : Text} {ss : List Statement}
    (hforms : readForms n t = .ok ss) {d d' : Draft} :
    readStatementsAux n d t = .ok d' ↔ enact ss d = .ok d' := by
  induction n generalizing t ss d with
  | zero => exact absurd hforms (by simp [readForms, stop])
  | succ n ih =>
    cases readForms_succ.mp hforms with
    | done h =>
      rw [readStatementsAux, h, enact_nil]
      simp
    | emptyLine rest ss h hr =>
      rw [readStatementsAux, h]
      exact ih hr
    | last start rest ss h hn hl hf hc =>
      subst h
      rw [readStatementsAux_start hn hl hf]
      simp [hc]
    | next start rest behind ss us h hn hl hf hc hr =>
      subst h
      rw [readStatementsAux_start hn hl hf, enact_append]
      simp [hc, ih hr]

theorem readDocument_eq_ok {t : Text} {ss : List Statement} (h : statements t = .ok ss)
    {root : Table} :
    readDocument t = .ok root ↔ ∃ d, enact ss .empty = .ok d ∧ d.root = root := by
  unfold readDocument
  rw [map_eq_ok]
  simp only [readStatementsAux_eq_ok h]

/-- **The document of a text** whose statements are known: they can be carried out, and this is what they
make. -/
theorem parse_eq_ok {t : Text} {ss : List Statement} (h : statements (Text.joinPairs t) = .ok ss)
    {root : Table} :
    parse t = .ok root ↔ ∃ d, enact ss .empty = .ok d ∧ d.root = root := by
  rw [← readDocument_eq_ok h]
  unfold parse
  cases hread : readDocument (Text.joinPairs t) with
  | ok found => simp [hread]
  | error e => cases e <;> simp [hread]

end CrateSync.Toml
