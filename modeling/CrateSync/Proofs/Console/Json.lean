/-
# Reading JSON back

A reader of JSON, as a program on the other side would read it, and what it makes of the values that are
written: it gets them back, whatever the texts in them hold, and it is given nothing but one line of
printable ASCII characters.  Of numbers only integers are read, and a name that stands twice in an object
is kept twice.

* `decode` : the value that a text writes;
* `decode_write` : a value is read back;
* `write_printable` : what is written has printable ASCII characters only.
-/
import CrateSync.Console.Json
import CrateSync.Proofs.Text.Numeral
import CrateSync.Proofs.Text.Utf8

namespace CrateSync.Json

/-! ## The reader -/

/-- What may stand between the parts of a value. -/
def isSpace (c : Char) : Bool :=
  c = ' ' || c = '\t' || c = '\n' || c = '\r'

/-- A text from its first part on. -/
def skipSpaces (t : Text) : Text :=
  t.dropWhile isSpace

/-- A unit of sixteen bits in four hexadecimal digits, and what follows. -/
def readUnit? : Text → Option (Nat × Text)
  | a :: b :: c :: d :: rest =>
    if [a, b, c, d].all Text.isHexDigit then some (Text.digitsValue 16 [a, b, c, d], rest) else none
  | _ => none

/-- The character that a unit stands for, or two units that belong together, and what follows. -/
def readNumbered? (t : Text) : Option (Char × Text) := do
  let (unit, rest) ← readUnit? t
  if 0xD800 ≤ unit ∧ unit < 0xDC00 then
    match rest with
    | '\\' :: 'u' :: rest =>
      let (low, rest) ← readUnit? rest
      if 0xDC00 ≤ low ∧ low < 0xE000 then
        some (Char.ofNat (0x10000 + (unit - 0xD800) * 0x400 + (low - 0xDC00)), rest)
      else none
    | _ => none
  else if 0xDC00 ≤ unit ∧ unit < 0xE000 then none
  else some (Char.ofNat unit, rest)

/-- The characters that have short escapes. -/
def shortEscapes : List (Char × Char) :=
  [('"', '"'), ('\\', '\\'), ('/', '/'), ('b', '\x08'), ('f', '\x0c'), ('n', '\n'), ('r', '\r'),
    ('t', '\t')]

/-- A character of a string, and what follows. -/
def readCharacter? : Text → Option (Char × Text)
  | [] => none
  | '\\' :: 'u' :: rest => readNumbered? rest
  | '\\' :: c :: rest => (shortEscapes.lookup c).map fun d => (d, rest)
  | c :: rest => if c = '"' ∨ c = '\\' ∨ c.toNat < 0x20 then none else some (c, rest)

/-- The characters of a string of at most `n` characters, up to the quote that ends it, and what
follows. -/
def readCharacters : Nat → Text → Option (Text × Text)
  | _, '"' :: rest => some ([], rest)
  | 0, _ => none
  | n + 1, t => do
    let (c, rest) ← readCharacter? t
    let (cs, rest) ← readCharacters n rest
    return (c :: cs, rest)

/-- A string, and what follows. -/
def readString? : Text → Option (Text × Text)
  | '"' :: rest => readCharacters rest.length rest
  | _ => none

/-- A natural number without needless zeros, and what follows. -/
def readNatural? (t : Text) : Option (Nat × Text) :=
  let digits := t.takeWhile Char.isDigit
  if digits = [] ∨ (digits.head? = some '0' ∧ digits ≠ ['0']) then none
  else some (Text.digitsValue 10 digits, t.dropWhile Char.isDigit)

/-- An integer, and what follows. -/
def readInteger? : Text → Option (Int × Text)
  | '-' :: rest => (readNatural? rest).map fun (n, rest) => (-(n : Int), rest)
  | t => (readNatural? t).map fun (n, rest) => ((n : Int), rest)

mutual

/-- A value that is nested at most `n` deep, and what follows. -/
def readValue : Nat → Text → Option (Json × Text)
  | 0, _ => none
  | n + 1, t =>
    match skipSpaces t with
    | 't' :: 'r' :: 'u' :: 'e' :: rest => some (.boolean true, rest)
    | 'f' :: 'a' :: 'l' :: 's' :: 'e' :: rest => some (.boolean false, rest)
    | '"' :: rest => (readString? ('"' :: rest)).map fun (s, rest) => (.string s, rest)
    | '[' :: rest =>
      match skipSpaces rest with
      | ']' :: rest => some (.array [], rest)
      | rest => (readItems n rest).map fun (items, rest) => (.array items, rest)
    | '\x7b' :: rest =>
      match skipSpaces rest with
      | '\x7d' :: rest => some (.object [], rest)
      | rest => (readFields n rest).map fun (fields, rest) => (.object fields, rest)
    | t => (readInteger? t).map fun (i, rest) => (.integer i, rest)

/-- Items up to the bracket that ends an array, and what follows. -/
def readItems : Nat → Text → Option (List Json × Text)
  | 0, _ => none
  | n + 1, t => do
    let (item, rest) ← readValue n t
    match skipSpaces rest with
    | ',' :: rest => (readItems n rest).map fun (items, rest) => (item :: items, rest)
    | ']' :: rest => some ([item], rest)
    | _ => none

/-- Fields up to the brace that ends an object, and what follows. -/
def readFields : Nat → Text → Option (List (Text × Json) × Text)
  | 0, _ => none
  | n + 1, t => do
    let (name, rest) ← readString? (skipSpaces t)
    match skipSpaces rest with
    | ':' :: rest =>
      let (value, rest) ← readValue n rest
      match skipSpaces rest with
      | ',' :: rest => (readFields n rest).map fun (fields, rest) => ((name, value) :: fields, rest)
      | '\x7d' :: rest => some ([(name, value)], rest)
      | _ => none
    | _ => none

end

/-- **The value that a text writes**, with nothing but spaces around it.  No value is nested deeper than
its text is long. -/
def decode (t : Text) : Option Json :=
  match readValue (t.length + 1) t with
  | some (v, rest) => if skipSpaces rest = [] then some v else none
  | none => none

/-! ## Strings -/

theorem readUnit?_ofNatHex {n : Nat} (h : n < 0x10000) (rest : Text) :
    readUnit? (Text.ofNatHex 4 n ++ rest) = some (n, rest) := by
  have hlength := Text.length_ofNatHex h
  have hdigits := Text.isHexDigit_ofNatHex 4 n
  have hvalue := Text.digitsValue_ofNatHex 4 n
  match hn : Text.ofNatHex 4 n, hlength with
  | [a, b, c, d], _ =>
    rw [hn] at hdigits hvalue
    have hall : [a, b, c, d].all Text.isHexDigit = true := List.all_eq_true.mpr hdigits
    simp only [List.cons_append, List.nil_append, readUnit?, hall, if_true, hvalue]

/-- A character that is escaped by number is read back. -/
theorem readNumbered?_unit {c : Char} (h : c.toNat < 0x10000) (rest : Text) :
    readNumbered? (Text.ofNatHex 4 c.toNat ++ rest) = some (c, rest) := by
  have hvalid : c.toNat < 0xD800 ∨ 0xDFFF < c.toNat ∧ c.toNat < 0x110000 := c.valid
  have hfirst : ¬(0xD800 ≤ c.toNat ∧ c.toNat < 0xDC00) := by omega
  have hsecond : ¬(0xDC00 ≤ c.toNat ∧ c.toNat < 0xE000) := by omega
  simp only [readNumbered?, readUnit?_ofNatHex h, Option.bind_eq_bind, Option.bind_some, hfirst, if_false,
    hsecond, Char.ofNat_toNat]

/-- Two units that belong together are read as one character. -/
theorem readNumbered?_pair {high low : Nat} (hhigh : 0xD800 ≤ high ∧ high < 0xDC00)
    (hlow : 0xDC00 ≤ low ∧ low < 0xE000) (rest : Text) :
    readNumbered? (Text.ofNatHex 4 high ++ '\\' :: 'u' :: (Text.ofNatHex 4 low ++ rest))
      = some (Char.ofNat (0x10000 + (high - 0xD800) * 0x400 + (low - 0xDC00)), rest) := by
  have hfirst : readUnit? (Text.ofNatHex 4 high ++ '\\' :: 'u' :: (Text.ofNatHex 4 low ++ rest))
      = some (high, '\\' :: 'u' :: (Text.ofNatHex 4 low ++ rest)) :=
    readUnit?_ofNatHex (by omega) _
  have hsecond : readUnit? (Text.ofNatHex 4 low ++ rest) = some (low, rest) :=
    readUnit?_ofNatHex (by omega) _
  simp only [readNumbered?, hfirst, hsecond, Option.bind_eq_bind, Option.bind_some, if_pos hhigh,
    if_pos hlow]

theorem readCharacter?_escapeUnit (n : Nat) (rest : Text) :
    readCharacter? (escapeUnit n ++ rest) = readNumbered? (Text.ofNatHex 4 n ++ rest) := rfl

/-- A character that stands for itself is read. -/
theorem readCharacter?_self {c : Char} (hquote : c ≠ '"') (hbackslash : c ≠ '\\')
    (hcontrol : 0x20 ≤ c.toNat) (rest : Text) : readCharacter? (c :: rest) = some (c, rest) := by
  have hnot : ¬(c = '"' ∨ c = '\\' ∨ c.toNat < 0x20) := by
    simp only [hquote, hbackslash, false_or]
    omega
  unfold readCharacter?
  split
  · rename_i heq
    exact absurd heq (by simp)
  · rename_i heq
    exact absurd (List.cons.inj heq).1 hbackslash
  · rename_i heq
    exact absurd (List.cons.inj heq).1 hbackslash
  · rename_i heq
    obtain ⟨rfl, rfl⟩ := List.cons.inj heq
    rw [if_neg hnot]

/-- A character that takes two units is read back. -/
theorem readCharacter?_pair {c : Char} {above : Nat} (h : c.toNat = 0x10000 + above) (rest : Text) :
    readCharacter? (escapeUnit (0xD800 + above / 0x400) ++ escapeUnit (0xDC00 + above % 0x400) ++ rest)
      = some (c, rest) := by
  have hvalid : c.toNat < 0xD800 ∨ 0xDFFF < c.toNat ∧ c.toNat < 0x110000 := c.valid
  -- the units get names, as their quotients would be computed again at each step
  have hhigh : ∃ high, high = 0xD800 + above / 0x400 := ⟨_, rfl⟩
  have hlow : ∃ low, low = 0xDC00 + above % 0x400 := ⟨_, rfl⟩
  obtain ⟨high, hhigh⟩ := hhigh
  obtain ⟨low, hlow⟩ := hlow
  have hnumber : 0x10000 + (high - 0xD800) * 0x400 + (low - 0xDC00) = c.toNat := by omega
  rw [← hhigh, ← hlow, List.append_assoc, readCharacter?_escapeUnit]
  calc readNumbered? (Text.ofNatHex 4 high ++ (escapeUnit low ++ rest))
      = some (Char.ofNat (0x10000 + (high - 0xD800) * 0x400 + (low - 0xDC00)), rest) :=
        readNumbered?_pair (by omega) (by omega) rest
    _ = some (c, rest) := by rw [hnumber, Char.ofNat_toNat]

/-- **A character is read back** from what is written for it. -/
theorem readCharacter?_escapeChar (c : Char) (rest : Text) :
    readCharacter? (escapeChar c ++ rest) = some (c, rest) := by
  unfold escapeChar
  simp only
  split_ifs with hquote hbackslash hnewline hreturn htab hback hfeed hplain hunit
  · rw [hquote]; rfl
  · rw [hbackslash]; rfl
  · rw [hnewline]; rfl
  · rw [hreturn]; rfl
  · rw [htab]; rfl
  · rw [hback]; rfl
  · rw [hfeed]; rfl
  · exact readCharacter?_self hquote hbackslash hplain.1 rest
  · rw [readCharacter?_escapeUnit]
    exact readNumbered?_unit hunit rest
  · exact readCharacter?_pair (by omega) rest

/-- No quote is written for a character, unless behind a backslash. -/
theorem head?_escapeChar (c : Char) : ∃ d more, escapeChar c = d :: more ∧ d ≠ '"' := by
  by_cases hquote : c = '"'
  · exact ⟨'\\', ['"'], by rw [hquote]; rfl, by decide⟩
  · unfold escapeChar
    simp only [hquote, if_false]
    split_ifs
    case pos => exact ⟨'\\', _, rfl, by decide⟩
    all_goals first
      | exact ⟨'\\', _, rfl, by decide⟩
      | exact ⟨c, [], rfl, hquote⟩

/-- The characters of a string are read back. -/
theorem readCharacters_flatMap {n : Nat} {t : Text} (hn : t.length ≤ n) (rest : Text) :
    readCharacters n (t.flatMap escapeChar ++ '"' :: rest) = some (t, rest) := by
  induction t generalizing n with
  | nil => cases n <;> rfl
  | cons c t ih =>
    simp only [List.length_cons] at hn
    obtain ⟨n, rfl⟩ : ∃ m, n = m + 1 := ⟨n - 1, by omega⟩
    obtain ⟨d, more, hcons, hd⟩ := head?_escapeChar c
    have hread := readCharacter?_escapeChar c (t.flatMap escapeChar ++ '"' :: rest)
    rw [List.flatMap_cons, List.append_assoc]
    rw [hcons, List.cons_append] at hread ⊢
    rw [readCharacters]
    · simp only [hread, Option.bind_eq_bind, Option.bind_some, ih (n := n) (by omega)]
      rfl
    · exact fun _ heq => hd (List.cons.inj heq).1

theorem length_le_flatMap (t : Text) : t.length ≤ (t.flatMap escapeChar).length := by
  induction t with
  | nil => simp
  | cons c t ih =>
    obtain ⟨d, more, hcons, -⟩ := head?_escapeChar c
    simp only [List.flatMap_cons, List.length_append, hcons, List.length_cons]
    omega

/-- **A string is read back.** -/
theorem readString?_writeString (t rest : Text) :
    readString? (writeString t ++ rest) = some (t, rest) := by
  have hlength := length_le_flatMap t
  have heq : writeString t ++ rest = '"' :: (t.flatMap escapeChar ++ '"' :: rest) := by
    simp [writeString]
  rw [heq, readString?]
  refine readCharacters_flatMap ?_ rest
  simp only [List.length_append]
  omega

/-! ## Numbers -/

/-- A text goes on with something else than a digit. -/
def EndsNumber (t : Text) : Prop :=
  ∀ c ∈ t.head?, c.isDigit = false

theorem takeWhile_digits {t rest : Text} (ht : ∀ c ∈ t, c.isDigit = true) (h : EndsNumber rest) :
    (t ++ rest).takeWhile Char.isDigit = t ∧ (t ++ rest).dropWhile Char.isDigit = rest := by
  rw [List.takeWhile_append_of_pos ht, List.dropWhile_append_of_pos ht]
  cases rest with
  | nil => simp
  | cons c rest =>
    have hc := h c (by simp)
    simp [hc]

theorem readNatural?_ofNat (n : Nat) {rest : Text} (h : EndsNumber rest) :
    readNatural? (Text.ofNat n ++ rest) = some (n, rest) := by
  obtain ⟨htake, hdrop⟩ := takeWhile_digits (Text.isDigit_ofNat n) h
  have hzero : ¬(Text.ofNat n = []
      ∨ (Text.ofNat n).head? = some '0' ∧ Text.ofNat n ≠ ['0']) := by
    rintro (hnil | ⟨hhead, hne⟩)
    · exact Text.ofNat_ne_nil n hnil
    · obtain rfl := Text.eq_zero_of_head? n hhead
      exact hne rfl
  simp only [readNatural?, htake, hdrop, if_neg hzero, Text.digitsValue_ofNat]

theorem head_ofNat (n : Nat) : ∃ d more, Text.ofNat n = d :: more ∧ d.isDigit = true := by
  have hall := Text.isDigit_ofNat n
  cases ht : Text.ofNat n with
  | nil => exact absurd ht (Text.ofNat_ne_nil n)
  | cons d more => exact ⟨d, more, rfl, hall d (by rw [ht]; simp)⟩

/-- **An integer is read back** if no digit follows it. -/
theorem readInteger?_ofInt (i : Int) {rest : Text} (h : EndsNumber rest) :
    readInteger? (Text.ofInt i ++ rest) = some (i, rest) := by
  cases i with
  | ofNat n =>
    obtain ⟨d, more, hcons, hd⟩ := head_ofNat n
    have hread := readNatural?_ofNat n h
    rw [Text.ofInt]
    rw [hcons, List.cons_append] at hread ⊢
    rw [readInteger?, hread]
    · rfl
    · intro _ heq
      rw [(List.cons.inj heq).1] at hd
      exact absurd hd (by decide)
  | negSucc n =>
    have hread := readNatural?_ofNat (n + 1) h
    rw [Text.ofInt, List.cons_append, readInteger?, hread]
    rfl

/-! ## Values -/

/-- Where something stands that is no space, nothing is skipped. -/
theorem skipSpaces_cons {c : Char} (h : isSpace c = false) (t : Text) : skipSpaces (c :: t) = c :: t := by
  rw [skipSpaces, List.dropWhile_cons_of_neg (by simp [h])]

/-- The characters with which values begin. -/
def IsValueStart (c : Char) : Prop :=
  c = 't' ∨ c = 'f' ∨ c = '"' ∨ c = '[' ∨ c = '\x7b' ∨ c = '-' ∨ c.isDigit = true

theorem IsValueStart.not_space {c : Char} (h : IsValueStart c) : isSpace c = false ∧ c ≠ ']' := by
  have hdigit : c.isDigit = true → isSpace c = false ∧ c ≠ ']' := by
    intro hd
    simp only [isSpace, Bool.or_eq_false_iff, decide_eq_false_iff_not]
    refine ⟨⟨⟨⟨?_, ?_⟩, ?_⟩, ?_⟩, ?_⟩ <;> rintro rfl <;> exact absurd hd (by decide)
  rcases h with rfl | rfl | rfl | rfl | rfl | rfl | h
  case inr.inr.inr.inr.inr.inr => exact hdigit h
  all_goals decide

theorem head_write (v : Json) : ∃ c more, write v = c :: more ∧ IsValueStart c := by
  cases v with
  | boolean b =>
    cases b with
    | false => exact ⟨'f', "alse".toList, by simp [write], by simp [IsValueStart]⟩
    | true => exact ⟨'t', "rue".toList, by simp [write], by simp [IsValueStart]⟩
  | integer i =>
    cases i with
    | ofNat n =>
      obtain ⟨d, more, hcons, hd⟩ := head_ofNat n
      exact ⟨d, more, by rw [write, Text.ofInt, hcons], by simp [IsValueStart, hd]⟩
    | negSucc n => exact ⟨_, _, by rw [write, Text.ofInt], by simp [IsValueStart]⟩
  | string t => exact ⟨_, _, by rw [write, writeString, List.cons_append], by simp [IsValueStart]⟩
  | array items => exact ⟨_, _, by rw [write, List.cons_append], by simp [IsValueStart]⟩
  | object fields => exact ⟨_, _, by rw [write, List.cons_append], by simp [IsValueStart]⟩

theorem skipSpaces_write (v : Json) (rest : Text) : skipSpaces (write v ++ rest) = write v ++ rest := by
  obtain ⟨c, more, hcons, hc⟩ := head_write v
  rw [hcons, List.cons_append, skipSpaces_cons hc.not_space.1]

theorem skipSpaces_writeString (t rest : Text) :
    skipSpaces (writeString t ++ rest) = writeString t ++ rest := by
  have hskip := skipSpaces_write (.string t) rest
  rwa [write] at hskip

section

attribute [local simp] readValue

theorem readValue_boolean (n : Nat) (b : Bool) (rest : Text) :
    readValue (n + 1) (write (.boolean b) ++ rest) = some (.boolean b, rest) := by
  rw [readValue, skipSpaces_write]
  cases b <;> simp [write]

theorem readValue_emptyArray (n : Nat) (rest : Text) :
    readValue (n + 1) ('[' :: ']' :: rest) = some (.array [], rest) := by
  simp [skipSpaces_cons (c := '[') rfl, skipSpaces_cons (c := ']') rfl]

theorem readValue_emptyObject (n : Nat) (rest : Text) :
    readValue (n + 1) ('\x7b' :: '\x7d' :: rest) = some (.object [], rest) := by
  simp [skipSpaces_cons (c := '\x7b') rfl, skipSpaces_cons (c := '\x7d') rfl]

end

theorem readValue_integer (n : Nat) (i : Int) {rest : Text} (h : EndsNumber rest) :
    readValue (n + 1) (Text.ofInt i ++ rest) = some (.integer i, rest) := by
  have hread := readInteger?_ofInt i h
  have hskip := skipSpaces_write (.integer i) rest
  rw [write] at hskip
  obtain ⟨c, more, hcons, hc⟩ : ∃ c more, Text.ofInt i = c :: more ∧ (c = '-' ∨ c.isDigit = true) := by
    cases i with
    | ofNat n =>
      obtain ⟨d, more, hcons, hd⟩ := head_ofNat n
      exact ⟨d, more, hcons, Or.inr hd⟩
    | negSucc n => exact ⟨_, _, rfl, Or.inl rfl⟩
  -- a sign or a digit begins no other value
  have hother : c ≠ 't' ∧ c ≠ 'f' ∧ c ≠ '"' ∧ c ≠ '[' ∧ c ≠ '\x7b' := by
    refine ⟨?_, ?_, ?_, ?_, ?_⟩ <;> rintro rfl <;> exact absurd hc (by decide)
  rw [readValue, hskip]
  rw [hcons, List.cons_append] at hread ⊢
  split
  case h_1 heq => exact absurd (List.cons.inj heq).1 hother.1
  case h_2 heq => exact absurd (List.cons.inj heq).1 hother.2.1
  case h_3 heq => exact absurd (List.cons.inj heq).1 hother.2.2.1
  case h_4 heq => exact absurd (List.cons.inj heq).1 hother.2.2.2.1
  case h_5 heq => exact absurd (List.cons.inj heq).1 hother.2.2.2.2
  case h_6 => rw [hread]; rfl

theorem readValue_string (n : Nat) (t rest : Text) :
    readValue (n + 1) (writeString t ++ rest) = some (.string t, rest) := by
  have hread := readString?_writeString t rest
  have hcons : writeString t ++ rest = '"' :: (t.flatMap escapeChar ++ ['"'] ++ rest) := rfl
  rw [hcons] at hread ⊢
  rw [readValue, skipSpaces_cons rfl]
  simp only [hread]
  rfl

theorem readValue_array {n : Nat} {c : Char} {t rest : Text} {items : List Json} (hc : IsValueStart c)
    (h : readItems n (c :: t) = some (items, rest)) :
    readValue (n + 1) ('[' :: c :: t) = some (.array items, rest) := by
  rw [readValue, skipSpaces_cons rfl]
  simp only [skipSpaces_cons hc.not_space.1]
  split
  case h_1 heq => exact absurd (List.cons.inj heq).1 hc.not_space.2
  case h_2 => rw [h]; rfl

theorem readValue_object {n : Nat} {t rest : Text} {fields : List (Text × Json)}
    (h : readFields n ('"' :: t) = some (fields, rest)) :
    readValue (n + 1) ('\x7b' :: '"' :: t) = some (.object fields, rest) := by
  rw [readValue, skipSpaces_cons rfl]
  simp only [skipSpaces_cons (c := '"') rfl]
  split
  case h_1 heq => exact absurd (List.cons.inj heq).1 (by decide)
  case h_2 => rw [h]; rfl

theorem head_writeItems (item : Json) (items : List Json) :
    ∃ c more, writeItems (item :: items) = c :: more ∧ IsValueStart c := by
  obtain ⟨c, more, hcons, hc⟩ := head_write item
  cases items with
  | nil => exact ⟨c, more, by rw [writeItems, hcons], hc⟩
  | cons next items => exact ⟨c, _, by rw [writeItems, hcons]; rfl, hc⟩

theorem head_writeFields (field : Text × Json) (fields : List (Text × Json)) :
    ∃ more, writeFields (field :: fields) = '"' :: more := by
  obtain ⟨name, value⟩ := field
  cases fields with
  | nil => exact ⟨_, by rw [writeFields, writeString]; rfl⟩
  | cons next fields => exact ⟨_, by rw [writeFields, writeString]; rfl⟩

theorem endsNumber_cons {c : Char} (h : c.isDigit = false) (t : Text) : EndsNumber (c :: t) := by
  intro d hd
  obtain rfl : c = d := by simpa using hd
  exact h

/-- An item in front of the end of an array. -/
theorem readItems_last {n : Nat} {item : Json} {t rest : Text}
    (h : readValue n t = some (item, ']' :: rest)) :
    readItems (n + 1) t = some ([item], rest) := by
  simp only [readItems, h, Option.bind_eq_bind, Option.bind_some, skipSpaces_cons (c := ']') rfl]

/-- An item in front of others. -/
theorem readItems_more {n : Nat} {item : Json} {items : List Json} {t more rest : Text}
    (h : readValue n t = some (item, ',' :: more)) (hmore : readItems n more = some (items, rest)) :
    readItems (n + 1) t = some (item :: items, rest) := by
  simp only [readItems, h, Option.bind_eq_bind, Option.bind_some, skipSpaces_cons (c := ',') rfl, hmore]
  rfl

/-- Spaces in front of a value are skipped. -/
theorem readValue_space (n : Nat) (t : Text) : readValue n (' ' :: t) = readValue n t := by
  cases n with
  | zero => rfl
  | succ n =>
    have hskip : skipSpaces (' ' :: t) = skipSpaces t := rfl
    rw [readValue, readValue, hskip]

theorem readItems_space (n : Nat) (t : Text) : readItems n (' ' :: t) = readItems n t := by
  cases n with
  | zero => rfl
  | succ n => rw [readItems, readItems, readValue_space]

theorem readFields_space (n : Nat) (t : Text) : readFields n (' ' :: t) = readFields n t := by
  cases n with
  | zero => rfl
  | succ n =>
    have hskip : skipSpaces (' ' :: t) = skipSpaces t := rfl
    rw [readFields, readFields, hskip]

/-- A field in front of the end of an object. -/
theorem readFields_last {n : Nat} {name : Text} {value : Json} {t rest : Text}
    (h : readValue n t = some (value, '\x7d' :: rest)) :
    readFields (n + 1) (writeString name ++ ':' :: t) = some ([(name, value)], rest) := by
  simp only [readFields, skipSpaces_writeString, readString?_writeString, Option.bind_eq_bind,
    Option.bind_some, skipSpaces_cons (c := ':') rfl, h, skipSpaces_cons (c := '\x7d') rfl]

/-- A field in front of others. -/
theorem readFields_more {n : Nat} {name : Text} {value : Json} {fields : List (Text × Json)}
    {t more rest : Text} (h : readValue n t = some (value, ',' :: more))
    (hmore : readFields n more = some (fields, rest)) :
    readFields (n + 1) (writeString name ++ ':' :: t) = some ((name, value) :: fields, rest) := by
  simp only [readFields, skipSpaces_writeString, readString?_writeString, Option.bind_eq_bind,
    Option.bind_some, skipSpaces_cons (c := ':') rfl, h, skipSpaces_cons (c := ',') rfl, hmore]
  rfl

/-- What is written is read back in `n` steps, if it has no more characters and nothing that could belong
to it follows. -/
structure ReadsBack (n : Nat) : Prop where
  value : ∀ v rest, (write v).length ≤ n → EndsNumber rest →
    readValue n (write v ++ rest) = some (v, rest)
  items : ∀ item items rest, (writeItems (item :: items)).length < n →
    readItems n (writeItems (item :: items) ++ ']' :: rest) = some (item :: items, rest)
  fields : ∀ name value fields rest, (writeFields ((name, value) :: fields)).length < n →
    readFields n (writeFields ((name, value) :: fields) ++ '\x7d' :: rest)
      = some ((name, value) :: fields, rest)

namespace ReadsBack

variable {n : Nat}

theorem value_succ (h : ReadsBack n) (v : Json) (rest : Text) (hn : (write v).length ≤ n + 1)
    (hrest : EndsNumber rest) : readValue (n + 1) (write v ++ rest) = some (v, rest) := by
  match v with
  | .boolean b => exact readValue_boolean n b rest
  | .integer i =>
    rw [write]
    exact readValue_integer n i hrest
  | .string t =>
    rw [write]
    exact readValue_string n t rest
  | .array [] =>
    rw [write, writeItems]
    exact readValue_emptyArray n rest
  | .array (item :: items) =>
    -- the brackets leave enough steps for the items
    simp only [write, List.length_append, List.length_cons, List.length_nil] at hn
    have hitems := h.items item items rest (by omega)
    obtain ⟨c, more, hcons, hc⟩ := head_writeItems item items
    simp only [write, hcons, List.cons_append, List.append_assoc, List.nil_append] at hitems ⊢
    exact readValue_array hc hitems
  | .object [] =>
    rw [write, writeFields]
    exact readValue_emptyObject n rest
  | .object ((name, value) :: fields) =>
    simp only [write, List.length_append, List.length_cons, List.length_nil] at hn
    have hfields := h.fields name value fields rest (by omega)
    obtain ⟨more, hcons⟩ := head_writeFields (name, value) fields
    simp only [write, hcons, List.cons_append, List.append_assoc, List.nil_append] at hfields ⊢
    exact readValue_object hfields

theorem items_succ (h : ReadsBack n) (item : Json) (items : List Json) (rest : Text)
    (hn : (writeItems (item :: items)).length < n + 1) :
    readItems (n + 1) (writeItems (item :: items) ++ ']' :: rest) = some (item :: items, rest) := by
  cases items with
  | nil =>
    rw [writeItems] at hn ⊢
    exact readItems_last (h.value item _ (by omega) (endsNumber_cons rfl _))
  | cons next items =>
    have hcomma : (", ".toList : Text) = [',', ' '] := rfl
    simp only [writeItems, hcomma, List.length_append, List.length_cons, List.length_nil] at hn
    simp only [writeItems, hcomma, List.append_assoc, List.cons_append, List.nil_append]
    refine readItems_more (h.value item _ (by omega) (endsNumber_cons rfl _)) ?_
    rw [readItems_space]
    exact h.items next items rest (by omega)

theorem fields_succ (h : ReadsBack n) (name : Text) (value : Json) (fields : List (Text × Json))
    (rest : Text) (hn : (writeFields ((name, value) :: fields)).length < n + 1) :
    readFields (n + 1) (writeFields ((name, value) :: fields) ++ '\x7d' :: rest)
      = some ((name, value) :: fields, rest) := by
  have hcolon : (": ".toList : Text) = [':', ' '] := rfl
  have hcomma : (", ".toList : Text) = [',', ' '] := rfl
  cases fields with
  | nil =>
    simp only [writeFields, hcolon, List.length_append, List.length_cons, List.length_nil] at hn
    simp only [writeFields, hcolon, List.append_assoc, List.cons_append, List.nil_append]
    refine readFields_last ?_
    rw [readValue_space]
    exact h.value value _ (by omega) (endsNumber_cons rfl _)
  | cons field fields =>
    obtain ⟨next, other⟩ := field
    simp only [writeFields, hcolon, hcomma, List.length_append, List.length_cons, List.length_nil] at hn
    simp only [writeFields, hcolon, hcomma, List.append_assoc, List.cons_append, List.nil_append]
    have hmore := h.fields next other fields rest (by omega)
    rw [← readFields_space] at hmore
    refine readFields_more ?_ hmore
    rw [readValue_space]
    exact h.value value _ (by omega) (endsNumber_cons rfl _)

end ReadsBack

theorem readsBack (n : Nat) : ReadsBack n := by
  induction n with
  | zero =>
    -- no value is written without a character
    refine ⟨fun v rest hn => ?_, fun _ _ _ hn => absurd hn (by omega),
      fun _ _ _ _ hn => absurd hn (by omega)⟩
    obtain ⟨c, more, hcons, -⟩ := head_write v
    rw [hcons] at hn
    exact absurd hn (by simp)
  | succ n ih => exact ⟨ih.value_succ, ih.items_succ, ih.fields_succ⟩

/-- **A value is read back from what is written for it.** -/
theorem decode_write (v : Json) : decode (write v) = some v := by
  have hread := (readsBack ((write v).length + 1)).value v [] (by omega) (by simp [EndsNumber])
  rw [List.append_nil] at hread
  simp [decode, hread, skipSpaces]

/-! ## Printable characters -/

/-- Whether a character is printable ASCII. -/
def isPrintable (c : Char) : Bool :=
  0x20 ≤ c.toNat && c.toNat ≤ 0x7E

theorem isPrintable_of_isHexDigit {c : Char} (h : Text.isHexDigit c = true) : isPrintable c = true := by
  have hbetween : ∀ a b : Char, a ≤ c ∧ c ≤ b → 0x20 ≤ a.toNat → b.toNat ≤ 0x7E →
      isPrintable c = true := by
    intro a b hc ha hb
    have hac : a.toNat ≤ c.toNat := hc.1
    have hcb : c.toNat ≤ b.toNat := hc.2
    simp only [isPrintable, Bool.and_eq_true, decide_eq_true_eq]
    omega
  simp only [Text.isHexDigit, Bool.or_eq_true, Bool.and_eq_true, decide_eq_true_eq] at h
  rcases h with (h | h) | h
  · simp only [Char.isDigit, Bool.and_eq_true, decide_eq_true_eq] at h
    exact hbetween '0' '9' h (by decide) (by decide)
  · exact hbetween _ _ h (by decide) (by decide)
  · exact hbetween _ _ h (by decide) (by decide)

theorem escapeUnit_printable (n : Nat) : (escapeUnit n).all isPrintable = true := by
  have hdigits : (Text.ofNatHex 4 n).all isPrintable = true :=
    List.all_eq_true.mpr fun c hc => isPrintable_of_isHexDigit (Text.isHexDigit_ofNatHex 4 n c hc)
  simp only [escapeUnit, List.all_cons, hdigits]
  rfl

theorem escapeChar_printable (c : Char) : (escapeChar c).all isPrintable = true := by
  unfold escapeChar
  simp only
  split_ifs with _ _ _ _ _ _ _ hplain
  · rfl
  · rfl
  · rfl
  · rfl
  · rfl
  · rfl
  · rfl
  · simp only [List.all_cons, List.all_nil, Bool.and_true, isPrintable, Bool.and_eq_true,
      decide_eq_true_eq]
    omega
  · exact escapeUnit_printable _
  · rw [List.all_append, escapeUnit_printable, escapeUnit_printable]
    rfl

theorem writeString_printable (t : Text) : (writeString t).all isPrintable = true := by
  have hinside : (t.flatMap escapeChar).all isPrintable = true := by
    rw [List.all_flatMap]
    exact List.all_eq_true.mpr fun c _ => escapeChar_printable c
  simp only [writeString, List.cons_append, List.all_cons, List.all_append, hinside]
  rfl

theorem ofInt_printable (i : Int) : (Text.ofInt i).all isPrintable = true := by
  have hnat : ∀ n, (Text.ofNat n).all isPrintable = true := fun n =>
    List.all_eq_true.mpr fun c hc =>
      isPrintable_of_isHexDigit (Text.isHexDigit_toDigits (by decide) (by decide) n c hc)
  cases i with
  | ofNat n => exact hnat n
  | negSucc n =>
    simp only [Text.ofInt, List.all_cons, hnat]
    rfl

mutual

/-- **Everything that is written is printable**, whatever the texts of the value hold. -/
theorem write_printable (v : Json) : (write v).all isPrintable = true := by
  match v with
  | .boolean true => rw [write]; rfl
  | .boolean false => rw [write]; rfl
  | .integer i => rw [write]; exact ofInt_printable i
  | .string t => rw [write]; exact writeString_printable t
  | .array items =>
    simp only [write, List.cons_append, List.all_cons, List.all_append, writeItems_printable items]
    rfl
  | .object fields =>
    simp only [write, List.cons_append, List.all_cons, List.all_append, writeFields_printable fields]
    rfl

theorem writeItems_printable (items : List Json) : (writeItems items).all isPrintable = true := by
  match items with
  | [] => rw [writeItems]; rfl
  | [item] => rw [writeItems]; exact write_printable item
  | item :: next :: rest =>
    simp only [writeItems, List.all_append, write_printable item, writeItems_printable (next :: rest)]
    rfl

theorem writeFields_printable (fields : List (Text × Json)) :
    (writeFields fields).all isPrintable = true := by
  match fields with
  | [] => rw [writeFields]; rfl
  | [(name, value)] =>
    simp only [writeFields, List.all_append, writeString_printable, write_printable value]
    rfl
  | (name, value) :: next :: rest =>
    simp only [writeFields, List.all_append, writeString_printable, write_printable value,
      writeFields_printable (next :: rest)]
    rfl

end

end CrateSync.Json
