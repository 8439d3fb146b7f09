/-
# Encoding and reading back

The strict reading of UTF-8 and the encoding of texts are inverse to each other.  Both directions go
through the numbers of characters: a sequence that has begun determines the octets of every number
that can still complete it (`Begun.Sound`), and the scan of a character's octets passes through the
sequences begun by its number.

* `decode_encode` : a text is read back from its octets;
* `encode_of_decode` : octets that can be read are those of the text that was read;
* `decodeLossy_append` : the forgiving reading starts afresh at an octet that is a character by itself,
  whatever came before it.
-/
import Mathlib.Algebra.Ring.Nat
import Mathlib.Tactic.Common
import CrateSync.Text.Utf8

namespace CrateSync

namespace Text

theorem encode_append (t u : Text) : encode (t ++ u) = encode t ++ encode u := by
  simp [encode]

/-- A text has at least as many octets as characters. -/
theorem length_le_length_encode (t : Text) : t.length ≤ (encode t).length := by
  induction t with
  | nil => simp
  | cons c t ih =>
    have hc : 0 < c.utf8Size := Char.utf8Size_pos c
    simp only [encode, List.flatMap_cons, List.length_append, List.length_cons,
      String.length_utf8EncodeChar] at ih ⊢
    omega

end Text

namespace Utf8

/-! ## The octets of a number -/

/-- The last octets, so many of them, of the encoding of a number. -/
def tails : Nat → Nat → Octets
  | 0, _ => []
  | m + 1, n => UInt8.ofNat (n / 64 ^ m % 64 + 0x80) :: tails m n

/-- The octets of the character with a number. -/
def octetsOf (n : Nat) : Octets :=
  if n ≤ 0x7F then [UInt8.ofNat n]
  else if n ≤ 0x7FF then UInt8.ofNat (n / 64 % 32 + 0xC0) :: tails 1 n
  else if n ≤ 0xFFFF then UInt8.ofNat (n / 4096 % 16 + 0xE0) :: tails 2 n
  else UInt8.ofNat (n / 262144 % 8 + 0xF0) :: tails 3 n

theorem utf8EncodeChar_eq (c : Char) : String.utf8EncodeChar c = octetsOf c.toNat := by
  simp only [octetsOf, tails, Nat.pow_zero, Nat.pow_one, Nat.div_one]
  rfl

theorem toNat_ofNat_of_isValidChar {n : Nat} (h : n.isValidChar) : (Char.ofNat n).toNat = n := by
  rw [Char.ofNat, dif_pos h]
  rfl

theorem ofNat_eq_of_toNat {b : UInt8} {n : Nat} (h : n = b.toNat) : UInt8.ofNat n = b := by
  rw [h, UInt8.ofNat_toNat]

/-! ## Octets where no sequence has begun -/

section

variable {b : UInt8}

theorem start_one (h : b.toNat < 0x80) : start b = (some (.char (Char.ofNat b.toNat)), none) := by
  simp only [start, UInt8.lt_iff_toNat_lt]
  exact if_pos h

/-- An octet that begins a sequence of two. -/
theorem start_two (h : 0xC2 ≤ b.toNat) (h' : b.toNat < 0xE0) :
    start b = (none, some ⟨[b], b.toNat - 0xC0, 1, 0x80, 0xBF⟩) := by
  simp only [start, UInt8.lt_iff_toNat_lt, UInt8.reduceToNat]
  rw [if_neg (by omega), if_neg (by omega), if_pos h']

/-- An octet that begins a sequence of three: what comes next excludes what is shorter, and numbers
that are no characters. -/
theorem start_three (h : 0xE0 ≤ b.toNat) (h' : b.toNat < 0xF0) :
    start b = (none, some ⟨[b], b.toNat - 0xE0, 2, if b.toNat = 0xE0 then 0xA0 else 0x80,
      if b.toNat = 0xED then 0x9F else 0xBF⟩) := by
  simp only [start, UInt8.lt_iff_toNat_lt, beq_iff_eq, ← UInt8.toNat_inj, UInt8.reduceToNat]
  rw [if_neg (by omega), if_neg (by omega), if_neg (by omega)]
  by_cases hfirst : b.toNat = 0xE0
  · simp [hfirst]
  by_cases hlast : b.toNat = 0xED
  · simp [hlast]
  · simp [hfirst, hlast, h']

/-- An octet that begins a sequence of four: what comes next excludes what is shorter, and numbers
that are no characters. -/
theorem start_four (h : 0xF0 ≤ b.toNat) (h' : b.toNat ≤ 0xF4) :
    start b = (none, some ⟨[b], b.toNat - 0xF0, 3, if b.toNat = 0xF0 then 0x90 else 0x80,
      if b.toNat = 0xF4 then 0x8F else 0xBF⟩) := by
  simp only [start, UInt8.lt_iff_toNat_lt, beq_iff_eq, ← UInt8.toNat_inj, UInt8.reduceToNat]
  rw [if_neg (by omega), if_neg (by omega), if_neg (by omega), if_neg (by omega), if_neg (by omega),
    if_neg (by omega)]
  by_cases hfirst : b.toNat = 0xF0
  · simp [hfirst]
  by_cases hlast : b.toNat = 0xF4
  · simp [hlast]
  · rw [if_neg hfirst, if_pos (by omega), if_neg hfirst, if_neg hlast]

theorem start_bad (h : 0x80 ≤ b.toNat ∧ b.toNat < 0xC2 ∨ 0xF4 < b.toNat) :
    start b = (some (.illFormed [b] .badStart), none) := by
  simp only [start, UInt8.lt_iff_toNat_lt, beq_iff_eq, ← UInt8.toNat_inj, UInt8.reduceToNat]
  rw [if_neg (by omega)]
  by_cases h2 : b.toNat < 0xC2
  · rw [if_pos h2]
  · rw [if_neg h2, if_neg (by omega), if_neg (by omega), if_neg (by omega), if_neg (by omega),
      if_neg (by omega), if_neg (by omega), if_neg (by omega)]

end

/-! ## Reading back what was encoded -/

theorem toNat_ofNat_of_lt {n : Nat} (h : n < 256) : (UInt8.ofNat n).toNat = n :=
  UInt8.toNat_ofNat_of_lt' h

theorem le_toNat_ite {c : Prop} [Decidable c] {x y : UInt8} {k : Nat} (hx : c → k ≤ x.toNat)
    (hy : ¬c → k ≤ y.toNat) : k ≤ (if c then x else y).toNat := by
  by_cases hc : c
  · rw [if_pos hc]
    exact hx hc
  · rw [if_neg hc]
    exact hy hc

theorem toNat_ite_le {c : Prop} [Decidable c] {x y : UInt8} {k : Nat} (hx : c → x.toNat ≤ k)
    (hy : ¬c → y.toNat ≤ k) : (if c then x else y).toNat ≤ k := by
  by_cases hc : c
  · rw [if_pos hc]
    exact hx hc
  · rw [if_neg hc]
    exact hy hc

theorem div_pow_succ (n m : Nat) : n / 64 ^ (m + 1) = n / 64 ^ m / 64 := by
  rw [Nat.pow_succ, Nat.div_div_eq_div_mul]

/-- A scan reads the last octets of a number after a sequence that makes up its first digits. -/
theorem scan_tails (n m : Nat) (s : Begun) (hm : s.missing = m + 1)
    (hv : s.value = n / 64 ^ (m + 1)) (hlow : s.low.toNat ≤ n / 64 ^ m % 64 + 0x80)
    (hhigh : n / 64 ^ m % 64 + 0x80 ≤ s.high.toNat) (rest : Octets) :
    scan (some s) (tails (m + 1) n ++ rest) = .char (Char.ofNat n) :: scan none rest := by
  induction m generalizing s with
  | zero =>
    have hb := @toNat_ofNat_of_lt (n / 64 ^ 0 % 64 + 0x80) (by omega)
    have hvalue : s.value * 64 + (n / 64 ^ 0 % 64 + 0x80 - 0x80) = n := by
      rw [hv]
      simp only [Nat.zero_add, Nat.pow_one, Nat.pow_zero, Nat.div_one]
      omega
    simp only [tails, List.cons_append, scan, step, UInt8.le_iff_toNat_le, hb, hlow, hhigh, and_self,
      if_true, Begun.continue, hm, Nat.zero_add, Nat.le_refl, hvalue]
    rfl
  | succ m ih =>
    have hb := @toNat_ofNat_of_lt (n / 64 ^ (m + 1) % 64 + 0x80) (by omega)
    have hdigits := div_pow_succ n (m + 1)
    rw [tails, List.cons_append, scan]
    simp only [step, UInt8.le_iff_toNat_le, hb, hlow, hhigh, and_self, if_true, Begun.continue, hm]
    rw [if_neg (by omega)]
    -- behind the second octet any digit may follow
    refine ih _ rfl ?_ ?_ ?_
    · rw [hv]
      simp only
      omega
    · exact Nat.le_add_left _ _
    · have := Nat.mod_lt (n / 64 ^ m) (by decide : 0 < 64)
      exact Nat.le_trans (by omega) (Nat.le_refl 0xBF)

theorem scan_two {n : Nat} (h : 0x7F < n) (h' : n ≤ 0x7FF) (rest : Octets) :
    scan none (UInt8.ofNat (n / 64 % 32 + 0xC0) :: tails 1 n ++ rest)
      = .char (Char.ofNat n) :: scan none rest := by
  have hb := @toNat_ofNat_of_lt (n / 64 % 32 + 0xC0) (by omega)
  rw [List.cons_append, scan, step, start_two (by omega) (by omega), hb]
  refine scan_tails n 0 _ rfl ?_ ?_ ?_ rest
  · simp only [Nat.zero_add, Nat.pow_one]
    omega
  · exact Nat.le_add_left _ _
  · show n / 64 ^ 0 % 64 + 0x80 ≤ 0xBF
    omega

theorem scan_three {n : Nat} (h : 0x7FF < n) (h' : n ≤ 0xFFFF) (hv : n < 0xD800 ∨ 0xDFFF < n)
    (rest : Octets) :
    scan none (UInt8.ofNat (n / 4096 % 16 + 0xE0) :: tails 2 n ++ rest)
      = .char (Char.ofNat n) :: scan none rest := by
  have hb := @toNat_ofNat_of_lt (n / 4096 % 16 + 0xE0) (by omega)
  rw [List.cons_append, scan, step, start_three (by omega) (by omega), hb]
  refine scan_tails n 1 _ rfl ?_ ?_ ?_ rest
  · simp only [Nat.reduceAdd, Nat.reducePow]
    omega
  · refine toNat_ite_le (fun hfirst => ?_) fun _ => Nat.le_add_left _ _
    show 0xA0 ≤ n / 64 ^ 1 % 64 + 0x80
    omega
  · refine le_toNat_ite (fun hlast => ?_) fun _ => ?_
    · show n / 64 ^ 1 % 64 + 0x80 ≤ 0x9F
      omega
    · show n / 64 ^ 1 % 64 + 0x80 ≤ 0xBF
      omega

theorem scan_four {n : Nat} (h : 0xFFFF < n) (h' : n < 0x110000) (rest : Octets) :
    scan none (UInt8.ofNat (n / 262144 % 8 + 0xF0) :: tails 3 n ++ rest)
      = .char (Char.ofNat n) :: scan none rest := by
  have hb := @toNat_ofNat_of_lt (n / 262144 % 8 + 0xF0) (by omega)
  rw [List.cons_append, scan, step, start_four (by omega) (by omega), hb]
  refine scan_tails n 2 _ rfl ?_ ?_ ?_ rest
  · simp only [Nat.reduceAdd, Nat.reducePow]
    omega
  · refine toNat_ite_le (fun hfirst => ?_) fun _ => Nat.le_add_left _ _
    show 0x90 ≤ n / 64 ^ 2 % 64 + 0x80
    omega
  · refine le_toNat_ite (fun hlast => ?_) fun _ => ?_
    · show n / 64 ^ 2 % 64 + 0x80 ≤ 0x8F
      omega
    · show n / 64 ^ 2 % 64 + 0x80 ≤ 0xBF
      omega

/-- A scan reads the octets of a character as that character. -/
theorem scan_octetsOf {n : Nat} (h : n.isValidChar) (rest : Octets) :
    scan none (octetsOf n ++ rest) = .char (Char.ofNat n) :: scan none rest := by
  have hvalid : n < 0xD800 ∨ 0xDFFF < n ∧ n < 0x110000 := h
  unfold octetsOf
  by_cases h1 : n ≤ 0x7F
  · have hb := @toNat_ofNat_of_lt n (by omega)
    rw [if_pos h1, List.singleton_append, scan, step, start_one (by omega), hb]
    rfl
  by_cases h2 : n ≤ 0x7FF
  · rw [if_neg h1, if_pos h2, scan_two (by omega) h2]
  by_cases h3 : n ≤ 0xFFFF
  · rw [if_neg h1, if_neg h2, if_pos h3, scan_three (by omega) h3 (by omega)]
  · rw [if_neg h1, if_neg h2, if_neg h3, scan_four (by omega) (by omega)]

theorem scan_encode (t : Text) : scan none t.encode = t.map .char := by
  induction t with
  | nil => rfl
  | cons c t ih =>
    have henc : Text.encode (c :: t) = octetsOf c.toNat ++ Text.encode t := by
      simp [Text.encode, utf8EncodeChar_eq]
    rw [henc, show c.toNat = c.val.toNat from rfl, scan_octetsOf c.valid, ih]
    simp

theorem charsOf_map (before : Nat) (t : Text) : charsOf before (t.map .char) = .ok t := by
  induction t generalizing before with
  | nil => rfl
  | cons c t ih =>
    rw [List.map_cons, charsOf, ih]
    rfl

theorem eq_map_of_charsOf {before : Nat} {pieces : List Piece} {t : Text}
    (h : charsOf before pieces = .ok t) : pieces = t.map .char := by
  induction pieces generalizing before t with
  | nil =>
    obtain rfl : [] = t := by simpa [charsOf] using h
    rfl
  | cons piece rest ih =>
    cases piece with
    | illFormed octets defect => exact absurd h (by simp [charsOf])
    | char c =>
      rcases hr : charsOf (before + (Piece.char c).size) rest with e | t'
      · exact absurd h (by simp [charsOf, hr, Except.map])
      · obtain rfl : c :: t' = t := by simpa [charsOf, hr, Except.map] using h
        rw [List.map_cons, ← ih hr]

/-- **A text is read back from its octets.** -/
theorem decode_encode (t : Text) : decode t.encode = .ok t := by
  rw [decode, scan_encode, charsOf_map]

theorem encode_injective {t u : Text} (h : t.encode = u.encode) : t = u := by
  have ht := decode_encode t
  rw [h, decode_encode] at ht
  exact (Except.ok.inj ht).symm

/-! ## Octets that can be read -/

/-- What has been seen of a sequence are the first octets of every number that can complete it. -/
structure Begun.Sound (s : Begun) : Prop where
  missing_pos : 1 ≤ s.missing
  low : 0x80 ≤ s.low.toNat
  high : s.high.toNat ≤ 0xBF
  completes : ∀ n, n / 64 ^ s.missing = s.value →
    s.low.toNat ≤ n / 64 ^ (s.missing - 1) % 64 + 0x80 →
    n / 64 ^ (s.missing - 1) % 64 + 0x80 ≤ s.high.toNat →
    n.isValidChar ∧ octetsOf n = s.seen ++ tails s.missing n

/-- A sequence of three that has begun is sound if what comes next excludes what is shorter, and numbers
that are no characters. -/
theorem sound_three {b low high : UInt8} (hmin : 0xE0 ≤ b.toNat) (hmax : b.toNat < 0xF0)
    (hlow : 0x80 ≤ low.toNat) (hhigh : high.toNat ≤ 0xBF) (hfirst : b.toNat = 0xE0 → 0xA0 ≤ low.toNat)
    (hlast : b.toNat = 0xED → high.toNat ≤ 0x9F) :
    Begun.Sound ⟨[b], b.toNat - 0xE0, 2, low, high⟩ := by
  refine ⟨by simp, hlow, hhigh, fun n hn hl hh => ?_⟩
  simp only [Nat.reducePow, Nat.reduceSub] at hn hl hh
  have hvalid : n.isValidChar := by
    unfold Nat.isValidChar
    omega
  refine ⟨hvalid, ?_⟩
  rw [octetsOf, if_neg (by omega), if_neg (by omega), if_pos (by omega),
    ofNat_eq_of_toNat (b := b) (by omega)]
  rfl

/-- A sequence of four that has begun is sound if what comes next excludes what is shorter, and numbers
that are no characters. -/
theorem sound_four {b low high : UInt8} (hmin : 0xF0 ≤ b.toNat) (hmax : b.toNat ≤ 0xF4)
    (hlow : 0x80 ≤ low.toNat) (hhigh : high.toNat ≤ 0xBF) (hfirst : b.toNat = 0xF0 → 0x90 ≤ low.toNat)
    (hlast : b.toNat = 0xF4 → high.toNat ≤ 0x8F) :
    Begun.Sound ⟨[b], b.toNat - 0xF0, 3, low, high⟩ := by
  refine ⟨by simp, hlow, hhigh, fun n hn hl hh => ?_⟩
  simp only [Nat.reducePow, Nat.reduceSub] at hn hl hh
  refine ⟨Or.inr ⟨by omega, by omega⟩, ?_⟩
  rw [octetsOf, if_neg (by omega), if_neg (by omega), if_neg (by omega),
    ofNat_eq_of_toNat (b := b) (by omega)]
  rfl

/-- The octets of a scan that do not belong to a unit yet. -/
def seenOf : Option Begun → Octets
  | none => []
  | some s => s.seen

/-- What one octet does to a scan, of which the units are characters so far: the octets that were read
before it and itself are those of the characters and of the sequence that is then open. -/
structure Reads (before : Octets) (b : UInt8) (r : List Piece × Option Begun) : Prop where
  octets : ∀ t : Text, r.1 = t.map .char → before ++ [b] = t.encode ++ seenOf r.2
  sound : ∀ s, r.2 = some s → s.Sound

theorem encode_of_map {t u : Text} (h : t.map Piece.char = u.map .char) : t = u :=
  (List.map_inj_right fun _ _ h => Piece.char.inj h).mp h

theorem reads_char (before : Octets) (b : UInt8) {n : Nat} (hv : n.isValidChar)
    (h : octetsOf n = before ++ [b]) : Reads before b ([.char (Char.ofNat n)], none) := by
  refine ⟨fun t ht => ?_, by simp⟩
  obtain rfl := encode_of_map (show [Char.ofNat n].map Piece.char = t.map .char from ht)
  simp [Text.encode, seenOf, utf8EncodeChar_eq, toNat_ofNat_of_isValidChar hv, h]

theorem reads_begun (before : Octets) (b : UInt8) {s : Begun} (hs : s.Sound)
    (h : s.seen = before ++ [b]) : Reads before b ([], some s) := by
  refine ⟨fun t ht => ?_, fun s' hs' => Option.some.inj hs' ▸ hs⟩
  obtain rfl := encode_of_map (show List.map Piece.char [] = t.map .char from ht)
  simp [Text.encode, seenOf, h]

theorem reads_start (b : UInt8) : Reads [] b ((start b).1.toList, (start b).2) := by
  have hb := b.toNat_lt
  by_cases h1 : b.toNat < 0x80
  · rw [start_one h1]
    refine reads_char [] b (Or.inl (by omega)) ?_
    rw [octetsOf, if_pos (by omega), UInt8.ofNat_toNat]
    rfl
  by_cases h2 : b.toNat < 0xC2 ∨ 0xF4 < b.toNat
  · rw [start_bad (by omega)]
    refine ⟨fun t ht => ?_, by simp⟩
    cases t <;> simp at ht
  by_cases h3 : b.toNat < 0xE0
  · rw [start_two (by omega) h3]
    refine reads_begun [] b ⟨Nat.le_refl 1, Nat.le_refl _, Nat.le_refl _, fun n hn _ _ => ?_⟩ rfl
    simp only [Nat.pow_one] at hn
    refine ⟨Or.inl (by omega), ?_⟩
    rw [octetsOf, if_neg (by omega), if_pos (by omega), ofNat_eq_of_toNat (b := b) (by omega)]
    rfl
  by_cases h4 : b.toNat < 0xF0
  · rw [start_three (by omega) h4]
    refine reads_begun [] b (sound_three (by omega) h4 ?_ ?_ ?_ ?_) rfl
    · exact le_toNat_ite (fun _ => by decide) fun _ => by decide
    · exact toNat_ite_le (fun _ => by decide) fun _ => by decide
    · exact fun h => le_toNat_ite (fun _ => by decide) (absurd h)
    · exact fun h => toNat_ite_le (fun _ => by decide) (absurd h)
  · rw [start_four (by omega) (by omega)]
    refine reads_begun [] b (sound_four (by omega) (by omega) ?_ ?_ ?_ ?_) rfl
    · exact le_toNat_ite (fun _ => by decide) fun _ => by decide
    · exact toNat_ite_le (fun _ => by decide) fun _ => by decide
    · exact fun h => le_toNat_ite (fun _ => by decide) (absurd h)
    · exact fun h => toNat_ite_le (fun _ => by decide) (absurd h)

theorem reads_continue {s : Begun} (hs : s.Sound) {b : UInt8} (hlow : s.low ≤ b)
    (hhigh : b ≤ s.high) : Reads s.seen b ((s.continue b).1.toList, (s.continue b).2) := by
  have hdigit := hs.low
  have hlast := hs.high
  rw [UInt8.le_iff_toNat_le] at hlow hhigh
  obtain ⟨m, hm⟩ : ∃ m, s.missing = m + 1 := ⟨s.missing - 1, by have := hs.missing_pos; omega⟩
  have hall := hs.completes
  simp only [hm, Nat.add_sub_cancel] at hall
  unfold Begun.continue
  cases m with
  | zero =>
    obtain ⟨hv, ho⟩ := hall (s.value * 64 + (b.toNat - 0x80)) (by omega) (by omega) (by omega)
    rw [if_pos (by omega)]
    refine reads_char s.seen b hv ?_
    rw [ho, tails, tails, ofNat_eq_of_toNat (b := b) (by omega)]
  | succ m =>
    rw [if_neg (by omega)]
    refine reads_begun s.seen b ⟨by simp [hm], Nat.le_refl _, Nat.le_refl _, fun n hn _ _ => ?_⟩ rfl
    have hdigits := div_pow_succ n (m + 1)
    simp only [hm, Nat.add_sub_cancel] at hn ⊢
    obtain ⟨hv, ho⟩ := hall n (by omega) (by omega) (by omega)
    refine ⟨hv, ?_⟩
    rw [ho, tails, ofNat_eq_of_toNat (b := b) (by omega), List.append_assoc, List.singleton_append]

/-- **What one octet does to a scan** that has found characters only so far. -/
theorem reads_step {state : Option Begun} (hs : ∀ s, state = some s → s.Sound) (b : UInt8) :
    Reads (seenOf state) b (step state b) := by
  cases state with
  | none => exact reads_start b
  | some s =>
    by_cases hin : s.low ≤ b ∧ b ≤ s.high
    · simp only [step, if_pos hin]
      exact reads_continue (hs s rfl) hin.1 hin.2
    · simp only [step, if_neg hin]
      refine ⟨fun t ht => ?_, (reads_start b).sound⟩
      cases t <;> simp at ht

theorem encode_of_scan {state : Option Begun} (hs : ∀ s, state = some s → s.Sound)
    {octets : Octets} {t : Text} (h : scan state octets = t.map .char) :
    seenOf state ++ octets = t.encode := by
  induction octets generalizing state t with
  | nil =>
    cases state with
    | none =>
      obtain rfl := encode_of_map (show List.map Piece.char [] = t.map .char from h)
      rfl
    | some s => cases t <;> simp [scan] at h
  | cons b rest ih =>
    rw [scan] at h
    obtain ⟨t₁, t₂, rfl, h₁, h₂⟩ := List.append_eq_map_iff.mp h
    have hread := reads_step hs b
    have hrest := ih hread.sound h₂.symm
    have hoctets := hread.octets t₁ h₁.symm
    rw [Text.encode, List.flatMap_append, ← Text.encode, ← Text.encode, ← hrest, ← List.append_assoc,
      ← hoctets]
    simp

/-- **Octets that can be read are those of the text that was read.** -/
theorem encode_of_decode {octets : Octets} {t : Text} (h : decode octets = .ok t) :
    t.encode = octets := by
  have hnone : ∀ s : Begun, none = some s → s.Sound := by simp
  exact (encode_of_scan hnone (eq_map_of_charsOf h)).symm

/-! ## Octets read forgivingly -/

/-- An octet that is a character by itself ends the sequence that has begun, if there is one, as the end
of the octets would. -/
theorem shown_step {state : Option Begun} (hs : ∀ s, state = some s → s.Sound) {b : UInt8}
    (hb : b.toNat < 0x80) :
    (step state b).1.map Piece.shown = (scan state []).map Piece.shown ++ [Char.ofNat b.toNat]
      ∧ (step state b).2 = none := by
  cases state with
  | none =>
    rw [step, start_one hb]
    exact ⟨rfl, rfl⟩
  | some s =>
    have hout : ¬(s.low ≤ b ∧ b ≤ s.high) := by
      have hlow := (hs s rfl).low
      rw [UInt8.le_iff_toNat_le]
      omega
    rw [step, if_neg hout, start_one hb]
    exact ⟨rfl, rfl⟩

theorem shown_scan_append {state : Option Begun} (hs : ∀ s, state = some s → s.Sound) {b : UInt8}
    (hb : b.toNat < 0x80) (octets rest : Octets) :
    (scan state (octets ++ b :: rest)).map Piece.shown
      = (scan state octets).map Piece.shown ++ Char.ofNat b.toNat :: decodeLossy rest := by
  induction octets generalizing state with
  | nil =>
    obtain ⟨hshown, hnext⟩ := shown_step hs hb
    rw [List.nil_append, scan, List.map_append, hshown, hnext, List.append_assoc,
      List.singleton_append, decodeLossy]
  | cons first octets ih =>
    rw [List.cons_append, scan, scan, List.map_append, List.map_append, ih (reads_step hs first).sound,
      List.append_assoc]

/-- **The forgiving reading starts afresh at an octet that is a character by itself.** -/
theorem decodeLossy_append {b : UInt8} (hb : b.toNat < 0x80) (octets rest : Octets) :
    decodeLossy (octets ++ b :: rest)
      = decodeLossy octets ++ Char.ofNat b.toNat :: decodeLossy rest :=
  shown_scan_append (by simp) hb octets rest

end Utf8

end CrateSync
