/-
# Reading numerals back

Numerals and the numbers that they write, in any base up to sixteen.

* `digitsValue_toDigits` : a numeral writes the number that it is the numeral of;
* `length_ofNatHex`, `digitsValue_ofNatHex` : the same for numerals filled up with zeros;
* `eq_zero_of_head?` : no numeral but that of zero begins with a zero;
* `ofInt_injective` : integers have different numerals.
-/
import Mathlib.Tactic.Common
import CrateSync.Text.Basic

namespace CrateSync.Text

/-! ## Digits -/

theorem digitValue_digitChar : ∀ d < 16, digitValue (Nat.digitChar d) = d := by
  decide

theorem isHexDigit_digitChar : ∀ d < 16, isHexDigit (Nat.digitChar d) = true := by
  decide

theorem digitsValue_append (base : Nat) (t : Text) (c : Char) :
    digitsValue base (t ++ [c]) = digitsValue base t * base + digitValue c := by
  simp [digitsValue]

/-- Zeros in front of a numeral count for nothing. -/
theorem digitsValue_replicate (base n : Nat) (t : Text) :
    digitsValue base (List.replicate n '0' ++ t) = digitsValue base t := by
  induction n with
  | zero => rfl
  | succ n ih =>
    rw [List.replicate_succ, List.cons_append]
    have hzero : digitsValue base ('0' :: (List.replicate n '0' ++ t))
        = digitsValue base (List.replicate n '0' ++ t) := by
      simp [digitsValue, digitValue]
    rw [hzero, ih]

/-! ## Numerals -/

section

variable {base : Nat}

/-- What holds of digits, and of a numeral with a digit behind it if it holds of the numeral, holds of all
numerals. -/
theorem toDigits_induction (hbase : 1 < base) {P : Nat → Text → Prop}
    (digit : ∀ n < base, P n [Nat.digitChar n])
    (more : ∀ n, base ≤ n → P (n / base) (Nat.toDigits base (n / base)) →
      P n (Nat.toDigits base (n / base) ++ [Nat.digitChar (n % base)]))
    (n : Nat) : P n (Nat.toDigits base n) := by
  induction n using Nat.strongRecOn with
  | ind n ih =>
    rw [Nat.toDigits_eq_if hbase]
    split_ifs with hn
    · exact digit n hn
    · exact more n (by omega) (ih (n / base) (Nat.div_lt_self (by omega) hbase))

/-- **A numeral writes the number that it is the numeral of.** -/
theorem digitsValue_toDigits (hbase : 1 < base) (h16 : base ≤ 16) (n : Nat) :
    digitsValue base (Nat.toDigits base n) = n := by
  refine toDigits_induction hbase (P := fun n t => digitsValue base t = n) ?_ ?_ n
  · intro d hd
    simp [digitsValue, digitValue_digitChar d (by omega)]
  · intro n _ ih
    have hmod : n % base < base := Nat.mod_lt _ (by omega)
    rw [digitsValue_append, ih, digitValue_digitChar _ (by omega), Nat.mul_comm]
    exact Nat.div_add_mod n base

theorem isHexDigit_toDigits (hbase : 1 < base) (h16 : base ≤ 16) (n : Nat) :
    ∀ c ∈ Nat.toDigits base n, isHexDigit c = true := by
  refine toDigits_induction hbase (P := fun _ t => ∀ c ∈ t, isHexDigit c = true) ?_ ?_ n
  · intro d hd c hc
    rw [List.mem_singleton.mp hc]
    exact isHexDigit_digitChar d (by omega)
  · intro n _ ih c hc
    have hmod : n % base < base := Nat.mod_lt _ (by omega)
    rcases List.mem_append.mp hc with hc | hc
    · exact ih c hc
    · rw [List.mem_singleton.mp hc]
      exact isHexDigit_digitChar _ (by omega)

end

theorem digitsValue_ofNat (n : Nat) : digitsValue 10 (ofNat n) = n :=
  digitsValue_toDigits (by decide) (by decide) n

theorem isDigit_ofNat (n : Nat) : ∀ c ∈ ofNat n, c.isDigit = true := fun _ hc =>
  Nat.isDigit_of_mem_toDigits (by decide) (by decide) hc

theorem ofNat_ne_nil (n : Nat) : ofNat n ≠ [] :=
  List.length_pos_iff.mp Nat.length_toDigits_pos

/-- No numeral but that of zero begins with a zero. -/
theorem eq_zero_of_head? (n : Nat) : (ofNat n).head? = some '0' → n = 0 := by
  have hdigit : ∀ d < 10, Nat.digitChar d = '0' → d = 0 := by decide
  refine toDigits_induction (by decide) (P := fun n t => t.head? = some '0' → n = 0) ?_ ?_ n
  · intro d hd h
    exact hdigit d hd (by simpa using h)
  · intro n hn ih h
    have hfront : (Nat.toDigits 10 (n / 10)).head? = some '0' := by
      cases hd : Nat.toDigits 10 (n / 10) with
      | nil => exact absurd hd (ofNat_ne_nil (n / 10))
      | cons c rest => simpa [hd] using h
    have hzero := ih hfront
    omega

theorem ofNat_injective : Function.Injective ofNat :=
  Function.LeftInverse.injective digitsValue_ofNat

/-! ## Numerals of integers -/

/-- The numeral of a natural number has no minus sign. -/
theorem ofNat_ne_minus (n : Nat) (t : Text) : ofNat n ≠ '-' :: t := by
  intro h
  exact absurd (isDigit_ofNat n '-' (by rw [h]; exact List.mem_cons_self)) (by decide)

/-- **Integers have different numerals.** -/
theorem ofInt_injective : Function.Injective ofInt := by
  intro i j h
  cases i with
  | ofNat n =>
    cases j with
    | ofNat m => exact congrArg Int.ofNat (ofNat_injective h)
    | negSucc m => exact absurd h (ofNat_ne_minus n _)
  | negSucc n =>
    cases j with
    | ofNat m => exact absurd h.symm (ofNat_ne_minus m _)
    | negSucc m =>
      have hsucc : n + 1 = m + 1 := ofNat_injective (List.cons.inj h).2
      rw [Nat.succ.inj hsucc]

/-- The numeral of an integer consists of digits and perhaps a minus sign. -/
theorem isDigit_ofInt (i : Int) : ∀ c ∈ ofInt i, c = '-' ∨ c.isDigit = true := by
  intro c hc
  cases i with
  | ofNat n => exact Or.inr (isDigit_ofNat n c hc)
  | negSucc n =>
    rcases List.mem_cons.mp hc with rfl | hc
    · exact Or.inl rfl
    · exact Or.inr (isDigit_ofNat (n + 1) c hc)

/-! ## Numerals of four hexadecimal digits -/

theorem length_ofNatHex {n : Nat} (h : n < 0x10000) : (ofNatHex 4 n).length = 4 := by
  have hlength : (Nat.toDigits 16 n).length ≤ 4 :=
    (Nat.length_toDigits_le_iff (by decide) (by decide)).mpr h
  simp only [ofNatHex, List.length_append, List.length_replicate]
  omega

theorem digitsValue_ofNatHex (width n : Nat) : digitsValue 16 (ofNatHex width n) = n := by
  rw [ofNatHex, digitsValue_replicate]
  exact digitsValue_toDigits (by decide) (by decide) n

theorem isHexDigit_ofNatHex (width n : Nat) : ∀ c ∈ ofNatHex width n, isHexDigit c = true := by
  intro c hc
  rcases List.mem_append.mp hc with hc | hc
  · rw [List.eq_of_mem_replicate hc]
    rfl
  · exact isHexDigit_toDigits (by decide) (by decide) n c hc

end CrateSync.Text
