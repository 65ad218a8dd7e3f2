import Chip8.Text.DecimalDigit
import Chip8.Text.Numeral
import Mathlib.Algebra.GroupWithZero.Nat

namespace Chip8.Text

/-!
# Numerals read back

A numeral of any base up to sixteen can be read back, so that it stands for one number only.

* `digitOf?`, `readDigits?`, `numeral?` — the number that some digits stand for;
* `numeral?_digits`, `numeral?_hexChars`, `numeral?_decimalChars` — numerals are read as their
  numbers;
* `isSome_of_mem_numeral` — a numeral consists of digits and nothing else;
* `length_hexChars` — the length of a numeral that is not too large for its width;
* `signed?`, `signed?_decimalChars`, `signed?_hexChars` — so are integers of either sign.
-/

/-- The value of a digit in a base. -/
def digitOf? (base : Nat) (c : Char) : Option Nat := (hexDigit? c).filter (· < base)

/-- The value of some digits that stand behind others of value `value`. -/
def readDigits? (base value : Nat) : List Char → Option Nat
  | [] => some value
  | c :: rest =>
    match digitOf? base c with
    | some d => readDigits? base (base * value + d) rest
    | none => none

/-- The number that a numeral stands for; there is no numeral without digits. -/
def numeral? (base : Nat) : List Char → Option Nat
  | [] => none
  | c :: rest => readDigits? base 0 (c :: rest)

variable {base : Nat}

/-! ### Digits -/

/-- A digit is read as its value. -/
theorem digitOf?_digitChar {d : Nat} (hbase : base ≤ 16) (h : d < base) :
    digitOf? base (digitChar d) = some d := by
  have hread : ∀ d < 16, hexDigit? (digitChar d) = some d := by decide
  simp [digitOf?, hread d (by omega), h]

/-- The first digits are read first. -/
theorem readDigits?_append (value : Nat) (front back : List Char) :
    readDigits? base value (front ++ back) =
      (readDigits? base value front).bind fun value => readDigits? base value back := by
  induction front generalizing value with
  | nil => rfl
  | cons c rest ih =>
    simp only [List.cons_append, readDigits?]
    cases digitOf? base c with
    | none => rfl
    | some d => exact ih _

/-- What is read consists of digits. -/
theorem isSome_of_mem_readDigits {value n : Nat} {cs : List Char} (h : readDigits? base value cs = some n)
    {c : Char} (hc : c ∈ cs) : (digitOf? base c).isSome = true := by
  induction cs generalizing value with
  | nil => cases hc
  | cons first rest ih =>
    rw [readDigits?] at h
    cases hfirst : digitOf? base first with
    | none =>
      rw [hfirst] at h
      exact nomatch h
    | some d =>
      rw [hfirst] at h
      rcases List.mem_cons.mp hc with rfl | hc
      · rw [hfirst]
        rfl
      · exact ih h hc

/-! ### Numerals -/

/-- The digits of a number are read as the number. -/
theorem readDigits?_digits (h₂ : 2 ≤ base) (h₁₆ : base ≤ 16) (n : Nat) :
    readDigits? base 0 (digits base n) = some n := by
  -- The last digit is the remainder, and those before it are the digits of the quotient.
  fun_induction digits base n with
  | case1 n hsmall =>
    have hn : n < base := by omega
    simp [readDigits?, digitOf?_digitChar h₁₆ hn]
  | case2 n hlarge _ ih =>
    have hremainder : n % base < base := Nat.mod_lt n (by omega)
    rw [readDigits?_append, ih]
    simp [readDigits?, digitOf?_digitChar h₁₆ hremainder, Nat.div_add_mod]

/-- Zeros in front make no difference. -/
theorem readDigits?_zeros (hbase : 0 < base) (h₁₆ : base ≤ 16) (count : Nat) (cs : List Char) :
    readDigits? base 0 (List.replicate count '0' ++ cs) = readDigits? base 0 cs := by
  induction count with
  | zero => rfl
  | succ count ih =>
    have hzero : digitOf? base '0' = some 0 := digitOf?_digitChar h₁₆ hbase
    simp only [List.replicate_succ, List.cons_append, readDigits?, hzero, Nat.mul_zero, Nat.add_zero]
    exact ih

/-- A numeral is read digit by digit. -/
theorem numeral?_of_ne_nil {cs : List Char} (h : cs ≠ []) : numeral? base cs = readDigits? base 0 cs := by
  cases cs with
  | nil => exact absurd rfl h
  | cons c rest => rfl

/-- The digits of a number are a numeral of the number. -/
theorem numeral?_digits (h₂ : 2 ≤ base) (h₁₆ : base ≤ 16) (n : Nat) :
    numeral? base (digits base n) = some n := by
  rw [numeral?_of_ne_nil (digits_ne_nil base n), readDigits?_digits h₂ h₁₆]

/-- A number in base ten is read back. -/
theorem numeral?_decimalChars (n : Nat) : numeral? 10 (decimalChars n) = some n :=
  numeral?_digits (by decide) (by decide) n

/-- A number in base sixteen is read back. -/
theorem numeral?_hexChars (width n : Nat) : numeral? 16 (hexChars width n) = some n := by
  have hchars : hexChars width n =
      List.replicate (width - (digits 16 n).length) '0' ++ digits 16 n := rfl
  have hne : hexChars width n ≠ [] := by
    rw [hchars]
    exact List.append_ne_nil_of_right_ne_nil _ (digits_ne_nil 16 n)
  rw [numeral?_of_ne_nil hne, hchars, readDigits?_zeros (by decide) (by decide),
    readDigits?_digits (by decide) (by decide)]

/-- A numeral consists of digits. -/
theorem isSome_of_mem_numeral {n : Nat} {cs : List Char} (h : numeral? base cs = some n) {c : Char}
    (hc : c ∈ cs) : (digitOf? base c).isSome = true := by
  rw [numeral?_of_ne_nil (List.ne_nil_of_mem hc)] at h
  exact isSome_of_mem_readDigits h hc

/-! ### Lengths -/

/-- A number below a power of the base has no more digits than that. -/
theorem length_digits_le (h₂ : 2 ≤ base) {width n : Nat} (hwidth : 0 < width) (h : n < base ^ width) :
    (digits base n).length ≤ width := by
  induction width generalizing n with
  | zero => exact absurd hwidth (Nat.lt_irrefl 0)
  | succ width ih =>
    by_cases hn : n < base
    · simp [digits_of_lt hn]
    · have hle : base ≤ n := Nat.le_of_not_lt hn
      have hquotient : n / base < base ^ width := by
        rw [Nat.div_lt_iff_lt_mul (by omega), ← Nat.pow_succ]
        exact h
      -- A number of several digits leaves some for the quotient.
      have hpositive : 0 < width := by
        rcases Nat.eq_zero_or_pos width with rfl | hpos
        · simp at h
          omega
        · exact hpos
      have hfront := ih hpositive hquotient
      rw [digits_of_le h₂ hle, List.length_append, List.length_singleton]
      omega

/-- A number that is not too large for the width takes up just this width. -/
theorem length_hexChars {width n : Nat} (hwidth : 0 < width) (h : n < 16 ^ width) :
    (hexChars width n).length = width := by
  have hdigits : (digits 16 n).length ≤ width := length_digits_le (by decide) hwidth h
  show ((digits 16 n).leftpad width '0').length = width
  rw [List.leftpad, List.length_append, List.length_replicate]
  omega

/-! ### Signs -/

/-- The number that a numeral stands for, with a minus sign in front where it is negative. -/
def signed? (base : Nat) : List Char → Option Int
  | '-' :: cs => (numeral? base cs).map fun n : Nat => -(n : Int)
  | cs => (numeral? base cs).map fun n : Nat => (n : Int)

/-- A numeral without a sign is read as it stands: no digit is a sign. -/
theorem signed?_of_numeral {n : Nat} {cs : List Char} (h : numeral? base cs = some n) :
    signed? base cs = some (n : Int) := by
  unfold signed?
  split
  · next rest =>
    have hdigit := isSome_of_mem_numeral h (List.mem_cons_self (a := '-') (l := rest))
    have hsign : hexDigit? '-' = none := by decide
    simp [digitOf?, hsign] at hdigit
  · rw [h]
    rfl

/-- A numeral behind a minus sign is read as a negative number. -/
theorem signed?_minus {n : Nat} {cs : List Char} (h : numeral? base cs = some n) :
    signed? base ('-' :: cs) = some (-(n : Int)) := by
  rw [signed?, h]
  rfl

/-- Every integer is read back from base ten. -/
theorem signed?_decimalChars (z : Int) : signed? 10 (decimalChars z) = some z := by
  cases z with
  | ofNat n => exact signed?_of_numeral (numeral?_decimalChars n)
  | negSucc n => exact signed?_minus (numeral?_decimalChars (n + 1))

/-- Every integer is read back from base sixteen, whatever the width. -/
theorem signed?_hexChars (width : Nat) (z : Int) : signed? 16 (hexChars width z) = some z := by
  cases z with
  | ofNat n => exact signed?_of_numeral (numeral?_hexChars width n)
  -- The sign takes one character of the width.
  | negSucc n => exact signed?_minus (numeral?_hexChars (width - 1) (n + 1))

/-- What is read as an integer consists of digits and a sign. -/
theorem digit_of_mem_signed {z : Int} {cs : List Char} (h : signed? base cs = some z) {c : Char}
    (hc : c ∈ cs) : c = '-' ∨ (digitOf? base c).isSome = true := by
  unfold signed? at h
  split at h
  · obtain ⟨n, hn, -⟩ := Option.map_eq_some_iff.mp h
    rcases List.mem_cons.mp hc with rfl | hc
    · exact .inl rfl
    · exact .inr (isSome_of_mem_numeral hn hc)
  · obtain ⟨n, hn, -⟩ := Option.map_eq_some_iff.mp h
    exact .inr (isSome_of_mem_numeral hn hc)

end Chip8.Text
