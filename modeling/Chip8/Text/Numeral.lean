namespace Chip8.Text

/-!
# Numerals

Numbers as text, in the two bases the program prints.

* `digits base n` — the digits of `n`, most significant first, with the letters in upper case;
* `decimal z` — an integer in base ten, a minus sign in front of a negative one;
* `hex width z` — an integer in base sixteen, zeros filling it up to `width` characters.  The minus
  sign counts as one of them, and a number that needs more characters is not cut.
-/

/-- The character of one digit below 36. -/
def digitChar (d : Nat) : Char :=
  if d < 10 then Char.ofNat (48 + d) else Char.ofNat (55 + d)

/-- The digits of `n` in base `base`, most significant first.  A base below two has no digits to
    divide by, so `n` is then taken as one digit. -/
def digits (base n : Nat) : List Char :=
  if h : base < 2 ∨ n < base then [digitChar n]
  else
    have : n / base < n := Nat.div_lt_self (by omega) (by omega)
    digits base (n / base) ++ [digitChar (n % base)]
termination_by n

/-- A number below the base is its own only digit. -/
theorem digits_of_lt {base n : Nat} (h : n < base) : digits base n = [digitChar n] := by
  rw [digits, dif_pos (Or.inr h)]

/-- A larger number ends in its remainder. -/
theorem digits_of_le {base n : Nat} (hb : 2 ≤ base) (h : base ≤ n) :
    digits base n = digits base (n / base) ++ [digitChar (n % base)] := by
  rw [digits, dif_neg (by omega)]

/-- A numeral is never empty. -/
theorem digits_ne_nil (base n : Nat) : digits base n ≠ [] := by
  rw [digits]
  split <;> simp

/-- An integer in base ten. -/
def decimalChars : Int → List Char
  | .ofNat n => digits 10 n
  | .negSucc n => '-' :: digits 10 (n + 1)

/-- An integer in base sixteen, filled up with zeros to `width` characters, sign included. -/
def hexChars (width : Nat) : Int → List Char
  | .ofNat n => (digits 16 n).leftpad width '0'
  | .negSucc n => '-' :: (digits 16 (n + 1)).leftpad (width - 1) '0'

/-- `decimalChars` as a string. -/
def decimal (z : Int) : String := String.ofList (decimalChars z)

/-- `hexChars` as a string. -/
def hex (width : Nat) (z : Int) : String := String.ofList (hexChars width z)

/-- The characters of a decimal numeral. -/
@[simp] theorem toList_decimal (z : Int) : (decimal z).toList = decimalChars z :=
  String.toList_ofList

/-- The characters of a hexadecimal numeral. -/
@[simp] theorem toList_hex (width : Nat) (z : Int) : (hex width z).toList = hexChars width z :=
  String.toList_ofList

end Chip8.Text
