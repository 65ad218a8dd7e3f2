namespace Chip8.Text

/-!
# Decimal digits of all scripts

Unicode keeps the ten decimal digits of a script in one stretch, from its zero up.

* `digitZeros` — the zeros of Unicode 14;
* `decimalDigit?` — the value of a decimal digit of any script;
* `hexDigit?` — the value of a base-sixteen digit: a decimal digit of any script, or a Latin letter
  from `a` to `f` in either case.
-/

/-- The code points of the digit zero in every script, ascending. -/
def digitZeros : List Nat :=
  [
    48, 1632, 1776, 1984, 2406, 2534, 2662, 2790, 2918, 3046, 3174, 3302, 3430, 3558, 3664, 3792,
    3872, 4160, 4240, 6112, 6160, 6470, 6608, 6784, 6800, 6992, 7088, 7232, 7248, 42528, 43216,
    43264, 43472, 43504, 43600, 44016, 65296, 66720, 68912, 69734, 69872, 69942, 70096, 70384,
    70736, 70864, 71248, 71360, 71472, 71904, 72016, 72784, 73040, 73120, 92768, 92864, 93008,
    120782, 120792, 120802, 120812, 120822, 123200, 123632, 125264, 130032
  ]

/-- The value of a decimal digit. -/
def decimalDigit? (c : Char) : Option Nat :=
  (digitZeros.find? (fun start => decide (start ≤ c.toNat) && decide (c.toNat < start + 10))).map
    (fun start => c.toNat - start)

/-- A decimal digit is below ten. -/
theorem lt_ten_of_decimalDigit? {c : Char} {d : Nat} (h : decimalDigit? c = some d) : d < 10 := by
  obtain ⟨start, hs, rfl⟩ := Option.map_eq_some_iff.1 h
  have := List.find?_some hs
  simp at this
  omega

/-- The value of a base-sixteen digit. -/
def hexDigit? (c : Char) : Option Nat :=
  if 97 ≤ c.toNat ∧ c.toNat ≤ 102 then some (c.toNat - 87)
  else if 65 ≤ c.toNat ∧ c.toNat ≤ 70 then some (c.toNat - 55)
  else decimalDigit? c

/-- A base-sixteen digit is below sixteen. -/
theorem lt_sixteen_of_hexDigit? {c : Char} {d : Nat} (h : hexDigit? c = some d) : d < 16 := by
  unfold hexDigit? at h
  split at h
  · cases h; omega
  · split at h
    · cases h; omega
    · have := lt_ten_of_decimalDigit? h; omega

end Chip8.Text
