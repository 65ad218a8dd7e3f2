namespace Chip8.Text

/-!
# Lone halves

Characters beyond the first 65536 are written as pairs of units, and a host's text may hold one half
of a pair without the other.  No character stands for such a half, so it is kept as a character of
private use, from which its number can be had again.

* `isHalf`, `ofHalf`, `half?` — the halves, and the characters that stand for them;
* `half?_ofHalf` — a half is read back from the character that stands for it;
* `standsForByte`, `byteLength` — how a system takes names with halves.
-/

/-- Whether a unit is one half of a pair. -/
def isHalf (unit : Nat) : Bool := decide (0xD800 ≤ unit) && decide (unit < 0xE000)

/-- How far behind the halves the characters lie that stand for them. -/
def halfDistance : Nat := 0x100000

/-- The character that stands for a half. -/
def ofHalf (unit : Nat) : Char := Char.ofNat (unit + halfDistance)

/-- The half that a character stands for, if it stands for one. -/
def half? (c : Char) : Option Nat :=
  if isHalf (c.toNat - halfDistance) then some (c.toNat - halfDistance) else none

/-- A half is read back from its character. -/
theorem half?_ofHalf {unit : Nat} (h : isHalf unit = true) : half? (ofHalf unit) = some unit := by
  have hunit : 0xD800 ≤ unit ∧ unit < 0xE000 := by simpa [isHalf] using h
  have hvalid : (unit + halfDistance).isValidChar := Or.inr (by simp only [halfDistance]; omega)
  have hnat : (ofHalf unit).toNat = unit + halfDistance := by
    rw [ofHalf, Char.ofNat, dif_pos hvalid]
    rfl
  simp [half?, hnat, h]

/-- Only characters far behind all others stand for halves. -/
theorem half?_eq_none {c : Char} (h : c.toNat < halfDistance) : half? c = none := by
  have hzero : c.toNat - halfDistance = 0 := by omega
  simp [half?, hzero, isHalf]

/-- Whether a half stands for a single byte in a name that a system gives. -/
def standsForByte (unit : Nat) : Bool := decide (0xDC80 ≤ unit) && decide (unit < 0xDD00)

/-- Whether a system can be told a name: other halves than those that stand for bytes cannot be
    written. -/
def isSpellable (name : String) : Bool :=
  name.toList.all fun c =>
    match half? c with
    | some unit => standsForByte unit
    | none => true

/-- The number of bytes in which a system is told a name. -/
def byteLength (name : String) : Nat :=
  (name.toList.map fun c => if (half? c).isSome then 1 else c.utf8Size).foldr (· + ·) 0

end Chip8.Text
