namespace Chip8

/-!
# Instruction words

An instruction is one 16-bit word.  Its four hexadecimal digits hold the kind of instruction and the
operands.

* `Word.lead`, `Word.x`, `Word.y`, `Word.n` — the four digits from the left;
* `Word.nn` — the low byte, `Word.nnn` — the low twelve bits;
* `Word.toNat_eq_lead_nnn`, `Word.nnn_eq_x_nn`, `Word.nn_eq_y_n` — how they make up the word.
-/

/-- An instruction word. -/
abbrev Word := UInt16

namespace Word

/-- The word of an integer, which is taken modulo `2 ^ 16`. -/
def ofInt (z : Int) : Word := UInt16.ofNat (z % 65536).toNat

/-- The word of two bytes, the high one first. -/
def ofBytes (high low : UInt8) : Word := high.toUInt16 <<< 8 ||| low.toUInt16

/-- The first digit. -/
def lead (w : Word) : Fin 16 := ⟨w.toNat / 4096 % 16, Nat.mod_lt _ (by decide)⟩

/-- The second digit, which names the register VX. -/
def x (w : Word) : Fin 16 := ⟨w.toNat / 256 % 16, Nat.mod_lt _ (by decide)⟩

/-- The third digit, which names the register VY. -/
def y (w : Word) : Fin 16 := ⟨w.toNat / 16 % 16, Nat.mod_lt _ (by decide)⟩

/-- The fourth digit. -/
def n (w : Word) : Fin 16 := ⟨w.toNat % 16, Nat.mod_lt _ (by decide)⟩

/-- The last two digits. -/
def nn (w : Word) : UInt8 := UInt8.ofNat (w.toNat % 256)

/-- The last three digits. -/
def nnn (w : Word) : Fin 4096 := ⟨w.toNat % 4096, Nat.mod_lt _ (by decide)⟩

/-- The low byte as a number. -/
theorem toNat_nn (w : Word) : (nn w).toNat = w.toNat % 256 := by
  simp [nn]

/-- A word is its first digit and its address part. -/
theorem toNat_eq_lead_nnn (w : Word) : w.toNat = 4096 * (lead w).val + (nnn w).val := by
  have := w.toNat_lt
  simp only [lead, nnn]
  omega

/-- The address part is the second digit and the low byte. -/
theorem nnn_eq_x_nn (w : Word) : (nnn w).val = 256 * (x w).val + (nn w).toNat := by
  rw [toNat_nn]
  simp only [nnn, x]
  omega

/-- The low byte is the third and the fourth digit. -/
theorem nn_eq_y_n (w : Word) : (nn w).toNat = 16 * (y w).val + (n w).val := by
  rw [toNat_nn]
  simp only [y, n]
  omega

/-- The word of an integer as a number. -/
theorem toNat_ofInt (z : Int) : ((ofInt z).toNat : Int) = z % 65536 := by
  simp only [ofInt, UInt16.toNat_ofNat']
  omega

end Word

end Chip8
