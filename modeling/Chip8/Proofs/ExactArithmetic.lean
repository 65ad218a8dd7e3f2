import Chip8.Proofs.Pattern
import Chip8.Proofs.Steps

namespace Chip8

/-!
# Exact arithmetic

What the instructions with the first digit 8 leave in the registers, whichever registers they name.
VX and VY can be the same one, and each of them can be VF.

* `State.Computes` — executing a word completes and touches nothing but the registers;
* `State.Sets`, `State.SetsExactly`, `State.SetsBitwise` — the three ways to write them: a result
  alone, a result with a flag that complements it, a result bit by bit;
* `setFlagged_exactly`, `setLogic_bitwise` — the steps that the instructions share do the last two;
* `arithmetic_exact` — each of the nine instructions.
-/

/-! ### Results and flags as numbers -/

namespace Arithmetic

variable (a b : UInt8)

/-- The carry of a sum is one at most. -/
theorem add_exact :
    (add a b).2.toNat ≤ 1 ∧ (add a b).1.toNat + 256 * (add a b).2.toNat = a.toNat + b.toNat := by
  have ha := a.toNat_lt
  have hb := b.toNat_lt
  have hsum := add_toNat a b
  omega

/-- The flag of a difference is zero when 256 is borrowed. -/
theorem sub_exact :
    (sub a b).2.toNat ≤ 1 ∧
      (sub a b).1.toNat + b.toNat = a.toNat + 256 * (1 - (sub a b).2.toNat) := by
  have ha := a.toNat_lt
  have hdifference := sub_toNat a b
  omega

/-- What falls out on the right is one bit. -/
theorem shiftRight_exact :
    (shiftRight a).2.toNat ≤ 1 ∧ 2 * (shiftRight a).1.toNat + (shiftRight a).2.toNat = a.toNat := by
  have hbit : (a &&& 1).toNat ≤ 1 := by
    rw [UInt8.toNat_and]
    exact Nat.and_le_right
  exact ⟨hbit, shiftRight_toNat a⟩

/-- What falls out on the left is one bit. -/
theorem shiftLeft_exact :
    (shiftLeft a).2.toNat ≤ 1 ∧
      (shiftLeft a).1.toNat + 256 * (shiftLeft a).2.toNat = 2 * a.toNat := by
  have ha := a.toNat_lt
  have hdouble := shiftLeft_toNat a
  omega

end Arithmetic

namespace State

/-! ### What an instruction leaves in the registers -/

/-- VF, the last register. -/
abbrev flagRegister : Fin 16 := Fin.last 15

section

variable (s : State) (x y : Fin 16) (t : State)

/-- Executing the word completes, touches nothing but the registers and clears an old fault record.
    It leaves a state of which `after` holds. -/
def Computes (w : Word) (after : State → Prop) : Prop :=
  ∀ (address : Option Int) (source : ByteSource), ∃ i t,
    Instruction.decode w.toNat address = .ok i ∧ s.execute i source = (.ok t, source) ∧
      t = { s with registers := t.registers, fault := .clear } ∧ after t

/-- VX has a new value, and all other registers keep theirs. -/
def Sets (value : UInt8) : Prop :=
  t.reg x = value ∧ ∀ q, q ≠ x → t.reg q = s.reg q

/-- VX has the result `r` and VF the flag `c` of an identity that relates them.  If VX is VF, only
    the flag is left. -/
def SetsExactly (identity : Nat → Nat → Prop) : Prop :=
  ∃ r c, r ≤ 255 ∧ c ≤ 1 ∧ identity r c ∧
    (t.reg flagRegister).toNat = c ∧ (x ≠ flagRegister → (t.reg x).toNat = r) ∧
    ∀ q, q ≠ x → q ≠ flagRegister → t.reg q = s.reg q

/-- Every bit of VX is made of the bits that VX and VY had there.  In a dialect that says so VF is
    zero afterwards, also if it is VX. -/
def SetsBitwise (bit : Bool → Bool → Bool) : Prop :=
  let resets := s.dialect.logicResetsVf
  (x ≠ flagRegister ∨ resets = false → ∀ k, (t.reg x).toNat.testBit k =
    bit ((s.reg x).toNat.testBit k) ((s.reg y).toNat.testBit k)) ∧
    (resets = true → t.reg flagRegister = 0) ∧
    (resets = false → x ≠ flagRegister → t.reg flagRegister = s.reg flagRegister) ∧
    ∀ q, q ≠ x → q ≠ flagRegister → t.reg q = s.reg q

end

/-! ### The steps that the instructions share -/

section

variable {s : State} {x y : Fin 16}

/-- One register written. -/
theorem setReg_sets (s : State) (x : Fin 16) (value : UInt8) : s.Sets x (s.setReg x value) value :=
  ⟨reg_setReg_self s x value, fun _ hq => reg_setReg_of_ne hq value⟩

/-- The bits of a result written, and VF reset where the dialect says so. -/
theorem setLogic_bitwise {value : UInt8} {bit : Bool → Bool → Bool}
    (h : ∀ k, value.toNat.testBit k =
      bit ((s.reg x).toNat.testBit k) ((s.reg y).toNat.testBit k)) :
    s.SetsBitwise x y (s.setLogic x value) bit := by
  have hothers (q : Fin 16) (hqx : q ≠ x) (hq : q ≠ flagRegister) :
      (s.setLogic x value).reg q = s.reg q := reg_setLogic_of_ne hqx (fun _ => hq) value
  have hlogic : s.setLogic x value =
      if s.dialect.logicResetsVf then (s.setReg x value).setReg flagRegister 0
      else s.setReg x value := rfl
  refine ⟨?_, ?_, ?_, hothers⟩
  · intro hkept
    have hx : (s.setLogic x value).reg x = value := by
      rw [hlogic]
      split
      · next hreset =>
        -- VX is not VF here, so what was written to it is still there.
        have hne : x ≠ flagRegister := hkept.resolve_right (by rw [hreset]; exact nofun)
        rw [reg_setReg_of_ne hne, reg_setReg_self]
      · rw [reg_setReg_self]
    rw [hx]
    exact h
  · intro hreset
    rw [hlogic, if_pos hreset, reg_setReg_self]
  · intro hkept hx
    rw [hlogic, hkept]
    exact reg_setReg_of_ne hx.symm value

/-- A result and its flag written.  The flag comes last, and is the one that is left if both go to
    VF. -/
theorem setFlagged_exactly {outcome : UInt8 × UInt8} {identity : Nat → Nat → Prop}
    (h : outcome.2.toNat ≤ 1 ∧ identity outcome.1.toNat outcome.2.toNat) :
    s.SetsExactly x (s.setFlagged x outcome) identity := by
  obtain ⟨hflag, hidentity⟩ := h
  have hresult := outcome.1.toNat_lt
  have hothers (q : Fin 16) (hqx : q ≠ x) (hq : q ≠ flagRegister) :
      (s.setFlagged x outcome).reg q = s.reg q := reg_setFlagged_of_ne hqx hq outcome
  have hwrites : s.setFlagged x outcome = (s.setReg x outcome.1).setReg flagRegister outcome.2 := rfl
  refine ⟨outcome.1.toNat, outcome.2.toNat, by omega, hflag, hidentity, ?_, ?_, hothers⟩
  · rw [hwrites, reg_setReg_self]
  · intro hx
    rw [hwrites, reg_setReg_of_ne hx, reg_setReg_self]

end

/-! ### From steps to instructions -/

section

variable {s t : State} {op : Operation} {w : Word} (hfits : Word.fits op.pattern w = true)
  (hop : op ≠ .random)
include hfits hop

/-- A word computes what its operation does to a state with a clear fault record. -/
theorem computes_of_effect {after : State → Prop}
    (heffect : op.effect w 0 { s with fault := .clear } = .ok t)
    (hregisters : t = { s with registers := t.registers, fault := .clear }) (hafter : after t) :
    s.Computes w after := by
  intro address source
  have hdecode : Instruction.decode w.toNat address = .ok ⟨op, w, address⟩ := by
    simp [Instruction.decode, (fits_pattern_iff op w).mp hfits]
  exact ⟨⟨op, w, address⟩, t, hdecode, execute_of_effect hop heffect source, hregisters, hafter⟩

/-- The words of the bitwise operations. -/
theorem computes_bitwise {value : UInt8} {bit : Bool → Bool → Bool}
    (heffect : op.effect w 0 { s with fault := .clear } =
      .ok ({ s with fault := .clear }.setLogic (Word.x w) value))
    (h : ∀ k, value.toNat.testBit k =
      bit ((s.reg (Word.x w)).toNat.testBit k) ((s.reg (Word.y w)).toNat.testBit k)) :
    s.Computes w fun t => s.SetsBitwise (Word.x w) (Word.y w) t bit := by
  apply computes_of_effect hfits hop heffect
  · exact setLogic_eq { s with fault := .clear } ..
  · exact setLogic_bitwise (s := { s with fault := .clear }) h

/-- The words of the operations that set a flag. -/
theorem computes_exactly {outcome : UInt8 × UInt8} {identity : Nat → Nat → Prop}
    (heffect : op.effect w 0 { s with fault := .clear } =
      .ok ({ s with fault := .clear }.setFlagged (Word.x w) outcome))
    (h : outcome.2.toNat ≤ 1 ∧ identity outcome.1.toNat outcome.2.toNat) :
    s.Computes w fun t => s.SetsExactly (Word.x w) t identity := by
  apply computes_of_effect hfits hop heffect
  · rfl
  · exact setFlagged_exactly (s := { s with fault := .clear }) h

end

/-! ### The nine instructions -/

/-- **Arithmetic is exact.**  Sum and carry, difference and what is not borrowed, shifted byte and
    the bit that falls out make up the exact result of the operands before, as numbers.  The other
    four instructions give copies and bits.  All of them say which registers change and how, for
    every choice of registers and in every dialect. -/
theorem arithmetic_exact (s : State) (w : Word) :
    let x := Word.x w
    let y := Word.y w
    let a := (s.reg x).toNat
    let b := (s.reg y).toNat
    let o := if s.dialect.shiftUsesVy then b else a
    (Word.fits "8XY0" w = true → s.Computes w fun t => s.Sets x t (s.reg y)) ∧
    (Word.fits "8XY1" w = true → s.Computes w fun t => s.SetsBitwise x y t or) ∧
    (Word.fits "8XY2" w = true → s.Computes w fun t => s.SetsBitwise x y t and) ∧
    (Word.fits "8XY3" w = true → s.Computes w fun t => s.SetsBitwise x y t xor) ∧
    (Word.fits "8XY4" w = true →
      s.Computes w fun t => s.SetsExactly x t fun r c => r + 256 * c = a + b) ∧
    (Word.fits "8XY5" w = true →
      s.Computes w fun t => s.SetsExactly x t fun r c => r + b = a + 256 * (1 - c)) ∧
    (Word.fits "8XY6" w = true →
      s.Computes w fun t => s.SetsExactly x t fun r c => 2 * r + c = o) ∧
    (Word.fits "8XY7" w = true →
      s.Computes w fun t => s.SetsExactly x t fun r c => r + a = b + 256 * (1 - c)) ∧
    (Word.fits "8XYE" w = true →
      s.Computes w fun t => s.SetsExactly x t fun r c => r + 256 * c = 2 * o) := by
  intro x y a b o
  have hoperand : (s.shiftOperand w).toNat = o := apply_ite UInt8.toNat ..
  refine ⟨?_, ?_, ?_, ?_, ?_, ?_, ?_, ?_, ?_⟩
  · intro (hfits : Word.fits Operation.copy.pattern w = true)
    exact computes_of_effect hfits nofun rfl rfl (setReg_sets ..)
  · intro (hfits : Word.fits Operation.or.pattern w = true)
    apply computes_bitwise hfits nofun rfl
    intro k
    rw [UInt8.toNat_or, Nat.testBit_or]
    rfl
  · intro (hfits : Word.fits Operation.and.pattern w = true)
    apply computes_bitwise hfits nofun rfl
    intro k
    rw [UInt8.toNat_and, Nat.testBit_and]
    rfl
  · intro (hfits : Word.fits Operation.xor.pattern w = true)
    apply computes_bitwise hfits nofun rfl
    intro k
    rw [UInt8.toNat_xor, Nat.testBit_xor]
    rfl
  · intro (hfits : Word.fits Operation.add.pattern w = true)
    exact computes_exactly hfits nofun rfl (Arithmetic.add_exact ..)
  · intro (hfits : Word.fits Operation.sub.pattern w = true)
    exact computes_exactly hfits nofun rfl (Arithmetic.sub_exact ..)
  · intro (hfits : Word.fits Operation.shiftRight.pattern w = true)
    rw [← hoperand]
    exact computes_exactly hfits nofun rfl (Arithmetic.shiftRight_exact ..)
  · intro (hfits : Word.fits Operation.subFrom.pattern w = true)
    exact computes_exactly hfits nofun rfl (Arithmetic.sub_exact ..)
  · intro (hfits : Word.fits Operation.shiftLeft.pattern w = true)
    rw [← hoperand]
    exact computes_exactly hfits nofun rfl (Arithmetic.shiftLeft_exact ..)

/-- VF added to itself.  The sum 400 does not fit, and VF is left with the carry alone. -/
theorem arithmetic_exact_flag :
    let s : State := { initial {} default with registers := Vector.replicate 16 200 }
    Word.fits "8XY4" 0x8FF4 = true ∧ ∃ i t, Instruction.decode 0x8FF4 none = .ok i ∧
      s.execute i .key = (.ok t, .key) ∧ t.reg 15 = 1 := by
  intro s
  have hfits : Word.fits "8XY4" 0x8FF4 = true := by decide
  have hvalue : (s.reg (Word.x 0x8FF4)).toNat = 200 := by decide
  obtain ⟨i, t, hdecode, hexecute, -, r, c, hr, hc, hidentity, hflag, -⟩ :=
    (arithmetic_exact s 0x8FF4).2.2.2.2.1 hfits none .key
  have hsum : r + 256 * c = 200 + 200 := hvalue ▸ hidentity
  refine ⟨hfits, i, t, hdecode, hexecute, ?_⟩
  apply UInt8.toNat_inj.mp
  show (t.reg flagRegister).toNat = 1
  omega

end State

end Chip8
