import Chip8.Fault
import Chip8.Instruction.Operation

namespace Chip8

/-!
# Instructions

* `Instruction` — a word together with its operation and the address it was fetched from;
* `Instruction.decode` — the instruction of an integer, or the fault that there is none.
-/

/-- An instruction word whose operation is known. -/
structure Instruction where
  op : Operation
  word : Word
  /-- Where the word was fetched from, if it was. -/
  address : Option Int
deriving DecidableEq, Repr, Inhabited

namespace Instruction

/-- The instruction of an integer, which is taken modulo `2 ^ 16`. -/
def decode (z : Int) (address : Option Int) : Except Fault Instruction :=
  let word := Word.ofInt z
  match Operation.ofWord? word with
  | some op => .ok ⟨op, word, address⟩
  | none => .error (.unknownOpcode word.toNat address)

/-- Decoding succeeds exactly on the words that have an operation. -/
theorem decode_eq_ok_iff {z : Int} {address : Option Int} {i : Instruction} :
    decode z address = .ok i ↔
      Operation.ofWord? (Word.ofInt z) = some i.op ∧ i.word = Word.ofInt z ∧
        i.address = address := by
  simp only [decode]
  cases h : Operation.ofWord? (Word.ofInt z) with
  | none => simp
  | some op =>
    obtain ⟨op', word, address'⟩ := i
    simp only [Except.ok.injEq, Instruction.mk.injEq, Option.some.injEq]
    constructor
    · rintro ⟨rfl, rfl, rfl⟩; exact ⟨rfl, rfl, rfl⟩
    · rintro ⟨rfl, rfl, rfl⟩; exact ⟨rfl, rfl, rfl⟩

end Instruction

end Chip8
