import Chip8.Number32

namespace Chip8

/-!
# Call stack

Sixteen slots for return addresses and the number of slots in use.  A host may set that number to
any 32-bit number, so the operations say what happens at depths that no program reaches.

* `CallStack.push`, `CallStack.pop` — saving and taking back an address; a full stack takes no more
  and an empty one gives none, and both then stay as they are;
* `CallStack.toList` — the saved addresses, oldest first.
-/

/-- The number of slots. -/
def stackSize : Nat := 16

/-- The saved return addresses.  The slots below `depth` are in use. -/
structure CallStack where
  slots : Vector UInt16 16
  depth : Int
deriving DecidableEq, Repr

namespace CallStack

/-- The stack without saved addresses. -/
def empty : CallStack := ⟨Vector.replicate 16 0, 0⟩

instance : Inhabited CallStack := ⟨empty⟩

/-- The saved addresses, oldest first. -/
def toList (s : CallStack) : List UInt16 := s.slots.toList.take s.depth.toNat

/-- The slots with one replaced.  A negative number counts back from the end; a number that names no
    slot changes nothing. -/
def setSlot (slots : Vector UInt16 16) (i : Int) (address : UInt16) : Vector UInt16 16 :=
  let k := if i < 0 then i + stackSize else i
  if k < 0 then slots else slots.setIfInBounds k.toNat address

/-- Save an address.  The answer says whether the stack was full; it is then unchanged. -/
def push (s : CallStack) (address : UInt16) : CallStack × Bool :=
  if stackSize ≤ s.depth then (s, true)
  else (⟨setSlot s.slots s.depth address, s.depth + 1⟩, false)

/-- The slot of the address saved last, as a 32-bit number that is not negative. -/
def top (s : CallStack) : Nat := (wrap32 (s.depth - 1)).toNat

/-- Take back the address saved last and clear its slot.  The answer is that address and whether the
    stack was empty; it is then unchanged and the address is that of the first slot. -/
def pop (s : CallStack) : CallStack × UInt16 × Bool :=
  let address := s.slots[min s.top 15]
  if s.depth ≤ 0 then (s, address, true)
  else (⟨s.slots.setIfInBounds s.top 0, s.depth - 1⟩, address, false)

/-- A push reports a full stack exactly from depth sixteen on. -/
theorem push_overflow_iff (s : CallStack) (address : UInt16) :
    (s.push address).2 = true ↔ 16 ≤ s.depth := by
  by_cases h : (16 : Int) ≤ s.depth <;> simp [push, stackSize, h]

/-- A pop reports an empty stack exactly down from depth zero. -/
theorem pop_underflow_iff (s : CallStack) : s.pop.2.2 = true ↔ s.depth ≤ 0 := by
  by_cases h : s.depth ≤ 0 <;> simp [pop, h]

/-- The top slot of a stack that is not empty is the one below its depth, if that is a 32-bit
    number. -/
theorem top_of_fits {s : CallStack} (h₀ : 0 < s.depth) (h : fits32 s.depth = true) :
    (s.top : Int) = s.depth - 1 := by
  simp only [fits32, Bool.and_eq_true, decide_eq_true_eq] at h
  rw [top, wrap32_of_fits (by omega) (by omega)]
  omega

/-- The depths that programs reach are such numbers. -/
theorem top_of_pos {s : CallStack} (h₀ : 0 < s.depth) (h₁ : s.depth ≤ 16) :
    (s.top : Int) = s.depth - 1 := by
  refine top_of_fits h₀ ?_
  simp only [fits32, Bool.and_eq_true, decide_eq_true_eq]
  omega

/-- In a stack that has a free slot, an address is saved in the slot that its depth names. -/
theorem setSlot_of_nonneg (slots : Vector UInt16 16) {i : Int} (h : 0 ≤ i) (address : UInt16) :
    setSlot slots i address = slots.setIfInBounds i.toNat address := by
  have hi : ¬ i < 0 := by omega
  simp [setSlot, hi]

end CallStack

end Chip8
