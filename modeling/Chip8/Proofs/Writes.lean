import Chip8.Debugger

namespace Chip8

/-!
# Writes of the debugger

What a write that is not refused has done.  Each of them replaces one part of the state by a value
in its range, and leaves everything else alone.

* `checked_int` — numbers in the range pass the check;
* `pokeMemory_eq_ok`, `pokeRegister_eq_ok`, `pokeIndex_eq_ok`, `pokePc_eq_ok`, `pokeTimers_eq_ok` —
  the writes that a machine offers.
-/

/-- A number in the range is accepted. -/
theorem checked_int (field : String) {limit k : Nat} (h : k < limit) :
    checked field limit (.int k) = .ok ⟨k, h⟩ :=
  checked_eq_ok_iff.mpr (Value.natBelow?_eq_some_iff.mpr ⟨k, rfl, rfl⟩)

namespace State

variable {s t : State} {value : Value}

/-- A byte written to memory. -/
theorem pokeMemory_eq_ok {address : Value} (h : s.pokeMemory address value = .ok t) :
    ∃ (a : Fin memorySize) (b : UInt8), t = { s with memory := s.memory.writeByte a.val b } := by
  obtain ⟨a, -, ha⟩ := bind_eq_ok h
  obtain ⟨b, -, hb⟩ := bind_eq_ok ha
  exact ⟨a, UInt8.ofNat b.val, (Except.ok.inj hb).symm⟩

/-- A register written. -/
theorem pokeRegister_eq_ok {register : Value} (h : s.pokeRegister register value = .ok t) :
    ∃ (r : Fin 16) (b : UInt8), t = s.setReg r b := by
  obtain ⟨r, -, hr⟩ := bind_eq_ok h
  obtain ⟨b, -, hb⟩ := bind_eq_ok hr
  exact ⟨r, UInt8.ofNat b.val, (Except.ok.inj hb).symm⟩

/-- The index register written. -/
theorem pokeIndex_eq_ok (h : s.pokeIndex value = .ok t) :
    ∃ a : Fin memorySize, t = { s with index := UInt16.ofNat a.val } := by
  obtain ⟨a, -, ha⟩ := bind_eq_ok h
  exact ⟨a, (Except.ok.inj ha).symm⟩

/-- The program counter written. -/
theorem pokePc_eq_ok (h : s.pokePc value = .ok t) :
    ∃ a : Fin memorySize, t = { s with pc := UInt16.ofNat a.val } := by
  obtain ⟨a, -, ha⟩ := bind_eq_ok h
  exact ⟨a, (Except.ok.inj ha).symm⟩

/-- The delay timer written, or left as it is. -/
theorem pokeDelay_eq_ok (h : s.pokeDelay value = .ok t) : ∃ b : UInt8, t = { s with delay := b } := by
  cases value
  case null => exact ⟨s.delay, (Except.ok.inj h).symm⟩
  all_goals
    obtain ⟨b, -, hb⟩ := bind_eq_ok h
    exact ⟨UInt8.ofNat b.val, (Except.ok.inj hb).symm⟩

/-- The sound timer written, or left as it is. -/
theorem pokeSound_eq_ok (h : s.pokeSound value = .ok t) : ∃ b : UInt8, t = { s with sound := b } := by
  cases value
  case null => exact ⟨s.sound, (Except.ok.inj h).symm⟩
  all_goals
    obtain ⟨b, -, hb⟩ := bind_eq_ok h
    exact ⟨UInt8.ofNat b.val, (Except.ok.inj hb).symm⟩

/-- Both timers written, or left as they are. -/
theorem pokeTimers_eq_ok {delay sound : Value} (h : s.pokeTimers delay sound = .ok t) :
    ∃ a b : UInt8, t = { s with delay := a, sound := b } := by
  obtain ⟨u, hdelay, hsound⟩ := bind_eq_ok h
  obtain ⟨a, rfl⟩ := pokeDelay_eq_ok hdelay
  obtain ⟨b, rfl⟩ := pokeSound_eq_ok hsound
  exact ⟨a, b, rfl⟩

end State

end Chip8
