import Chip8.Cycle

namespace Chip8

/-!
# Traps

Whether the instruction at the program counter can complete is settled before it runs: by the
program counter, the word found there, I and the depth of the call stack.  Registers, keys, timers
and random bytes have no say.

* `Operation.trap?` — the trap of an operation, `State.trap?` — the trap of the next instruction;
* `trap?_of_access` — the operations that trap because of I;
* `effect_eq_error_iff`, `run_eq_error_iff` — an operation fails exactly with its trap;
* `source_run` — one operation draws a random byte; `source_run_of_trap`, `source_run_key` — none
  that traps does, and none that draws from the key of the state asks a host;
* `trap?_cases` — the three kinds of instructions, on which proofs about steps and cycles split.
-/

/-! ### The trap of an operation -/

/-- The trap of an access of `length` bytes at I, unless they all lie in memory. -/
def State.accessTrap? (s : State) (length : Nat) : Option Trap :=
  if 4096 < s.index.toNat + length then some (.outOfBounds s.index.toNat length) else none

/-- The trap an operation runs into. -/
def Operation.trap? (op : Operation) (w : Word) (s : State) : Option Trap :=
  match op with
  | .ret => if s.stack.depth ≤ 0 then some .stackUnderflow else none
  | .call => if 16 ≤ s.stack.depth then some .stackOverflow else none
  | .draw => s.accessTrap? (Word.n w).val
  | .storeDecimal => s.accessTrap? 3
  | .storeRegisters => s.accessTrap? ((Word.x w).val + 1)
  | .loadRegisters => s.accessTrap? ((Word.x w).val + 1)
  | _ => none

/-- Four operations reach memory at I, at most sixteen bytes of it.  An operation that traps with an
    access is one of them, and traps in every state exactly when its access does not lie in
    memory. -/
theorem trap?_of_access {op : Operation} {w : Word} {s : State} {address length : Nat}
    (h : op.trap? w s = some (.outOfBounds address length)) :
    ∃ size ≤ 16, ∀ t : State, op.trap? w t = t.accessTrap? size := by
  have hn := (Word.n w).isLt
  have hx := (Word.x w).isLt
  cases op
  case ret => simp only [Operation.trap?] at h; split at h <;> cases h
  case call => simp only [Operation.trap?] at h; split at h <;> cases h
  case draw => exact ⟨(Word.n w).val, by omega, fun _ => rfl⟩
  case storeDecimal => exact ⟨3, by omega, fun _ => rfl⟩
  case storeRegisters => exact ⟨(Word.x w).val + 1, by omega, fun _ => rfl⟩
  case loadRegisters => exact ⟨(Word.x w).val + 1, by omega, fun _ => rfl⟩
  all_goals cases h

/-- An access fails exactly with its trap.  No operation reaches more than sixteen bytes, so the end
    of the access is far from where 32-bit numbers wrap. -/
theorem accessing_eq_error_iff {s next : State} {length : Nat} (h : length ≤ 16) {trap : Trap} :
    s.accessing length next = .error trap ↔ s.accessTrap? length = some trap := by
  have hi := s.index.toNat_lt
  have hout : outOfBounds s.index.toNat length = true ↔ 4096 < s.index.toNat + length := by
    rw [outOfBounds_iff (by omega) (by omega)]
    omega
  unfold State.accessing State.accessTrap?
  by_cases hlt : 4096 < s.index.toNat + length
  · rw [if_pos (hout.mpr hlt), if_pos hlt, Except.error.injEq, Option.some.injEq]
  · rw [if_neg (fun hb => hlt (hout.mp hb)), if_neg hlt]
    exact ⟨nofun, nofun⟩

/-- An operation fails exactly with its trap. -/
theorem effect_eq_error_iff {op : Operation} {w : Word} {byte : UInt8} {s : State} {trap : Trap} :
    op.effect w byte s = .error trap ↔ op.trap? w s = some trap := by
  have hn := (Word.n w).isLt
  have hx := (Word.x w).isLt
  -- Six operations can trap; the others complete with any operands.
  cases op
  case ret =>
    by_cases h : s.stack.depth ≤ 0 <;>
      simp [Operation.effect, Operation.trap?, CallStack.pop, h]
  case call =>
    by_cases h : (16 : Int) ≤ s.stack.depth <;>
      simp [Operation.effect, Operation.trap?, CallStack.push, stackSize, h]
  case draw => exact accessing_eq_error_iff (by omega)
  case storeDecimal => exact accessing_eq_error_iff (by omega)
  case storeRegisters => exact accessing_eq_error_iff (by omega)
  case loadRegisters => exact accessing_eq_error_iff (by omega)
  all_goals simp only [Operation.effect, Operation.trap?, reduceCtorEq]

/-- An operation, its random byte drawn, fails exactly with its trap. -/
theorem run_eq_error_iff {op : Operation} {w : Word} {s : State} {source : ByteSource}
    {trap : Trap} : (op.run w s source).1 = .error trap ↔ op.trap? w s = some trap := by
  by_cases h : op = .random
  · subst h
    exact ⟨nofun, nofun⟩
  · rw [Operation.run, if_neg h]
    exact effect_eq_error_iff

/-- One operation draws a random byte; the others leave their source alone. -/
theorem source_run (op : Operation) (w : Word) (s : State) (source : ByteSource) :
    (op.run w s source).2 = if op = .random then (source.draw s.key).2.2 else source := by
  unfold Operation.run
  split <;> rfl

/-- An operation that traps draws no random byte. -/
theorem source_run_of_trap {op : Operation} {w : Word} {s : State} {trap : Trap}
    (h : op.trap? w s = some trap) (source : ByteSource) : (op.run w s source).2 = source := by
  have hop : op ≠ .random := by
    rintro rfl
    exact nomatch h
  rw [source_run, if_neg hop]

/-- An operation that draws its random byte from the key of the state leaves the next one to the
    key, too. -/
theorem source_run_key (op : Operation) (w : Word) (s : State) : (op.run w s .key).2 = .key := by
  rw [source_run]
  split <;> rfl

/-- An operation without a trap completes. -/
theorem run_eq_ok_of_trap_none {op : Operation} {w : Word} {s : State}
    (h : op.trap? w s = none) (source : ByteSource) : ∃ t, (op.run w s source).1 = .ok t := by
  cases hrun : (op.run w s source).1 with
  | ok t => exact ⟨t, rfl⟩
  | error trap =>
    rw [run_eq_error_iff, h] at hrun
    exact nomatch hrun

/-! ### The trap of the next instruction -/

/-- The word at the program counter, its two bytes read as a batch reads them. -/
def State.word (s : State) : Word := s.memory.wordAt s.pc.toNat

/-- The word of two known bytes. -/
theorem State.word_of_byteAt {s : State} {a : Nat} {high low : UInt8} (hpc : s.pc.toNat = a)
    (hhigh : s.memory.byteAt a = high) (hlow : s.memory.byteAt (a + 1 : Nat) = low) :
    s.word = Word.ofBytes high low := by
  rw [← hhigh, ← hlow, ← hpc]
  rfl

/-- The trap that the instruction at the program counter runs into. -/
def State.trap? (s : State) : Option Trap :=
  if 0xFFE < s.pc.toNat then some (.outOfBounds s.pc.toNat 2)
  else
    match Operation.ofWord? s.word with
    | none => some .unknownOpcode
    | some op => op.trap? s.word s

/-- There are three kinds of instructions: those outside of memory and those without an operation,
    which trap as such, and those with an operation, which trap where the operation does. -/
theorem trap?_cases (s : State) :
    (0xFFE < s.pc.toNat ∧ s.trap? = some (.outOfBounds s.pc.toNat 2)) ∨
      (s.pc.toNat ≤ 0xFFE ∧ Operation.ofWord? s.word = none ∧ s.trap? = some .unknownOpcode) ∨
      ∃ op, s.pc.toNat ≤ 0xFFE ∧ Operation.ofWord? s.word = some op ∧
        s.trap? = op.trap? s.word s := by
  rcases Nat.lt_or_ge 0xFFE s.pc.toNat with hpc | hpc
  · exact .inl ⟨hpc, if_pos hpc⟩
  · have hin : ¬ 0xFFE < s.pc.toNat := Nat.not_lt.mpr hpc
    cases hop : Operation.ofWord? s.word with
    | none =>
      refine .inr (.inl ⟨hpc, rfl, ?_⟩)
      rw [State.trap?, if_neg hin, hop]
    | some op =>
      refine .inr (.inr ⟨op, hpc, rfl, ?_⟩)
      rw [State.trap?, if_neg hin, hop]

end Chip8
