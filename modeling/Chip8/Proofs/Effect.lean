import Chip8.Proofs.Trap

namespace Chip8

/-!
# Effects

What a completed operation leaves behind, one part of the state at a time.

* `skipIf_eq`, `setLogic_eq`, `awaitKey_eq` — the shared steps touch one or two parts only;
* `reg_setReg_self`, `reg_setReg_of_ne`, `reg_setFlagged_of_ne`, `reg_setLogic_of_ne` — the register
  that a step writes and the others;
* `accessing_eq_ok`, `accessing_of_le`, `ret_eq_ok`, `call_eq_ok` — the operations that can trap,
  when they do not;
* `Operation.pcIn`, `Operation.nextPc`, `Operation.nextStack` — the program counter and the call
  stack afterwards;
* `effect_eq` — a completed operation moves these two as stated, and leaves keys, fault record and
  dialect alone.
-/

/-! ### Shared steps -/

namespace State

/-- A skip touches the program counter only. -/
theorem skipIf_eq (s : State) (condition : Bool) :
    s.skipIf condition = { s with pc := if condition then s.pc + 2 else s.pc } := by
  cases condition <;> rfl

/-- A bitwise operation touches the registers only. -/
theorem setLogic_eq (s : State) (r : Fin 16) (value : UInt8) :
    s.setLogic r value = { s with registers := (s.setLogic r value).registers } := by
  simp only [setLogic]
  split <;> rfl

/-- Waiting for a key touches registers and program counter only. -/
theorem awaitKey_eq (s : State) (r : Fin 16) :
    s.awaitKey r =
      { s with
        registers := (s.awaitKey r).registers
        pc := if s.lowestKey?.isSome then s.pc else s.pc - 2 } := by
  simp only [awaitKey]
  cases s.lowestKey? <;> rfl

/-! ### Registers -/

section

variable {s : State} {r q : Fin 16}

/-- A register that is written holds its new value. -/
theorem reg_setReg_self (s : State) (r : Fin 16) (value : UInt8) : (s.setReg r value).reg r = value := by
  rw [reg_setReg, if_pos rfl]

/-- A register that is not written keeps its value. -/
theorem reg_setReg_of_ne (h : q ≠ r) (value : UInt8) : (s.setReg r value).reg q = s.reg q := by
  rw [reg_setReg, if_neg (Ne.symm h)]

theorem reg_setFlagged_of_ne (h : q ≠ r) (hflag : q ≠ 15) (outcome : UInt8 × UInt8) :
    (s.setFlagged r outcome).reg q = s.reg q := by
  rw [setFlagged, reg_setReg_of_ne hflag, reg_setReg_of_ne h]

theorem reg_setLogic_of_ne (h : q ≠ r) (hflag : s.dialect.logicResetsVf = true → q ≠ 15)
    (value : UInt8) : (s.setLogic r value).reg q = s.reg q := by
  rw [setLogic]
  split
  · next hreset => rw [reg_setReg_of_ne (hflag hreset), reg_setReg_of_ne h]
  · exact reg_setReg_of_ne h value

end

/-! ### Accesses -/

/-- An access that does not trap leaves the given state. -/
theorem accessing_eq_ok {s next t : State} {length : Nat} (h : s.accessing length next = .ok t) :
    t = next := by
  unfold accessing at h
  split at h
  · exact nomatch h
  · exact (Except.ok.inj h).symm

/-- An access inside memory leaves the given state. -/
theorem accessing_of_le {s next : State} {length : Nat} (h : s.index.toNat + length ≤ 4096) :
    s.accessing length next = .ok next := by
  have hout : ¬ outOfBounds s.index.toNat length = true := by
    rw [outOfBounds_iff (by omega) (by omega)]
    omega
  rw [accessing, if_neg hout]

end State

/-! ### Calls and returns -/

section

variable {w : Word} {byte : UInt8} {s t : State}

/-- A return that does not trap. -/
theorem ret_eq_ok (h : Operation.ret.effect w byte s = .ok t) :
    0 < s.stack.depth ∧ t = { s with stack := s.stack.pop.1, pc := s.stack.pop.2.1 } := by
  have hdepth : 0 < s.stack.depth := by
    refine Int.lt_of_not_ge (fun hle => ?_)
    have htrap : Operation.ret.trap? w s = some .stackUnderflow := if_pos hle
    rw [effect_eq_error_iff.mpr htrap] at h
    exact nomatch h
  refine ⟨hdepth, ?_⟩
  simp only [Operation.effect] at h
  split at h
  · exact nomatch h
  · exact (Except.ok.inj h).symm

/-- A call that does not trap. -/
theorem call_eq_ok (h : Operation.call.effect w byte s = .ok t) :
    s.stack.depth < 16 ∧
      t = { s with stack := (s.stack.push s.pc).1, pc := UInt16.ofNat (Word.nnn w).val } := by
  have hdepth : s.stack.depth < 16 := by
    refine Int.lt_of_not_ge (fun hle => ?_)
    have htrap : Operation.call.trap? w s = some .stackOverflow := if_pos hle
    rw [effect_eq_error_iff.mpr htrap] at h
    exact nomatch h
  refine ⟨hdepth, ?_⟩
  simp only [Operation.effect] at h
  split at h
  · exact nomatch h
  · exact (Except.ok.inj h).symm

end

/-! ### One part at a time -/

/-- Where a completed operation leaves the program counter, when `next` is the address past the
    word.  Addresses are numbers of any kind: those of 16 bits that the machine has, or integers. -/
def Operation.pcIn {α : Type} [Add α] [Sub α] [OfNat α 2] (address : UInt16 → α) (op : Operation)
    (w : Word) (s : State) (next : α) : α :=
  let vx := s.reg (Word.x w)
  let vy := s.reg (Word.y w)
  let nn := Word.nn w
  let target := address (UInt16.ofNat (Word.nnn w).val)
  let skip (condition : Bool) : α := if condition then next + 2 else next
  match op with
  | .ret => address s.stack.pop.2.1
  | .jump => target
  | .call => target
  | .skipEqualByte => skip (vx == nn)
  | .skipUnequalByte => skip (vx != nn)
  | .skipEqual => skip (vx == vy)
  | .skipUnequal => skip (vx != vy)
  | .jumpOffset => target + address (s.jumpByte w).toUInt16
  | .skipPressed => skip (s.pressed vx)
  | .skipReleased => skip (!s.pressed vx)
  | .waitKey => if s.lowestKey?.isSome then next else next - 2
  | _ => next

/-- Where a completed operation leaves the program counter, which was past the word before. -/
def Operation.nextPc (op : Operation) (w : Word) (s : State) : UInt16 := op.pcIn id w s s.pc

/-- The call stack after a completed operation. -/
def Operation.nextStack (op : Operation) (s : State) : CallStack :=
  match op with
  | .ret => s.stack.pop.1
  | .call => (s.stack.push s.pc).1
  | _ => s.stack

section

variable {op : Operation} {w : Word} {byte : UInt8} {s t : State}

/-- A completed operation moves the program counter and the call stack as stated above, and touches
    neither the keys nor the fault record, the dialect or the key of the random bytes. -/
theorem effect_eq (h : op.effect w byte s = .ok t) :
    t = { t with
      pc := op.nextPc w s
      stack := op.nextStack s
      keypad := s.keypad
      key := s.key
      fault := s.fault
      dialect := s.dialect } := by
  cases op
  case ret => rw [(ret_eq_ok h).2]; rfl
  case call => rw [(call_eq_ok h).2]; rfl
  case draw => rw [State.accessing_eq_ok h]; rfl
  case storeDecimal => rw [State.accessing_eq_ok h]; rfl
  case storeRegisters => rw [State.accessing_eq_ok h]; rfl
  case loadRegisters => rw [State.accessing_eq_ok h]; rfl
  -- The others cannot trap.  They go through one of the shared steps, or write single parts.
  all_goals
    cases h
    first
    | rfl
    | rw [State.skipIf_eq]; rfl
    | rw [State.setLogic_eq]; rfl
    | rw [State.awaitKey_eq]; rfl

/-- An operation that completes with a byte from its source has its effect with some byte, on a
    state in which at most the key of the random bytes is another. -/
theorem effect_of_run {source source' : ByteSource} (h : op.run w s source = (.ok t, source')) :
    ∃ byte key, op.effect w byte { s with key } = .ok t := by
  unfold Operation.run at h
  split at h
  · exact ⟨_, _, congrArg Prod.fst h⟩
  · exact ⟨0, s.key, congrArg Prod.fst h⟩

end

end Chip8
