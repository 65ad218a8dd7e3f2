import Chip8.Proofs.Batch
import Chip8.Proofs.SavedAddresses

namespace Chip8

/-!
# The invariant of a state

Bounds that hold of every state a program can reach.  The bound on the program counter is not kept
on its own: a return needs the bound on the saved addresses, and a call saves an address that the
fetch has bounded.

* `tidy_iff` — a tidy call stack in terms of the list of saved addresses;
* `FaultRecord.Consistent` — a record has a code and the access that goes with the code;
* `State.Sound` — both, and the bound on the program counter;
* `State.CountsExactly` — inside memory, 16 bits are enough for all that is done to the program
  counter;
* `Sound.step`, `Sound.steps`, `Sound.runBatch`, `Sound.runFrame` — running keeps the invariant.
-/

/-! ### Call stacks -/

namespace CallStack

variable {s : CallStack}

/-- A stack is tidy exactly when its free slots are zero and a call can save each address of its
    list. -/
theorem tidy_iff : s.Tidy ↔ s.Canonical ∧ ∀ address ∈ s.toList, Saveable address := by
  constructor
  · intro h
    have hcanonical : s.Canonical := ⟨h.depth_nonneg, h.depth_le, h.free⟩
    refine ⟨hcanonical, fun address haddress => ?_⟩
    obtain ⟨k, hk⟩ := List.mem_iff_getElem?.mp haddress
    have hlength := hcanonical.length_toList
    have hlt := (List.getElem?_eq_some_iff.mp hk).1
    have hle := h.depth_le
    have hdepth : (k : Int) < s.depth := by omega
    rw [getElem?_toList s ⟨k, by omega⟩, if_pos hdepth] at hk
    rw [← Option.some.inj hk]
    exact h.saved ⟨k, by omega⟩ hdepth
  · rintro ⟨h, hsaved⟩
    refine ⟨h.depth_nonneg, h.depth_le, fun k hk => ?_, h.free⟩
    apply hsaved
    apply List.mem_of_getElem?
    rw [getElem?_toList s k, if_pos hk]
    rfl

/-- The empty stack is tidy. -/
theorem tidy_empty : empty.Tidy := by
  apply tidy_iff.mpr
  exact ⟨canonical_empty, fun _ haddress => nomatch haddress⟩

/-- Saving an address keeps a stack tidy. -/
theorem Tidy.push (h : s.Tidy) {address : UInt16} (haddress : Saveable address) :
    (s.push address).1.Tidy := by
  obtain ⟨hcanonical, hsaved⟩ := tidy_iff.mp h
  apply tidy_iff.mpr
  refine ⟨hcanonical.push address, fun other hother => ?_⟩
  rcases Int.lt_or_le s.depth 16 with hfree | hfull
  · rw [toList_push h.depth_nonneg hfree, List.mem_append, List.mem_singleton] at hother
    rcases hother with hother | rfl
    · exact hsaved other hother
    · exact haddress
  · rw [push_of_full hfull] at hother
    exact hsaved other hother

/-- Taking an address back keeps a stack tidy. -/
theorem Tidy.pop (h : s.Tidy) : s.pop.1.Tidy := by
  obtain ⟨hcanonical, hsaved⟩ := tidy_iff.mp h
  apply tidy_iff.mpr
  refine ⟨hcanonical.pop, fun other hother => ?_⟩
  rcases Int.lt_or_le 0 s.depth with hpos | hempty
  · apply hsaved
    rw [← toList_pop hpos h.depth_le]
    exact List.mem_append_left _ hother
  · rw [pop_of_empty hempty] at hother
    exact hsaved other hother

/-- What a stack in use gives back is an address that a call can save. -/
theorem Tidy.saveable_pop (h : s.Tidy) (hdepth : 0 < s.depth) : Saveable s.pop.2.1 := by
  apply (tidy_iff.mp h).2
  rw [← toList_pop hdepth h.depth_le]
  exact List.mem_append_right _ List.mem_cons_self

end CallStack

/-! ### Fault records -/

/-- The code is one of five.  A record without a fault is clear, one of a failed access has an
    access that runs past the end of memory, and the others have no access. -/
structure FaultRecord.Consistent (r : FaultRecord) : Prop where
  code_le : r.code.toNat ≤ 4
  clear : r.code = 0 → r = .clear
  access : r.code = 1 → 4096 < r.address + r.length
  noAccess : r.code = 2 ∨ r.code = 3 ∨ r.code = 4 → r.address = 0 ∧ r.length = 0

/-- The clear record is consistent. -/
theorem FaultRecord.consistent_clear : FaultRecord.clear.Consistent where
  code_le := by decide
  clear _ := rfl
  access := nofun
  noAccess _ := ⟨rfl, rfl⟩

section

variable {s : State} {address length : Nat}

/-- An operation that traps with an access has an access that runs past the end of memory. -/
theorem lt_of_operation_trap? {op : Operation} {w : Word}
    (h : op.trap? w s = some (.outOfBounds address length)) : 4096 < address + length := by
  obtain ⟨size, -, hop⟩ := trap?_of_access h
  rw [hop, State.accessTrap?] at h
  split at h
  · cases h
    assumption
  · exact nomatch h

/-- An instruction that traps with an access has an access that runs past the end of memory. -/
theorem lt_of_trap? (h : s.trap? = some (.outOfBounds address length)) : 4096 < address + length := by
  rcases trap?_cases s with ⟨hpc, htrap⟩ | ⟨-, -, htrap⟩ | ⟨op, -, -, htrap⟩
  · rw [htrap] at h
    cases h
    omega
  · rw [htrap] at h
    exact nomatch h
  · rw [htrap] at h
    exact lt_of_operation_trap? h

/-- The record of a trap is consistent. -/
theorem consistent_record {trap : Trap} (h : s.trap? = some trap) (pc : UInt16) (w : Word) :
    (trap.record pc w).Consistent := by
  have hle : ∀ code : FaultCode, (UInt8.ofNat code.number).toNat ≤ 4 := by
    intro code
    cases code <;> decide
  refine ⟨hle trap.code, ?_, ?_, ?_⟩
  · cases trap <;> exact nofun
  · cases trap with
    | outOfBounds address length =>
      have hlt := lt_of_trap? h
      intro _
      show (4096 : Int) < address + length
      omega
    | _ => exact nofun
  · cases trap with
    | outOfBounds => rintro (hcode | hcode | hcode) <;> exact nomatch hcode
    | _ => exact fun _ => ⟨rfl, rfl⟩

end

/-! ### Calculating with addresses -/

/-- Two more fit into 16 bits. -/
theorem toNat_add_two {a : UInt16} (h : a.toNat ≤ 0xFFFD) : (a + 2).toNat = a.toNat + 2 := by
  rw [UInt16.toNat_add]
  exact Nat.mod_eq_of_lt (by simp only [UInt16.reduceToNat]; omega)

/-- Two can be taken away from what is not below. -/
theorem toNat_sub_two {a : UInt16} (h : 2 ≤ a.toNat) : (a - 2).toNat = a.toNat - 2 :=
  UInt16.toNat_sub_of_le a 2 (UInt16.le_iff_toNat_le.mpr h)

/-- An address part and a byte added fit into 16 bits. -/
theorem toNat_add_byte (w : Word) (offset : UInt8) :
    (UInt16.ofNat (Word.nnn w).val + offset.toUInt16).toNat = (Word.nnn w).val + offset.toNat := by
  have hnnn := (Word.nnn w).isLt
  have hoffset := offset.toNat_lt
  rw [UInt16.toNat_add, UInt16.toNat_ofNat', UInt8.toNat_toUInt16]
  omega

section

variable {op : Operation} {w : Word} {s : State}

/-- An address as an integer. -/
def natural (address : UInt16) : Int := address.toNat

/-- Nothing is lost when a byte is added to an address part. -/
theorem natural_add_byte (w : Word) (offset : UInt8) :
    natural (UInt16.ofNat (Word.nnn w).val + offset.toUInt16) =
      natural (UInt16.ofNat (Word.nnn w).val) + natural offset.toUInt16 := by
  have hnnn := (Word.nnn w).isLt
  have htarget : (UInt16.ofNat (Word.nnn w).val).toNat = (Word.nnn w).val := by
    rw [UInt16.toNat_ofNat', Nat.mod_eq_of_lt (by omega)]
  unfold natural
  rw [toNat_add_byte, htarget, UInt8.toNat_toUInt16, Int.natCast_add]

/-- Behind a word inside memory, 16 bits are enough for all that is done to the program counter. -/
theorem toNat_nextPc (h : CallStack.Saveable s.pc) :
    natural (op.nextPc w s) = op.pcIn natural w s (natural s.pc) := by
  obtain ⟨h₀, h₁⟩ := h
  have hadd : (s.pc + 2).toNat = s.pc.toNat + 2 := toNat_add_two (by omega)
  have hsub : (s.pc - 2).toNat = s.pc.toNat - 2 := toNat_sub_two h₀
  have hskip (condition : Bool) : natural (if condition then s.pc + 2 else s.pc) =
      if condition then natural s.pc + 2 else natural s.pc := by
    unfold natural
    split <;> omega
  have hwait : natural (if s.lowestKey?.isSome then s.pc else s.pc - 2) =
      if s.lowestKey?.isSome then natural s.pc else natural s.pc - 2 := by
    unfold natural
    split <;> omega
  cases op
  case jumpOffset => exact natural_add_byte w _
  case waitKey => exact hwait
  case skipEqualByte => exact hskip _
  case skipUnequalByte => exact hskip _
  case skipEqual => exact hskip _
  case skipUnequal => exact hskip _
  case skipPressed => exact hskip _
  case skipReleased => exact hskip _
  all_goals rfl

/-- A completed operation leaves the program counter below the largest sum that `BNNN` can give. -/
theorem nextPc_le (h : CallStack.Saveable s.pc) (hstack : s.stack.Tidy)
    (hret : op = .ret → 0 < s.stack.depth) : (op.nextPc w s).toNat ≤ 0x10FE := by
  have hnnn := (Word.nnn w).isLt
  have htarget : natural (UInt16.ofNat (Word.nnn w).val) ≤ 0xFFF := by
    rw [natural, UInt16.toNat_ofNat', Nat.mod_eq_of_lt (by omega)]
    omega
  have hbyte (offset : UInt8) : natural offset.toUInt16 ≤ 0xFF := by
    have hoffset := offset.toNat_lt
    rw [natural, UInt8.toNat_toUInt16]
    omega
  have hpc : 0 ≤ natural s.pc ∧ natural s.pc ≤ 0x1000 := ⟨Int.natCast_nonneg _, Int.ofNat_le.mpr h.2⟩
  have hskip (condition : Bool) :
      (if condition then natural s.pc + 2 else natural s.pc) ≤ 0x10FE := by
    split <;> omega
  -- Only `BNNN` gets as far as the bound; returns are held back by the saved addresses.
  have hnext : op.pcIn natural w s (natural s.pc) ≤ 0x10FE := by
    cases op
    case ret => exact Int.le_trans (Int.ofNat_le.mpr (hstack.saveable_pop (hret rfl)).2) (by decide)
    case jump => exact Int.le_trans htarget (by decide)
    case call => exact Int.le_trans htarget (by decide)
    case jumpOffset => exact Int.add_le_add htarget (hbyte _)
    case waitKey =>
      show (if s.lowestKey?.isSome then natural s.pc else natural s.pc - 2) ≤ 0x10FE
      split <;> omega
    case skipEqualByte => exact hskip _
    case skipUnequalByte => exact hskip _
    case skipEqual => exact hskip _
    case skipUnequal => exact hskip _
    case skipPressed => exact hskip _
    case skipReleased => exact hskip _
    all_goals exact Int.le_trans hpc.2 (by decide)
  rw [← toNat_nextPc h] at hnext
  exact Int.ofNat_le.mp hnext

end

namespace State

variable {s t : State} {i : Instruction} {instructions : List Instruction}
  {source source' : ByteSource}

/-- A word inside memory ends at an address that a call can save. -/
theorem saveable_fetched (h : s.pc.toNat ≤ 0xFFE) : CallStack.Saveable s.fetched.pc := by
  have hpc : s.fetched.pc.toNat = s.pc.toNat + 2 := toNat_add_two (by omega)
  exact ⟨by omega, by omega⟩

/-- Nothing that an instruction adds to the program counter or takes away from it wraps around: not
    the fetch, nor a skip or a step back to a waiting instruction, whether or not they are taken,
    nor the sum that `BNNN` jumps to.  So steps and cycles that complete move the program counter to
    where a calculation with integers would. -/
structure CountsExactly (s : State) : Prop where
  fetch : natural s.fetched.pc = natural s.pc + 2
  skip : natural (s.fetched.pc + 2) = natural s.fetched.pc + 2
  wait : natural (s.fetched.pc - 2) = natural s.fetched.pc - 2
  offset : ∀ (w : Word) (r : Fin 16),
    natural (UInt16.ofNat (Word.nnn w).val + (s.reg r).toUInt16) =
      natural (UInt16.ofNat (Word.nnn w).val) + natural (s.reg r).toUInt16
  step : ∀ {source i t source'}, s.step source = (.ok (i, t), source') →
    natural t.pc = i.op.pcIn natural s.word s (natural s.pc + 2)
  cycle : ∀ {source op t source'}, s.cycle source = (.ok (op, t), source') →
    natural t.pc = op.pcIn natural s.word s (natural s.pc + 2)

/-- Inside memory, nothing wraps around. -/
theorem countsExactly_of_le (h : s.pc.toNat ≤ 0xFFE) : s.CountsExactly := by
  have hsaveable := saveable_fetched h
  have hfetch : natural s.fetched.pc = natural s.pc + 2 :=
    congrArg Int.ofNat (toNat_add_two (a := s.pc) (by omega))
  have hnext (op : Operation) : natural (op.nextPc s.word s.fetched) =
      op.pcIn natural s.word s (natural s.pc + 2) := by
    rw [toNat_nextPc hsaveable, hfetch]
    rfl
  refine ⟨hfetch, ?_, ?_, fun w r => natural_add_byte w (s.reg r), fun hstep => ?_, fun hcycle => ?_⟩
  · have hadd := toNat_add_two (a := s.fetched.pc) (by have := hsaveable.2; omega)
    exact congrArg Int.ofNat hadd
  · have hle := hsaveable.1
    have hsub := toNat_sub_two hle
    unfold natural
    omega
  · rw [pc_step hstep]
    exact hnext _
  · rw [pc_cycle hcycle]
    exact hnext _

/-! ### Sound states -/

/-- The invariant: the program counter is bounded, the call stack is tidy and the fault record is
    consistent. -/
structure Sound (s : State) : Prop where
  pc_le : s.pc.toNat ≤ 0x10FE
  stack : s.stack.Tidy
  fault : s.fault.Consistent

/-- A completed operation keeps the call stack tidy. -/
theorem tidy_nextStack {op : Operation} (hpc : CallStack.Saveable s.pc) (h : s.stack.Tidy) :
    (op.nextStack s).Tidy := by
  cases op
  case ret => exact h.pop
  case call => exact h.push hpc
  all_goals exact h

/-- A completed return had an address to go back to. -/
theorem depth_pos_of_ret (h : s.step source = (.ok (i, t), source')) (hret : i.op = .ret) :
    0 < s.stack.depth := by
  obtain ⟨byte, key, heffect⟩ := effect_of_step h
  rw [hret] at heffect
  exact (ret_eq_ok heffect).1

/-- A completed step keeps the invariant. -/
theorem Sound.step (h : s.Sound) (hstep : s.step source = (.ok (i, t), source')) : t.Sound := by
  -- The fetch bounds the address that a call saves, and the stack the one that a return goes to.
  have hpc := saveable_fetched (step_eq_ok hstep).1
  have hret := depth_pos_of_ret hstep
  refine ⟨?_, ?_, ?_⟩
  · rw [pc_step hstep]
    exact nextPc_le (s := s.fetched) hpc h.stack hret
  · rw [stack_step hstep]
    exact tidy_nextStack (s := s.fetched) hpc h.stack
  · rw [fault_step hstep]
    exact FaultRecord.consistent_clear

/-- A run of completed steps keeps the invariant. -/
theorem Sound.steps (h : s.Sound) (hsteps : s.Steps source instructions t source') : t.Sound := by
  induction hsteps with
  | nil => exact h
  | cons first _ ih => exact ih (h.step first)

/-- A fault record may be replaced by a consistent one. -/
theorem Sound.setFault (h : s.Sound) {record : FaultRecord} (hrecord : record.Consistent) :
    ({ s with fault := record } : State).Sound := ⟨h.pc_le, h.stack, hrecord⟩

/-- A batch keeps the invariant, whether it faults or not. -/
theorem Sound.runBatch (h : s.Sound) (n : Nat) (source : ByteSource) :
    (s.runBatch n source).state.Sound := by
  induction n generalizing s source with
  | zero => exact h.setFault FaultRecord.consistent_clear
  | succ n ih =>
    cases htrap : s.trap? with
    | some trap =>
      -- What the instruction has done is taken back, so that only the record is new.
      rw [runBatch_of_trap htrap]
      exact h.setFault (consistent_record htrap s.pc s.word)
    | none =>
      obtain ⟨i, t, source', hstep⟩ := step_of_trap_none htrap source
      rw [runBatch_of_step hstep]
      split
      · exact h.step hstep
      · exact ih (h.step hstep) source'

/-- A frame keeps the invariant: the timers are no part of it. -/
theorem Sound.runFrame (h : s.Sound) (n : Nat) (source : ByteSource) :
    (s.runFrame n source).state.Sound := by
  have hbatch := h.runBatch n source
  exact ⟨hbatch.pc_le, hbatch.stack, hbatch.fault⟩

end State

end Chip8
