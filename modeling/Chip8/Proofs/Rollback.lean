import Chip8.Proofs.InstructionSet
import Chip8.Proofs.Steps

namespace Chip8

/-!
# Flagging and rolling back

A compiled batch cannot break off inside an instruction.  It carries every instruction out in full,
flags what was wrong with it in the fault record, and in the end takes a state with a flag back.
This layer is spelled out here, with the loop around it, and it does what `State.cycle`,
`State.runBatch` and `State.execute` say.

* `State.flagIf`, `State.commit` — a flag, and the state that is kept;
* `Operation.handle`, `Operation.handled` — an operation carried out in full;
* `handle_of_effect`, `fault_handle_of_effect` — it has its effect, or it flags its trap;
* `State.flaggedCycle`, `flaggedCycle_eq_cycle` — one cycle, the word chosen from the table of all
  words;
* `Carry`, `Carry.loop`, `loop_eq_runBatch` — the loop of a batch, with its condition and its body;
* `execute_eq_commit` — one instruction, whose flag becomes an error.
-/

/-! ### Flags -/

namespace State

/-- The state with a fault flagged in its record if a condition holds. -/
def flagIf (s : State) (condition : Bool) (code : FaultCode) (address length : Int) : State :=
  if condition then { s with fault := s.fault.flag code address length } else s

@[simp] theorem flagIf_false (s : State) (code : FaultCode) (address length : Int) :
    s.flagIf false code address length = s := rfl

@[simp] theorem flagIf_true (s : State) (code : FaultCode) (address length : Int) :
    s.flagIf true code address length = { s with fault := s.fault.flag code address length } := rfl

/-- What is kept of an instruction: the state after it or, if that has a flag, the one before it,
    with the flag and the place of the instruction on record. -/
def commit (before after : State) (pc : UInt16) (word : Word) : State :=
  if after.fault.isSet then { before with fault := { after.fault with pc, opcode := word } }
  else after

/-- A state without a flag is kept. -/
theorem commit_of_clear {before after : State} (h : after.fault = .clear) (pc : UInt16) (word : Word) :
    before.commit after pc word = after := by
  have hclear : ¬ after.fault.isSet = true := by
    rw [h]
    decide
  exact if_neg hclear

/-- The flag of a trap becomes the record of the trap, on the state before.  What was on record when
    the flag was set makes no difference. -/
theorem commit_of_flag {before after : State} {r : FaultRecord} {trap : Trap}
    (h : after.fault = r.flag trap.code trap.access.1 trap.access.2) (pc : UInt16) (word : Word) :
    before.commit after pc word = { before with fault := trap.record pc word } := by
  have hset : after.fault.isSet = true := by
    rw [h]
    cases trap <;> rfl
  rw [commit, if_pos hset, h]
  rfl

end State

/-! ### Operations carried out in full -/

namespace Operation

/-- An operation carried out in full: what it writes is written even if a fault is flagged behind
    it. -/
def handle (op : Operation) (w : Word) (byte : UInt8) (s : State) : State :=
  let x := Word.x w
  let vx := s.reg x
  let vy := s.reg (Word.y w)
  match op with
  | .ret =>
    let (stack, address, empty) := s.stack.pop
    { s with stack, pc := address }.flagIf empty .stackUnderflow 0 0
  | .call =>
    let (stack, full) := s.stack.push s.pc
    { s with stack, pc := UInt16.ofNat (Word.nnn w).val }.flagIf full .stackOverflow 0 0
  | .draw =>
    let height := (Word.n w).val
    (s.drawSprite vx vy height).flagIf (outOfBounds s.index.toNat height) .memory s.index.toNat height
  | .storeDecimal =>
    let memory := s.memory.writeBytes s.index.toNat (State.decimalDigits vx) 3
    { s with memory }.flagIf (outOfBounds s.index.toNat 3) .memory s.index.toNat 3
  | .storeRegisters =>
    let count := x.val + 1
    let memory := s.memory.writeBytes s.index.toNat s.registers.toList count
    { s with memory, index := s.indexAfter count }.flagIf (outOfBounds s.index.toNat count) .memory
      s.index.toNat count
  | .loadRegisters =>
    let count := x.val + 1
    { s with registers := s.loadedRegisters x, index := s.indexAfter count }.flagIf
      (outOfBounds s.index.toNat count) .memory s.index.toNat count
  | _ => (op.effect w byte s).toOption.getD s

/-- The same with the random byte drawn from its source, if one is needed. -/
def handled (op : Operation) (w : Word) (s : State) (source : ByteSource) : State × ByteSource :=
  if op = .random then
    let (byte, key, source) := source.draw s.key
    (op.handle w byte { s with key }, source)
  else (op.handle w 0 s, source)

end Operation

section

variable {op : Operation} {w : Word} {byte : UInt8} {s t : State} {trap : Trap}

/-- An access that is flagged behind its effect, if it does not trap. -/
theorem flagIf_of_accessing {next : State} {length : Nat} (h : s.accessing length next = .ok t) :
    next.flagIf (outOfBounds s.index.toNat length) .memory s.index.toNat length = t := by
  unfold State.accessing at h
  split at h
  · exact nomatch h
  · next hin => rw [State.flagIf, if_neg hin, ← Except.ok.inj h]

/-- An access that is flagged behind its effect, if it traps. -/
theorem fault_flagIf_of_accessing {next : State} {length : Nat}
    (h : s.accessing length next = .error trap) :
    (next.flagIf (outOfBounds s.index.toNat length) .memory s.index.toNat length).fault =
      next.fault.flag trap.code trap.access.1 trap.access.2 := by
  unfold State.accessing at h
  split at h
  · next hout =>
    rw [← Except.error.inj h, State.flagIf, if_pos hout]
    rfl
  · exact nomatch h

/-- An operation that completes leaves its effect. -/
theorem handle_of_effect (h : op.effect w byte s = .ok t) : op.handle w byte s = t := by
  cases op
  case ret =>
    simp only [Operation.effect] at h
    split at h
    · cases h
    · next hempty => exact (if_neg hempty).trans (Except.ok.inj h)
  case call =>
    simp only [Operation.effect] at h
    split at h
    · cases h
    · next hfull => exact (if_neg hfull).trans (Except.ok.inj h)
  case draw => exact flagIf_of_accessing h
  case storeDecimal => exact flagIf_of_accessing h
  case storeRegisters => exact flagIf_of_accessing h
  case loadRegisters => exact flagIf_of_accessing h
  all_goals exact Except.ok.inj h

/-- An operation that traps leaves the flag of its trap, whatever else it has written. -/
theorem fault_handle_of_effect (h : op.effect w byte s = .error trap) :
    (op.handle w byte s).fault = s.fault.flag trap.code trap.access.1 trap.access.2 := by
  cases op
  case ret =>
    simp only [Operation.effect] at h
    split at h
    · next hempty =>
      cases h
      exact congrArg State.fault (if_pos hempty)
    · cases h
  case call =>
    simp only [Operation.effect] at h
    split at h
    · next hfull =>
      cases h
      exact congrArg State.fault (if_pos hfull)
    · cases h
  case draw => exact fault_flagIf_of_accessing h
  case storeDecimal => exact fault_flagIf_of_accessing h
  case storeRegisters => exact fault_flagIf_of_accessing h
  case loadRegisters => exact fault_flagIf_of_accessing h
  all_goals cases h

/-- Both ways of carrying an operation out draw the same byte, with the same record before. -/
theorem exists_handle (op : Operation) (w : Word) (s : State) (source : ByteSource) :
    ∃ byte u, (op.run w s source).1 = op.effect w byte u ∧
      (op.handled w s source).1 = op.handle w byte u ∧ u.fault = s.fault := by
  unfold Operation.run Operation.handled
  split
  · exact ⟨_, _, rfl, rfl, rfl⟩
  · exact ⟨_, _, rfl, rfl, rfl⟩

/-- Both leave the same source of random bytes. -/
theorem source_handled (op : Operation) (w : Word) (s : State) (source : ByteSource) :
    (op.handled w s source).2 = (op.run w s source).2 := by
  unfold Operation.run Operation.handled
  split <;> rfl

/-- An operation that completes, its random byte drawn, leaves its effect. -/
theorem handled_of_ok {source : ByteSource} (h : (op.run w s source).1 = .ok t) :
    (op.handled w s source).1 = t := by
  obtain ⟨byte, u, hrun, hhandled, -⟩ := exists_handle op w s source
  rw [hhandled]
  exact handle_of_effect (hrun.symm.trans h)

/-- An operation that traps, its random byte drawn, leaves the flag of its trap. -/
theorem fault_handled_of_error {source : ByteSource} (h : (op.run w s source).1 = .error trap) :
    (op.handled w s source).1.fault = s.fault.flag trap.code trap.access.1 trap.access.2 := by
  obtain ⟨byte, u, hrun, hhandled, hfault⟩ := exists_handle op w s source
  rw [hhandled, ← hfault]
  exact fault_handle_of_effect (hrun.symm.trans h)

end

/-! ### Cycles -/

namespace State

/-- A cycle that carries its instruction out, flags what was wrong, and keeps what can be kept; and
    the entry of its word in the table of all words.  The entry picks the operation, and a word that
    has none runs the first one of all.  The flag for a word without an operation comes next, and
    the one for a word outside of memory last. -/
def flaggedCycle (s : State) (source : ByteSource) : (State × Int) × ByteSource :=
  let word := s.memory.wordAt s.pc.toNat
  let index := Operation.index word
  let op := Operation.all.getD index.toNat .clear
  let (handled, source') := op.handled word { s with pc := s.pc + 2 } source
  let flagged := (handled.flagIf (index < 0) .unknownOpcode 0 0).flagIf (outOfBounds s.pc.toNat 2) .memory
    s.pc.toNat 2
  ((s.commit flagged s.pc word, index), source')

/-- The entry of a word picks its operation. -/
theorem getD_index (w : Word) :
    Operation.all.getD (Operation.index w).toNat .clear = (Operation.ofWord? w).getD .clear := by
  rw [Operation.index_eq]
  cases hop : Operation.ofWord? w with
  | none => rfl
  | some op =>
    have hplace : Operation.all[op.position]? = some op := List.getElem?_idxOf (Operation.mem_all op)
    simp only [Int.toNat_natCast, List.getD_eq_getElem?_getD, hplace, Option.getD_some]

/-- The word outside of memory is carried out as well, and may draw a random byte. -/
theorem source_flaggedCycle (s : State) (source : ByteSource) :
    (s.flaggedCycle source).2 = (s.cycle source).2 := by
  have hsource : (s.flaggedCycle source).2 =
      (((Operation.ofWord? s.word).getD .clear).handled s.word { s with pc := s.pc + 2 } source).2 := by
    rw [← getD_index]
    rfl
  rw [hsource, source_handled, source_run, source_cycle]
  cases hop : Operation.ofWord? s.word with
  | none => rfl
  | some op => simp only [Option.getD_some, Option.some.injEq]

/-- What a cycle keeps, and its entry in the table. -/
theorem fst_flaggedCycle (s : State) (source : ByteSource) :
    (s.flaggedCycle source).1 =
      (let handled :=
        (((Operation.ofWord? s.word).getD .clear).handled s.word { s with pc := s.pc + 2 } source).1
      (s.commit ((handled.flagIf (Operation.index s.word < 0) .unknownOpcode 0 0).flagIf
          (decide (0xFFE < s.pc.toNat)) .memory s.pc.toNat 2) s.pc s.word,
        Operation.index s.word)) := by
  rw [← getD_index, ← outOfBounds_pc]
  rfl

/-- A cycle that faults records a trap. -/
theorem exists_trap_of_cycle {s : State} {source source' : ByteSource} {record : FaultRecord}
    (hclear : s.fault = .clear) (h : s.cycle source = (.error record, source')) :
    ∃ trap, s.trap? = some trap ∧ record = trap.record s.pc s.word := by
  cases htrap : s.trap? with
  | none =>
    obtain ⟨i, t, _, hstep⟩ := step_of_trap_none htrap source
    exact nomatch h.symm.trans (cycle_of_step hclear hstep)
  | some trap =>
    obtain ⟨hrecord, -⟩ := cycle_of_trap htrap source
    rw [h] at hrecord
    exact ⟨trap, rfl, Except.error.inj hrecord⟩

/-- A cycle that completes leaves record and dialect alone. -/
theorem fault_cycle {s t : State} {op : Operation} {source source' : ByteSource}
    (h : s.cycle source = (.ok (op, t), source')) : t.fault = s.fault ∧ t.dialect = s.dialect := by
  obtain ⟨byte, key, heffect⟩ := effect_of_run (cycle_eq_ok h).2.2
  have hfault := congrArg State.fault (effect_eq heffect)
  have hdialect := congrArg State.dialect (effect_eq heffect)
  exact ⟨hfault, hdialect⟩

/-- A cycle that traps keeps the state before it, with the record of the trap. -/
theorem flaggedCycle_of_trap {s : State} {trap : Trap} (h : s.trap? = some trap) (source : ByteSource) :
    (s.flaggedCycle source).1 =
      ({ s with fault := trap.record s.pc s.word }, Operation.index s.word) := by
  rw [fst_flaggedCycle]
  refine Prod.ext ?_ rfl
  rcases trap?_cases s with ⟨hpc, htrap⟩ | ⟨hpc, hop, htrap⟩ | ⟨op, hpc, hop, htrap⟩
  · -- The last flag is that of the place, whatever was flagged before.
    obtain rfl : Trap.outOfBounds s.pc.toNat 2 = trap := Option.some.inj (htrap.symm.trans h)
    simp only [decide_eq_true hpc, flagIf_true]
    exact commit_of_flag rfl s.pc s.word
  · obtain rfl : Trap.unknownOpcode = trap := Option.some.inj (htrap.symm.trans h)
    have hindex : Operation.index s.word = -1 := by rw [Operation.index_eq, hop]
    simp only [hindex, decide_eq_false (Nat.not_lt.mpr hpc), flagIf_false]
    exact commit_of_flag rfl s.pc s.word
  · -- The operation itself has flagged its trap, and nothing is flagged behind it.
    rw [htrap] at h
    have hindex : Operation.index s.word = op.position := by rw [Operation.index_eq, hop]
    have hknown : decide (Operation.index s.word < 0) = false := by
      rw [hindex]
      exact decide_eq_false (by omega)
    simp only [hknown, hop, Option.getD_some, decide_eq_false (Nat.not_lt.mpr hpc), flagIf_false]
    have hrun : (op.run s.word { s with pc := s.pc + 2 } source).1 = .error trap :=
      run_eq_error_iff.mpr h
    exact commit_of_flag (fault_handled_of_error hrun) s.pc s.word

/-- A cycle that completes keeps the state after its operation. -/
theorem flaggedCycle_of_ok {s t : State} {op : Operation} {source source' : ByteSource}
    (hclear : s.fault = .clear) (h : s.cycle source = (.ok (op, t), source')) :
    (s.flaggedCycle source).1 = (t, (op.position : Int)) := by
  obtain ⟨hpc, hop, hrun⟩ := cycle_eq_ok h
  have hindex : Operation.index s.word = op.position := by rw [Operation.index_eq, hop]
  have hknown : decide (Operation.index s.word < 0) = false := by
    rw [hindex]
    exact decide_eq_false (by omega)
  have hhandled : (op.handled s.word { s with pc := s.pc + 2 } source).1 = t :=
    handled_of_ok (congrArg Prod.fst hrun)
  have hfault : t.fault = .clear := (fault_cycle h).1.trans hclear
  rw [fst_flaggedCycle]
  simp only [hknown, hop, Option.getD_some, decide_eq_false (Nat.not_lt.mpr hpc), hhandled, flagIf_false,
    commit_of_clear hfault]
  rw [hindex]

/-- **A cycle keeps what a cycle with flags keeps.**  The operation that completes leaves the state
    after it, and a fault its record on the state before. -/
theorem flaggedCycle_eq_cycle {s : State} (hclear : s.fault = .clear) (source : ByteSource) :
    s.flaggedCycle source =
      match s.cycle source with
      | (.ok (op, t), source') => ((t, op.position), source')
      | (.error record, source') => (({ s with fault := record }, Operation.index s.word), source') := by
  have hsource := s.source_flaggedCycle source
  rcases hcycle : s.cycle source with ⟨record | ⟨op, t⟩, source'⟩
  · rw [hcycle] at hsource
    obtain ⟨trap, htrap, rfl⟩ := exists_trap_of_cycle hclear hcycle
    exact Prod.ext (flaggedCycle_of_trap htrap source) hsource
  · rw [hcycle] at hsource
    exact Prod.ext (flaggedCycle_of_ok hclear hcycle) hsource

end State

/-! ### The loop of a batch -/

/-- What the loop of a batch carries from one round to the next: the state, how many instructions
    completed, and whether the last of them was a draw that ends the batch. -/
structure Carry where
  state : State
  executed : Nat
  drew : Bool
  source : ByteSource

namespace Carry

/-- The batch that is over with these values. -/
def batch (c : Carry) : State.Batch := ⟨c.state, c.executed, c.source⟩

/-- Whether there is another round. -/
def goesOn (n : Nat) (c : Carry) : Bool := decide (c.executed < n) && !c.state.fault.isSet && !c.drew

/-- One round.  `waits` says whether draws end batches. -/
def round (waits : Bool) (c : Carry) : Carry :=
  let ((state, index), source) := c.state.flaggedCycle c.source
  let ok := !state.fault.isSet
  let drew := ok && decide (index = Operation.draw.position) && waits
  ⟨state, if ok then c.executed + 1 else c.executed, drew, source⟩

/-- So many rounds at most, as long as there is another. -/
def loop (waits : Bool) (n : Nat) : Nat → Carry → Carry
  | 0, c => c
  | rounds + 1, c => if c.goesOn n then loop waits n rounds (c.round waits) else c

/-- There are no more rounds after the last one. -/
theorem loop_of_stopped {n : Nat} {c : Carry} (h : c.goesOn n = false) (waits : Bool) (rounds : Nat) :
    loop waits n rounds c = c := by
  cases rounds with
  | zero => rfl
  | succ rounds => exact if_neg (by simp [h])

section

variable {s t : State} {op : Operation} {source source' : ByteSource} {record : FaultRecord}

/-- A clear record tells of no fault. -/
theorem isSet_of_clear (h : s.fault = .clear) : s.fault.isSet = false := by
  rw [h]
  rfl

/-- The table tells a draw by its place. -/
theorem position_eq_draw_iff (op : Operation) :
    (op.position : Int) = Operation.draw.position ↔ op = .draw := by
  cases op <;> decide

/-- A round whose cycle faults keeps the record and is the last one. -/
theorem round_of_error (hclear : s.fault = .clear) (h : s.cycle source = (.error record, source'))
    (waits : Bool) (executed : Nat) :
    round waits ⟨s, executed, false, source⟩ = ⟨{ s with fault := record }, executed, false, source'⟩ ∧
      record.isSet = true := by
  obtain ⟨trap, -, hrecord⟩ := State.exists_trap_of_cycle hclear h
  have hset : record.isSet = true := by
    rw [hrecord]
    exact trap.isSet_record s.pc s.word
  have hflagged := State.flaggedCycle_eq_cycle hclear source
  rw [h] at hflagged
  refine ⟨?_, hset⟩
  simp only [round, hflagged, hset, Bool.not_true, Bool.false_and, Bool.false_eq_true, if_false]

/-- A round whose cycle completes counts its instruction. -/
theorem round_of_ok (hclear : s.fault = .clear) (h : s.cycle source = (.ok (op, t), source'))
    (waits : Bool) (executed : Nat) :
    round waits ⟨s, executed, false, source⟩ =
      ⟨t, executed + 1, decide (op = .draw) && waits, source'⟩ := by
  have hset : t.fault.isSet = false := isSet_of_clear ((State.fault_cycle h).1.trans hclear)
  have hflagged := State.flaggedCycle_eq_cycle hclear source
  rw [h] at hflagged
  simp only [round, hflagged, hset, Bool.not_false, Bool.true_and, if_true, position_eq_draw_iff]

end

/-- The loop does what is left of a batch, and then there is no other round. -/
theorem loop_eq_advance {s : State} {n budget rounds executed : Nat} (hclear : s.fault = .clear)
    (hbudget : executed + budget = n) (hrounds : budget < rounds) (source : ByteSource) :
    let last := loop s.dialect.drawEndsBatch n rounds ⟨s, executed, false, source⟩
    last.batch = s.advance source budget executed ∧ last.goesOn n = false := by
  induction budget generalizing s rounds executed source with
  | zero =>
    have hstopped : goesOn n ⟨s, executed, false, source⟩ = false := by
      simp [goesOn, show ¬ executed < n by omega]
    rw [loop_of_stopped hstopped]
    exact ⟨rfl, hstopped⟩
  | succ budget ih =>
    obtain ⟨rounds, rfl⟩ : ∃ k, rounds = k + 1 := ⟨rounds - 1, by omega⟩
    have hgoesOn : goesOn n ⟨s, executed, false, source⟩ = true := by
      simp [goesOn, isSet_of_clear hclear, show executed < n by omega]
    rw [loop, if_pos hgoesOn]
    rcases hcycle : s.cycle source with ⟨record | ⟨op, t⟩, source'⟩
    · -- The record stops the loop.
      obtain ⟨hround, hset⟩ := round_of_error hclear hcycle s.dialect.drawEndsBatch executed
      have hstopped : goesOn n ⟨{ s with fault := record }, executed, false, source'⟩ = false := by
        simp [goesOn, hset]
      rw [hround, loop_of_stopped hstopped, State.advance, hcycle]
      exact ⟨rfl, hstopped⟩
    · obtain ⟨hfault, hdialect⟩ := State.fault_cycle hcycle
      rw [round_of_ok hclear hcycle, State.advance, hcycle]
      by_cases hdraw : op = .draw ∧ t.dialect.drawEndsBatch = true
      · -- A draw that ends the batch stops the loop.
        have hdrew : (decide (op = .draw) && s.dialect.drawEndsBatch) = true := by
          rw [← hdialect, hdraw.2, decide_eq_true hdraw.1]
          rfl
        have hstopped : goesOn n ⟨t, executed + 1, true, source'⟩ = false := by simp [goesOn]
        rw [hdrew, loop_of_stopped hstopped]
        exact ⟨(if_pos hdraw).symm, hstopped⟩
      · have hdrew : (decide (op = .draw) && s.dialect.drawEndsBatch) = false := by
          rw [← hdialect, Bool.eq_false_iff, ne_eq, Bool.and_eq_true, decide_eq_true_iff]
          exact hdraw
        have hrest : executed + 1 + budget = n := by omega
        obtain ⟨hbatch, hstopped⟩ :=
          ih (hfault.trans hclear) hrest (Nat.lt_of_succ_lt_succ hrounds) source'
        rw [hdialect] at hbatch hstopped
        rw [hdrew]
        exact ⟨hbatch.trans (if_neg hdraw).symm, hstopped⟩

/-- **A batch is the loop with flags.**  The loop starts with a clear record and nothing executed.
    It ends by itself, after one round for each instruction of the budget and one more at most, with
    the state, the count and the random bytes of the batch. -/
theorem loop_eq_runBatch (s : State) {n rounds : Nat} (h : n < rounds) (source : ByteSource) :
    let last := loop s.dialect.drawEndsBatch n rounds ⟨{ s with fault := .clear }, 0, false, source⟩
    last.batch = s.runBatch n source ∧ last.goesOn n = false :=
  loop_eq_advance (s := { s with fault := .clear }) rfl (Nat.zero_add n) h source

end Carry

/-! ### One instruction -/

namespace State

/-- **An instruction is kept or raises its flag.**  It is carried out on a clear record.  What is
    kept of it is the state after it, or has a record that stands for the fault. -/
theorem execute_eq_commit (s : State) (i : Instruction) (source : ByteSource) :
    let before : State := { s with fault := .clear }
    let handled := i.op.handled i.word before source
    let kept := before.commit handled.1 (Word.ofInt (i.address.getD s.pc.toNat)) i.word
    (s.execute i source).2 = handled.2 ∧
      (∀ t, (s.execute i source).1 = .ok t →
        kept = t ∧ kept.fault.fault? kept.stack.depth = .ok none) ∧
      ∀ fault, (s.execute i source).1 = .error fault →
        kept.fault.fault? kept.stack.depth = .ok (some fault) := by
  intro before handled kept
  have hsource : handled.2 = (i.op.run i.word before source).2 :=
    source_handled i.op i.word before source
  rcases hrun : i.op.run i.word before source with ⟨trap | t, source'⟩
  · have hexecute : s.execute i source =
        (.error (trap.fault (Word.ofInt (i.address.getD s.pc.toNat)).toNat i.word
          s.stack.depth), source') := by
      rw [execute, hrun]
    have hkept : kept = { before with
        fault := trap.record (Word.ofInt (i.address.getD s.pc.toNat)) i.word } :=
      commit_of_flag (fault_handled_of_error (congrArg Prod.fst hrun)) _ _
    rw [hexecute, hkept, hsource, hrun]
    refine ⟨rfl, fun u hu => absurd hu (by simp), fun fault hfault => ?_⟩
    rw [← Except.error.inj hfault]
    exact trap.fault?_record _ _ _
  · have hexecute : s.execute i source = (.ok t, source') := by rw [execute, hrun]
    obtain ⟨byte, key, heffect⟩ := effect_of_run hrun
    have hfault := congrArg State.fault (effect_eq heffect)
    have hkept : kept = t := by
      have hhandled : handled.1 = t := handled_of_ok (congrArg Prod.fst hrun)
      show before.commit handled.1 _ _ = t
      rw [hhandled]
      exact commit_of_clear hfault _ _
    rw [hexecute, hkept, hsource, hrun, hfault]
    exact ⟨rfl, fun u hu => ⟨Except.ok.inj hu, rfl⟩, fun fault hfault => absurd hfault (by simp)⟩

end State

end Chip8
