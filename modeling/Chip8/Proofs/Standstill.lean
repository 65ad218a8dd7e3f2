import Chip8.Proofs.FirstFault
import Chip8.Proofs.FreshStart
import Chip8.Proofs.History
import Chip8.Proofs.Writes

namespace Chip8

/-!
# Machines at a standstill

A frame that fails with a fault leaves the machine in front of the instruction that cannot complete.
Running it again fails again, with the same fault.  Keys, registers and timers do not help.

* `State.SamePlace` — two states that are in front of the same instruction, with the same I and
  stack;
* `SamePlace.trap?_eq` — the instruction traps in both or in neither;
* `Machine.StuckAt` — a machine that stands where a fault comes next;
* `StuckAt.step`, `StuckAt.frame`, `StuckAt.frame_zero` — what such a machine answers;
* `StuckAt.perform` — which operations leave it there;
* `load_completes`, `pokePc_completes`, `pokeMemory_completes`, `pokeIndex_completes` — how each of
  the others can get it going;
* `fault_repeats` — what comes after a frame that failed, whatever its host does in the meantime.
-/

namespace State

variable {s t u : State}

/-- The states agree in what decides whether the next instruction completes: program counter, I,
    memory and call stack.  They also agree in the screen and in the random bytes to come. -/
structure SamePlace (s t : State) : Prop where
  pc : t.pc = s.pc
  index : t.index = s.index
  memory : t.memory = s.memory
  stack : t.stack = s.stack
  screen : t.screen = s.screen
  key : t.key = s.key

theorem SamePlace.refl (s : State) : s.SamePlace s := ⟨rfl, rfl, rfl, rfl, rfl, rfl⟩

theorem SamePlace.trans (h : s.SamePlace t) (h' : t.SamePlace u) : s.SamePlace u where
  pc := h'.pc.trans h.pc
  index := h'.index.trans h.index
  memory := h'.memory.trans h.memory
  stack := h'.stack.trans h.stack
  screen := h'.screen.trans h.screen
  key := h'.key.trans h.key

/-- The word at the program counter is the same. -/
theorem SamePlace.word_eq (h : s.SamePlace t) : t.word = s.word := by
  rw [word, word, h.memory, h.pc]

/-- The next instruction runs into the same trap, or into none in both. -/
theorem SamePlace.trap?_eq (h : s.SamePlace t) : t.trap? = s.trap? := by
  -- Operations trap because of I and of the depth of the stack only.
  have hoperation (op : Operation) (w : Word) : op.trap? w t = op.trap? w s := by
    cases op <;> simp only [Operation.trap?, accessTrap?, h.index, h.stack]
  simp only [trap?, h.word_eq, h.pc, hoperation]

/-- An instruction inside memory traps where its operation does. -/
theorem trap?_of_ofWord? {op : Operation} (hpc : s.pc.toNat ≤ 0xFFE)
    (hop : Operation.ofWord? s.word = some op) : s.trap? = op.trap? s.word s := by
  have hin : ¬ 0xFFE < s.pc.toNat := Nat.not_lt.mpr hpc
  rw [trap?, if_neg hin, hop]

end State

/-- Whether an operation writes to what decides about the next instruction. -/
def Command.relocates : Command → Bool
  | .load _ | .pokeMemory _ _ | .pokeIndex _ | .pokePc _ => true
  | .setKey _ _ | .step | .frame _ | .pokeRegister _ _ | .pokeTimers _ _ => false

namespace Machine

variable {m t : Machine} {s : State} {fault : Fault} {count : Int}

/-- A program is loaded, the machine stands where `s` does, and the instruction there fails with
    `fault`. -/
structure StuckAt (s : State) (fault : Fault) (m : Machine) : Prop where
  loaded : m.loaded = true
  place : s.SamePlace m.state
  trap : ∃ trap, s.trap? = some trap ∧ fault = trap.fault s.pc.toNat s.word s.stack.depth

/-- A frame that failed with a fault leaves the machine where this fault comes next. -/
theorem stuckAt_frame (h : (m.frame count).result = .error (.fault fault)) :
    StuckAt (m.frame count).machine.state fault (m.frame count).machine := by
  obtain ⟨hloaded, -, u, -, trap, source, -, -, htrap, hfault, hmachine⟩ := frame_eq_fault h
  rw [hmachine]
  -- Neither the record nor the timers matter to the trap.
  exact ⟨hloaded, .refl _, trap, htrap, hfault⟩

namespace StuckAt

/-- The instruction in front of the machine itself fails with the fault. -/
theorem exists_trap (h : StuckAt s fault m) :
    ∃ trap, m.state.trap? = some trap ∧
      fault = trap.fault m.state.pc.toNat m.state.word m.state.stack.depth := by
  obtain ⟨trap, htrap, hfault⟩ := h.trap
  rw [h.place.trap?_eq, h.place.pc, h.place.word_eq, h.place.stack]
  exact ⟨trap, htrap, hfault⟩

/-- A machine that was not moved is still stuck. -/
theorem of_samePlace (h : StuckAt s fault m) (hloaded : t.loaded = m.loaded)
    (hplace : m.state.SamePlace t.state) : StuckAt s fault t :=
  ⟨hloaded.trans h.loaded, h.place.trans hplace, h.trap⟩

/-! ### Running it again -/

/-- A step fails with the fault and leaves the machine as it was. -/
theorem step (h : StuckAt s fault m) : m.step = m.faulted fault := by
  obtain ⟨trap, htrap, hfault⟩ := h.exists_trap
  rw [Machine.step, if_pos h.loaded, State.step_of_trap htrap, ← hfault]

/-- A frame with a budget fails with the fault and leaves the machine stuck. -/
theorem frame (h : StuckAt s fault m) (h₀ : 1 ≤ count) (h₁ : count < budgetLimit) :
    (m.frame count).result = .error (.fault fault) ∧ StuckAt s fault (m.frame count).machine := by
  obtain ⟨trap, htrap, hfault⟩ := h.exists_trap
  obtain ⟨n, hn⟩ : ∃ n, count.toNat = n + 1 := ⟨count.toNat - 1, by omega⟩
  -- The batch traps at its first instruction, however large the budget is.
  have hbatch : (m.state.runBatch count.toNat m.source).state =
      { m.state with fault := trap.record m.state.pc m.state.word } := by
    rw [hn, State.runBatch_of_trap htrap]
  have hnonneg : 0 ≤ count := by omega
  rw [frame_of_record hnonneg h.loaded h₁ hbatch, ← hfault]
  exact ⟨rfl, h.of_samePlace rfl ⟨rfl, rfl, rfl, rfl, rfl, rfl⟩⟩

/-- A frame without a budget completes nothing and leaves the machine stuck. -/
theorem frame_zero (h : StuckAt s fault m) :
    (m.frame 0).result = .ok (.executed 0) ∧ StuckAt s fault (m.frame 0).machine := by
  have hbatch : (m.state.runBatch (0 : Int).toNat m.source).state =
      { m.state with fault := .clear } := rfl
  rw [frame_of_clear (by decide) h.loaded (by decide) hbatch]
  exact ⟨rfl, h.of_samePlace rfl ⟨rfl, rfl, rfl, rfl, rfl, rfl⟩⟩

/-- Every frame leaves the machine stuck, whether it runs, completes nothing or is refused. -/
theorem machine_frame (h : StuckAt s fault m) (count : Int) :
    StuckAt s fault (m.frame count).machine := by
  by_cases haccepted : 0 ≤ count ∧ m.loaded = true ∧ count < budgetLimit
  · -- What is accepted has a budget or none.
    obtain ⟨h₀, -, h₁⟩ := haccepted
    rcases Int.lt_or_eq_of_le h₀ with hpos | rfl
    · exact (h.frame hpos h₁).2
    · exact h.frame_zero.2
  · obtain ⟨error, -, hframe⟩ := frame_of_refused haccepted
    rw [hframe]
    exact h

/-! ### Other operations -/

/-- A key pressed or released leaves the machine stuck. -/
theorem setKey (h : StuckAt s fault m) (index down : Value) :
    StuckAt s fault (m.setKey index down).machine := by
  unfold Machine.setKey
  split
  · exact h.of_samePlace rfl ⟨rfl, rfl, rfl, rfl, rfl, rfl⟩
  · exact h

/-- A write that does not move the machine leaves it stuck, and so does one that is refused. -/
theorem poke (h : StuckAt s fault m) {write : State → Except Fault State}
    (hwrite : ∀ u, write m.state = .ok u → m.state.SamePlace u) :
    StuckAt s fault (m.poke write).machine := by
  unfold Machine.poke
  split
  · next u hu => exact h.of_samePlace rfl (hwrite u hu)
  · exact h

/-- Every operation leaves the machine stuck that does not write to what decides about the next
    instruction. -/
theorem perform (h : StuckAt s fault m) {command : Command} (hcommand : command.relocates = false) :
    StuckAt s fault (m.perform command).machine := by
  cases command with
  | setKey index down => exact h.setKey index down
  | step =>
    rw [Machine.perform, h.step]
    exact h
  | frame count => exact h.machine_frame count
  | pokeRegister register value =>
    apply h.poke
    intro u hu
    obtain ⟨r, b, rfl⟩ := State.pokeRegister_eq_ok hu
    exact ⟨rfl, rfl, rfl, rfl, rfl, rfl⟩
  | pokeTimers delay sound =>
    apply h.poke
    intro u hu
    obtain ⟨a, b, rfl⟩ := State.pokeTimers_eq_ok hu
    exact ⟨rfl, rfl, rfl, rfl, rfl, rfl⟩
  | load rom => exact nomatch hcommand
  | pokeMemory address value => exact nomatch hcommand
  | pokeIndex value => exact nomatch hcommand
  | pokePc value => exact nomatch hcommand

end StuckAt

/-! ### What ends a standstill -/

/-- A step completes if a program is loaded and the operation of its word does not trap. -/
theorem step_completes {op : Operation} (hloaded : m.loaded = true) (hpc : m.state.pc.toNat ≤ 0xFFE)
    (hop : Operation.ofWord? m.state.word = some op) (h : op.trap? m.state.word m.state = none) :
    m.step.result = .ok (.completed op) := by
  have htrap : m.state.trap? = none := (State.trap?_of_ofWord? hpc hop).trans h
  obtain ⟨i, u, source, hstep⟩ := State.step_of_trap_none htrap m.source
  -- What completes is the operation of the word.
  have hi : i.op = op := by
    obtain ⟨-, -, hi, -⟩ := State.step_eq_ok hstep
    exact Option.some.inj (hi.symm.trans hop)
  rw [step, if_pos hloaded, hstep, ← hi]

/-- A word whose high byte is `0x60` sets V0 to its low byte, whatever that is. -/
theorem ofWord?_setByte (low : UInt8) : Operation.ofWord? (Word.ofBytes 0x60 low) = some .setByte := by
  have hlow := low.toNat_lt
  have hhigh : (0x60 : UInt8).toNat = 0x60 := rfl
  have hlead : (Word.lead (Word.ofBytes 0x60 low)).val = 6 := by
    simp only [Word.lead, toNat_ofBytes, hhigh]
    omega
  simp only [Operation.ofWord?, hlead]

/-- A step at a byte `0x60` completes. -/
theorem step_setByte (hloaded : m.loaded = true) (hpc : m.state.pc.toNat ≤ 0xFFE)
    (hbyte : m.state.memory.byteAt m.state.pc.toNat = 0x60) :
    m.step.result = .ok (.completed .setByte) := by
  have hword : m.state.word = Word.ofBytes 0x60 (m.state.memory.byteAt (m.state.pc.toNat + 1 : Nat)) :=
    State.word_of_byteAt rfl hbyte rfl
  apply step_completes hloaded hpc
  · rw [hword]
    exact ofWord?_setByte _
  · rfl

/-- An operation that runs past the end of memory does not do so from address zero. -/
theorem operation_trap?_index_zero {op : Operation} {w : Word} {s : State} {address length : Nat}
    (h : op.trap? w s = some (.outOfBounds address length)) :
    op.trap? w { s with index := 0 } = none := by
  obtain ⟨size, hsize, hop⟩ := trap?_of_access h
  rw [hop]
  apply if_neg
  show ¬ 4096 < (0 : UInt16).toNat + size
  rw [UInt16.toNat_zero]
  omega

/-- A write that is not refused leaves the state that it gives. -/
theorem machine_poke_of_ok (write : State → Except Fault State) {u : State}
    (h : write m.state = .ok u) : (m.poke write).machine = { m with state := u } := by
  rw [poke, h]

/-- A program that starts with such a byte runs wherever the machine stood before. -/
theorem load_completes (m : Machine) :
    (m.perform (.load ([0x60, 0x00] : List UInt8))).machine.step.result = .ok (.completed .setByte) := by
  have hpc : (0x200 : UInt16).toNat = 0x200 := rfl
  show (m.load [0x60, 0x00]).machine.step.result = _
  rw [(load_of_le m (by decide)).2]
  apply step_setByte
  · rfl
  · show (0x200 : UInt16).toNat ≤ 0xFFE
    decide
  · show (startMemory [0x60, 0x00]).byteAt (0x200 : UInt16).toNat = 0x60
    rw [hpc, byteAt_startMemory _ (by decide)]
    rfl

/-- A host can move the program counter to such a byte. -/
theorem pokePc_completes (hloaded : m.loaded = true) {a : Nat} (ha : a ≤ 0xFFE)
    (hbyte : m.state.memory.byteAt a = 0x60) :
    (m.perform (.pokePc (.int a))).machine.step.result = .ok (.completed .setByte) := by
  have hlt : a < memorySize := Nat.lt_of_le_of_lt ha (by decide)
  have hpc : (UInt16.ofNat a).toNat = a := by
    rw [UInt16.toNat_ofNat', Nat.mod_eq_of_lt (by omega)]
  have hpoke : m.state.pokePc (.int a) = .ok { m.state with pc := UInt16.ofNat a } := by
    rw [State.pokePc, checked_int "pc" hlt]
    rfl
  rw [perform, machine_poke_of_ok (·.pokePc (.int a)) hpoke]
  apply step_setByte
  · exact hloaded
  · rw [hpc]
    exact ha
  · rw [hpc]
    exact hbyte

/-- A host can write such a byte to where the program counter is. -/
theorem pokeMemory_completes (hloaded : m.loaded = true) (hpc : m.state.pc.toNat ≤ 0xFFE) :
    (m.perform (.pokeMemory (.int m.state.pc.toNat) (.int 0x60))).machine.step.result
      = .ok (.completed .setByte) := by
  have hlt : m.state.pc.toNat < memorySize := Nat.lt_of_le_of_lt hpc (by decide)
  have hpoke : m.state.pokeMemory (.int m.state.pc.toNat) (.int 0x60) =
      .ok { m.state with memory := m.state.memory.writeByte m.state.pc.toNat 0x60 } := by
    rw [State.pokeMemory, checked_int "address" hlt]
    rfl
  rw [perform, machine_poke_of_ok (·.pokeMemory (.int m.state.pc.toNat) (.int 0x60)) hpoke]
  apply step_setByte
  · exact hloaded
  · exact hpc
  · rw [Memory.byteAt_writeByte _ _ _ hlt, if_pos rfl]

/-- A host can take I away from the end of memory, if that is what the instruction traps at. -/
theorem pokeIndex_completes (hloaded : m.loaded = true) (hpc : m.state.pc.toNat ≤ 0xFFE)
    {address length : Nat} (h : m.state.trap? = some (.outOfBounds address length)) :
    ∃ op, (m.perform (.pokeIndex (.int 0))).machine.step.result = .ok (.completed op) := by
  obtain ⟨hlt, -⟩ | ⟨-, -, hnone⟩ | ⟨op, -, hop, htrap⟩ := trap?_cases m.state
  · omega
  · rw [hnone] at h
    exact nomatch h
  · rw [htrap] at h
    exact ⟨op, step_completes hloaded hpc hop (operation_trap?_index_zero h)⟩

/-! ### After a fault -/

/-- **Faults repeat.**  After a frame that failed with a fault, the machine stays where it is until
    a program is loaded or a host writes to memory, I or the program counter.  Every step and every
    frame with a budget fails with the same fault, and a frame without a budget completes
    nothing. -/
theorem fault_repeats (h : (m.frame count).result = .error (.fault fault))
    (hlater : (m.frame count).machine.Leads (fun command => command.relocates = false) t) :
    (m.frame count).machine.state.SamePlace t.state ∧
      t.step.result = .error (.fault fault) ∧
      (∀ n : Int, 1 ≤ n → n < 0x80000000 → (t.frame n).result = .error (.fault fault)) ∧
      (t.frame 0).result = .ok (.executed 0) := by
  -- The invariant of the history is where the machine is stuck, and at what.
  have hstuck : StuckAt (m.frame count).machine.state fault t :=
    hlater.keeps (stuckAt_frame h) fun u command hu hcommand => hu.perform hcommand
  refine ⟨hstuck.place, ?_, ?_, hstuck.frame_zero.1⟩
  · rw [hstuck.step]
    rfl
  · intro n h₀ h₁
    exact (hstuck.frame h₀ h₁).1

/-- A sprite of thirteen rows drawn from the last eight bytes of memory.  Keys, registers and timers
    do not help, while each of the four operations that relocate the machine does. -/
theorem fault_repeats_sprite :
    let s : State :=
      { State.initial {} default with
        memory := ⟨Vector.ofFn fun a => if a.val = 0x300 then 0x60 else 0xDD⟩
        index := 0xFF8 }
    let m : Machine := ⟨s, .key, default, true⟩
    let fault : Fault := .memoryOutOfBounds 0xFF8 13 (some 0x200)
    let stopped := (m.frame 5).machine
    let later := stopped.after
      [.setKey (.int 1) (.bool true), .frame 0, .pokeRegister (.int 3) (.int 9), .step]
    (later.step.result = .error (.fault fault) ∧ (later.frame 7).result = .error (.fault fault)) ∧
      (stopped.perform (.load ([0x60, 0x00] : List UInt8))).machine.step.result = .ok (.completed .setByte) ∧
      (stopped.perform (.pokePc (.int (0x300 : Nat)))).machine.step.result
        = .ok (.completed .setByte) ∧
      (stopped.perform (.pokeMemory (.int stopped.state.pc.toNat) (.int 0x60))).machine.step.result
        = .ok (.completed .setByte) ∧
      ∃ op, (stopped.perform (.pokeIndex (.int 0))).machine.step.result = .ok (.completed op) := by
  intro s m fault stopped later
  have hword : s.word = 0xDDDD := by
    rw [State.word_eq_clampedWord]
    simp only [State.clampedWord, s, Vector.getElem_ofFn]
    rfl
  have hdraw : Operation.ofWord? s.word = some .draw := by
    rw [hword]
    decide
  have htrap : s.trap? = some (.outOfBounds 0xFF8 13) := by
    rw [State.trap?_of_ofWord? (by decide) hdraw, hword]
    rfl
  have hbatch : (s.runBatch 5 .key).state =
      { s with fault := (Trap.outOfBounds 0xFF8 13).record s.pc s.word } := by
    rw [State.runBatch_of_trap htrap]
  have hframe : m.frame 5 = _ := frame_of_record (by decide) rfl (by decide) hbatch
  have hresult : (m.frame 5).result = .error (.fault fault) := by
    rw [hframe]
    rfl
  have hkeep : ∀ command ∈ [Command.setKey (.int 1) (.bool true), .frame 0,
      .pokeRegister (.int 3) (.int 9), .step], command.relocates = false := by decide
  obtain ⟨-, hstep, hframes, -⟩ := fault_repeats hresult (Leads.refl.after hkeep)
  refine ⟨⟨hstep, hframes 7 (by decide) (by decide)⟩, ?_⟩
  -- The frame has changed nothing but the record and the timers.
  have hplace : s.SamePlace stopped.state := by
    rw [show stopped = _ from congrArg Reply.machine hframe]
    exact ⟨rfl, rfl, rfl, rfl, rfl, rfl⟩
  have hbyte : stopped.state.memory.byteAt (0x300 : Nat) = 0x60 := by
    rw [hplace.memory, Memory.byteAt_natCast, Vector.getElem_ofFn]
    rfl
  have hpc : stopped.state.pc.toNat ≤ 0xFFE := by
    rw [hplace.pc]
    decide
  have hloaded : stopped.loaded = true := (stuckAt_frame hresult).loaded
  refine ⟨load_completes stopped, ?_, ?_, ?_⟩
  · exact pokePc_completes hloaded (by decide) hbyte
  · exact pokeMemory_completes hloaded hpc
  · exact pokeIndex_completes hloaded hpc (hplace.trap?_eq.trans htrap)

end Machine

end Chip8
