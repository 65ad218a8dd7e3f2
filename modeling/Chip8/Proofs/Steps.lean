import Chip8.Proofs.Effect

namespace Chip8

/-!
# Single steps

What one instruction does when it is run on its own and when it is run in a batch, told apart by its
trap, and the runs of instructions that complete one after the other.

* `execute_of_effect` — what an instruction does that is executed without being fetched;
* `step_of_trap`, `step_of_trap_none` — a single step fails with the fault of its trap, and
  completes if it has none;
* `step_eq_ok` — what a completed step has done;
* `cycle_of_trap`, `cycle_of_step` — a cycle of a batch records the same trap, and otherwise does
  what the single step does;
* `cycle_eq_ok` — what a completed cycle has done;
* `source_cycle` — when a cycle draws a random byte;
* `source_step_key`, `source_cycle_key` — the key of the state draws without asking a host;
* `Steps` — a run of single steps that all complete.
-/

namespace Word

/-- A word is the word of its number. -/
@[simp] theorem ofInt_toNat (w : Word) : ofInt w.toNat = w := by
  apply UInt16.toNat_inj.mp
  have h := w.toNat_lt
  have hz := toNat_ofInt w.toNat
  omega

end Word

namespace State

variable {s t : State}

/-- The state that an instruction runs on in a single step: the program counter is past the word,
    and the fault record is clear. -/
def fetched (s : State) : State := { s with pc := s.pc + 2, fault := .clear }

/-- The word at the program counter as an instruction. -/
def instruction (s : State) (op : Operation) : Instruction := ⟨op, s.word, some s.pc.toNat⟩

/-! ### One instruction on its own -/

/-- An instruction that needs no random byte and does not trap has its effect on the state with a
    clear fault record. -/
theorem execute_of_effect {i : Instruction} (hop : i.op ≠ .random)
    (h : i.op.effect i.word 0 { s with fault := .clear } = .ok t) (source : ByteSource) :
    s.execute i source = (.ok t, source) := by
  have hrun : i.op.run i.word { s with fault := .clear } source = (.ok t, source) := by
    rw [Operation.run, if_neg hop, h]
  rw [execute, hrun]

/-- A word inside memory is fetched. -/
theorem fetch_of_le (h : s.pc.toNat ≤ 0xFFE) :
    s.fetch = .ok (s.word, { s with pc := s.pc + 2 }) := by
  have hrange : checkRange s.pc.toNat 2 (some s.pc.toNat) = .ok () := by
    rw [checkRange, if_neg (by omega)]
  rw [fetch, hrange]
  rfl

/-- A word outside of memory is not fetched. -/
theorem fetch_of_lt (h : 0xFFE < s.pc.toNat) :
    s.fetch = .error (.memoryOutOfBounds s.pc.toNat 2 (some s.pc.toNat)) := by
  have hrange : checkRange s.pc.toNat 2 (some s.pc.toNat)
      = .error (.memoryOutOfBounds s.pc.toNat 2 (some s.pc.toNat)) := by
    rw [checkRange, if_pos (by omega)]
  rw [fetch, hrange]
  rfl

section

variable {op : Operation} {source source' : ByteSource}

/-- A single step runs the operation of the fetched word. -/
theorem step_of_ofWord? (h : s.pc.toNat ≤ 0xFFE) (hop : Operation.ofWord? s.word = some op) :
    s.step source =
      match op.run s.word s.fetched source with
      | (.ok t, source') => (.ok (s.instruction op, t), source')
      | (.error trap, source') =>
        (.error (trap.fault s.pc.toNat s.word s.stack.depth), source') := by
  -- Fetch, decode and execute hand on the same word and the same address.
  have hdecode : Instruction.decode s.word.toNat (some s.pc.toNat) = .ok (s.instruction op) := by
    simp [Instruction.decode, hop, instruction]
  simp only [step, fetch_of_le h, hdecode, execute, instruction, Option.getD_some, Word.ofInt_toNat]
  rcases hrun : op.run s.word s.fetched source with ⟨trap | t, source'⟩
  all_goals
    simp only [fetched] at hrun
    rw [hrun]
    rfl

/-- A single step completes when the operation of its word does. -/
theorem step_of_run (h : s.pc.toNat ≤ 0xFFE) (hop : Operation.ofWord? s.word = some op)
    (hrun : op.run s.word s.fetched source = (.ok t, source')) :
    s.step source = (.ok (s.instruction op, t), source') := by
  rw [step_of_ofWord? h hop, hrun]

end

/-- A single step whose instruction traps fails, and draws no random byte. -/
theorem step_of_trap {trap : Trap} (h : s.trap? = some trap) (source : ByteSource) :
    s.step source = (.error (trap.fault s.pc.toNat s.word s.stack.depth), source) := by
  rcases trap?_cases s with ⟨hpc, htrap⟩ | ⟨hpc, hop, htrap⟩ | ⟨op, hpc, hop, htrap⟩
  · rw [htrap, Option.some.injEq] at h
    subst h
    rw [step, fetch_of_lt hpc]
    rfl
  · rw [htrap, Option.some.injEq] at h
    subst h
    simp [step, fetch_of_le hpc, Instruction.decode, hop, Trap.fault]
  · rw [htrap] at h
    have hrun : op.run s.word s.fetched source = (.error trap, source) :=
      Prod.ext (run_eq_error_iff.mpr h) (source_run_of_trap (s := s.fetched) h source)
    rw [step_of_ofWord? hpc hop, hrun]

/-- An instruction without a trap lies inside memory and has an operation that completes. -/
theorem run_of_trap_none (h : s.trap? = none) (source : ByteSource) :
    s.pc.toNat ≤ 0xFFE ∧ ∃ op t source', Operation.ofWord? s.word = some op ∧
      op.run s.word s.fetched source = (.ok t, source') := by
  rcases trap?_cases s with ⟨-, htrap⟩ | ⟨-, -, htrap⟩ | ⟨op, hpc, hop, htrap⟩
  · rw [htrap] at h
    exact nomatch h
  · rw [htrap] at h
    exact nomatch h
  · rw [htrap] at h
    obtain ⟨t, ht⟩ := run_eq_ok_of_trap_none (s := s.fetched) h source
    exact ⟨hpc, op, t, _, hop, Prod.ext ht rfl⟩

/-- A single step whose instruction does not trap completes. -/
theorem step_of_trap_none (h : s.trap? = none) (source : ByteSource) :
    ∃ i t source', s.step source = (.ok (i, t), source') := by
  obtain ⟨hle, op, t, source', hop, hrun⟩ := run_of_trap_none h source
  exact ⟨s.instruction op, t, source', step_of_run hle hop hrun⟩

/-- A single step that draws from the key of the state does not ask a host. -/
theorem source_step_key (s : State) : (s.step .key).2 = .key := by
  cases htrap : s.trap? with
  | some trap => rw [step_of_trap htrap]
  | none =>
    obtain ⟨hle, op, t, source, hop, hrun⟩ := run_of_trap_none htrap .key
    have hsource := source_run_key op s.word s.fetched
    rw [hrun] at hsource
    rw [step_of_run hle hop hrun]
    exact hsource

section

variable {i : Instruction} {source source' : ByteSource}

/-- A single step completes only if its instruction does not trap. -/
theorem trap?_of_step (h : s.step source = (.ok (i, t), source')) : s.trap? = none := by
  cases htrap : s.trap? with
  | none => rfl
  | some trap =>
    rw [step_of_trap htrap] at h
    exact nomatch h

/-- What a completed step has done: it has fetched a word inside memory and run its operation. -/
theorem step_eq_ok (h : s.step source = (.ok (i, t), source')) :
    s.pc.toNat ≤ 0xFFE ∧ i = s.instruction i.op ∧ Operation.ofWord? s.word = some i.op ∧
      i.op.run s.word s.fetched source = (.ok t, source') := by
  obtain ⟨hle, op, u, source'', hop, hrun⟩ := run_of_trap_none (trap?_of_step h) source
  rw [step_of_ofWord? hle hop, hrun] at h
  cases h
  exact ⟨hle, rfl, hop, hrun⟩

/-- A completed step in terms of the effect of its operation. -/
theorem effect_of_step (h : s.step source = (.ok (i, t), source')) :
    ∃ byte key, i.op.effect s.word byte { s.fetched with key } = .ok t :=
  effect_of_run (step_eq_ok h).2.2.2

/-- A completed step moves the program counter as its operation says. -/
theorem pc_step (h : s.step source = (.ok (i, t), source')) :
    t.pc = i.op.nextPc s.word s.fetched := by
  obtain ⟨byte, key, heffect⟩ := effect_of_step h
  exact congrArg State.pc (effect_eq heffect)

/-- A completed step moves the call stack as its operation says. -/
theorem stack_step (h : s.step source = (.ok (i, t), source')) :
    t.stack = i.op.nextStack s.fetched := by
  obtain ⟨byte, key, heffect⟩ := effect_of_step h
  exact congrArg State.stack (effect_eq heffect)

/-- A completed step leaves a clear fault record. -/
theorem fault_step (h : s.step source = (.ok (i, t), source')) : t.fault = .clear := by
  obtain ⟨byte, key, heffect⟩ := effect_of_step h
  exact congrArg State.fault (effect_eq heffect)

/-- A step does not change the dialect. -/
theorem dialect_step (h : s.step source = (.ok (i, t), source')) : t.dialect = s.dialect := by
  obtain ⟨byte, key, heffect⟩ := effect_of_step h
  exact (congrArg State.dialect (effect_eq heffect) :)

end

/-! ### One instruction in a batch -/

/-- The range test of a batch's fetch. -/
theorem outOfBounds_pc (s : State) : outOfBounds s.pc.toNat 2 = decide (0xFFE < s.pc.toNat) := by
  have h := s.pc.toNat_lt
  rw [Bool.eq_iff_iff, outOfBounds_iff (by omega) (by omega), decide_eq_true_iff]
  omega

/-- A cycle whose instruction traps records the trap.  It draws no random byte as long as the word
    lies inside memory. -/
theorem cycle_of_trap {trap : Trap} (h : s.trap? = some trap) (source : ByteSource) :
    (s.cycle source).1 = .error (trap.record s.pc s.word) ∧
      (s.pc.toNat ≤ 0xFFE → (s.cycle source).2 = source) := by
  have hword : s.memory.wordAt s.pc.toNat = s.word := rfl
  rcases trap?_cases s with ⟨hpc, htrap⟩ | ⟨hpc, hop, htrap⟩ | ⟨op, hpc, hop, htrap⟩
  · rw [htrap, Option.some.injEq] at h
    subst h
    refine ⟨?_, fun hle => absurd hpc (Nat.not_lt.mpr hle)⟩
    -- The word that is read is run and thrown away, if it has an operation at all.
    cases hop : Operation.ofWord? s.word <;> simp [cycle, hword, hop, outOfBounds_pc, hpc]
  · rw [htrap, Option.some.injEq] at h
    subst h
    simp [cycle, hword, hop, outOfBounds_pc, Nat.not_lt.mpr hpc]
  · rw [htrap] at h
    have hrun : op.run s.word { s with pc := s.pc + 2 } source = (.error trap, source) :=
      Prod.ext (run_eq_error_iff.mpr h)
        (source_run_of_trap (s := { s with pc := s.pc + 2 }) h source)
    simp [cycle, hword, hop, outOfBounds_pc, Nat.not_lt.mpr hpc, hrun]

/-- A cycle of a healthy state does what a single step does, if that completes. -/
theorem cycle_of_step {i : Instruction} {source source' : ByteSource} (hfault : s.fault = .clear)
    (h : s.step source = (.ok (i, t), source')) : s.cycle source = (.ok (i.op, t), source') := by
  obtain ⟨hle, -, hop, hrun⟩ := step_eq_ok h
  have hword : s.memory.wordAt s.pc.toNat = s.word := rfl
  have hpc : ¬ 0xFFE < s.pc.toNat := by omega
  have hfetched : s.fetched = { s with pc := s.pc + 2 } := by rw [fetched, ← hfault]
  rw [hfetched] at hrun
  simp [cycle, hword, hop, outOfBounds_pc, hpc, hrun]

/-- A cycle draws a random byte exactly when the word that it reads is that of the one instruction
    that needs one, inside memory or not. -/
theorem source_cycle (s : State) (source : ByteSource) :
    (s.cycle source).2 =
      if Operation.ofWord? s.word = some .random then (source.draw s.key).2.2 else source := by
  have hword : s.memory.wordAt s.pc.toNat = s.word := rfl
  unfold cycle
  simp only [hword]
  cases hop : Operation.ofWord? s.word with
  | none => rfl
  | some op =>
    have hsource : (op.run s.word { s with pc := s.pc + 2 } source).2 =
        if op = .random then (source.draw s.key).2.2 else source := source_run ..
    rcases hrun : op.run s.word { s with pc := s.pc + 2 } source with ⟨trap | t, source'⟩
    -- What the operation has done is kept, is thrown away, or is a trap.  The draw stays.
    all_goals
      rw [hrun] at hsource
      simp only [hrun, Option.some.injEq, ← hsource]
      split <;> rfl

/-- A cycle that draws from the key of the state does not ask a host, not even when it runs a word
    that is not inside memory. -/
theorem source_cycle_key (s : State) : (s.cycle .key).2 = .key := by
  rw [source_cycle]
  split <;> rfl

/-- What a completed cycle has done: it has run the operation of a word inside memory. -/
theorem cycle_eq_ok {op : Operation} {source source' : ByteSource}
    (h : s.cycle source = (.ok (op, t), source')) :
    s.pc.toNat ≤ 0xFFE ∧ Operation.ofWord? s.word = some op ∧
      op.run s.word { s with pc := s.pc + 2 } source = (.ok t, source') := by
  have hword : s.memory.wordAt s.pc.toNat = s.word := rfl
  unfold cycle at h
  simp only [hword, outOfBounds_pc, decide_eq_true_eq] at h
  cases hop : Operation.ofWord? s.word with
  | none =>
    rw [hop] at h
    exact nomatch h
  | some other =>
    rw [hop] at h
    rcases hrun : other.run s.word { s with pc := s.pc + 2 } source with ⟨trap | u, source''⟩
    -- Only an operation that completes inside memory gives a state.
    all_goals
      simp only [hrun] at h
      split at h
    · exact nomatch h
    · exact nomatch h
    · exact nomatch h
    · next hpc =>
      cases h
      exact ⟨Nat.le_of_not_lt hpc, rfl, hrun⟩

/-- A completed cycle moves the program counter as its operation says. -/
theorem pc_cycle {op : Operation} {source source' : ByteSource}
    (h : s.cycle source = (.ok (op, t), source')) : t.pc = op.nextPc s.word s.fetched := by
  obtain ⟨byte, key, heffect⟩ := effect_of_run (cycle_eq_ok h).2.2
  exact congrArg State.pc (effect_eq heffect)

/-! ### Runs -/

/-- `s.Steps source instructions t source'` says that single steps from `s` complete these
    instructions one after the other and end in `t`.  Random bytes come from `source` first and from
    `source'` next. -/
inductive Steps : State → ByteSource → List Instruction → State → ByteSource → Prop
  | nil (s : State) (source : ByteSource) : Steps s source [] s source
  | cons {s t u : State} {source source' source'' : ByteSource} {i : Instruction}
      {instructions : List Instruction} (first : s.step source = (.ok (i, t), source'))
      (rest : Steps t source' instructions u source'') :
      Steps s source (i :: instructions) u source''

/-- A run goes on where another one ends. -/
theorem Steps.append {u : State} {first rest : List Instruction}
    {source source' source'' : ByteSource} (h : s.Steps source first t source')
    (h' : t.Steps source' rest u source'') : s.Steps source (first ++ rest) u source'' := by
  induction h with
  | nil => exact h'
  | cons step _ ih => exact .cons step (ih h')

/-- A run does not change the dialect. -/
theorem dialect_steps {instructions : List Instruction} {source source' : ByteSource}
    (h : s.Steps source instructions t source') : t.dialect = s.dialect := by
  induction h with
  | nil => rfl
  | cons first _ ih => rw [ih, dialect_step first]

end State

end Chip8
