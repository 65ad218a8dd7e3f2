import Chip8.Proofs.Steps

namespace Chip8

/-!
# Batches

A batch is a run of single steps with a reason to stop.  The file opens the loop of a batch once, by
three equations that speak of single steps only, and derives the rest from them by induction on the
budget.

* `runBatch_zero`, `runBatch_of_trap`, `runBatch_of_step` — the three equations;
* `runBatch_refines_step` — a batch ends where as many single steps end, and stops because it is
  over or because the next single step fails;
* `dialect_runBatch`, `source_runBatch_key` — what no batch changes;
* `runBatch_add` — a budget may be spent in two parts.
-/

namespace State

variable {s t : State}

/-! ### The loop of a batch -/

/-- A batch counts on from the instructions completed so far. -/
theorem advance_eq (s : State) (source : ByteSource) (n executed : Nat) :
    s.advance source n executed =
      { s.advance source n 0 with executed := executed + (s.advance source n 0).executed } := by
  -- State, source and count are different after every instruction.
  induction n generalizing s source executed with
  | zero => rfl
  | succ n ih =>
    simp only [advance]
    rcases s.cycle source with ⟨record | ⟨op, t⟩, source'⟩
    · rfl
    · simp only
      split
      · rfl
      · rw [ih t source' (executed + 1), ih t source' (0 + 1)]
        simp only [Batch.mk.injEq, true_and, and_true]
        omega

/-- A single step does not look at the fault record. -/
theorem step_setFault (s : State) (record : FaultRecord) (source : ByteSource) :
    ({ s with fault := record } : State).step source = s.step source := by
  cases htrap : s.trap? with
  | some trap => rw [step_of_trap htrap, step_of_trap (s := { s with fault := record }) htrap]; rfl
  | none =>
    obtain ⟨hle, op, t, source', hop, -⟩ := run_of_trap_none htrap source
    rw [step_of_ofWord? hle hop, step_of_ofWord? (s := { s with fault := record }) hle hop]
    rfl

/-- A batch does not look at the fault record it starts with. -/
theorem runBatch_setFault (s : State) (record : FaultRecord) (n : Nat) (source : ByteSource) :
    ({ s with fault := record } : State).runBatch n source = s.runBatch n source := rfl

/-- A batch without a budget clears the fault record. -/
theorem runBatch_zero (s : State) (source : ByteSource) :
    s.runBatch 0 source = ⟨{ s with fault := .clear }, 0, source⟩ := rfl

/-- A batch whose first instruction traps records the trap. -/
theorem runBatch_of_trap {trap : Trap} (h : s.trap? = some trap) (n : Nat) (source : ByteSource) :
    s.runBatch (n + 1) source =
      ⟨{ s with fault := trap.record s.pc s.word }, 0,
        (cycle { s with fault := .clear } source).2⟩ := by
  -- The trap is that of the state with a clear record, which traps do not look at.
  have hcycle := (cycle_of_trap (s := { s with fault := .clear }) h source).1
  rw [runBatch, advance]
  rcases hc : cycle { s with fault := .clear } source with ⟨record | ok, source'⟩
  · rw [hc] at hcycle
    cases hcycle
    rfl
  · rw [hc] at hcycle
    exact nomatch hcycle

/-- A batch whose first instruction completes goes on with the rest of its budget, unless the
    instruction ends batches. -/
theorem runBatch_of_step {i : Instruction} {source source' : ByteSource}
    (h : s.step source = (.ok (i, t), source')) (n : Nat) :
    s.runBatch (n + 1) source =
      if i.op = .draw ∧ s.dialect.drawEndsBatch then ⟨t, 1, source'⟩
      else { t.runBatch n source' with executed := 1 + (t.runBatch n source').executed } := by
  have hclear : ({ t with fault := .clear } : State) = t := by rw [← fault_step h]
  have hcycle := cycle_of_step (s := { s with fault := .clear }) rfl ((step_setFault ..).trans h)
  rw [runBatch, advance, hcycle]
  simp only [dialect_step h]
  split
  · rfl
  · rw [advance_eq, runBatch, hclear]

/-! ### Batches and single steps -/

/-- How a batch from `s` that completed these instructions and reached `u` ended by itself: its
    budget is used up, or the last instruction ends batches. -/
def Ended (s : State) (n : Nat) (instructions : List Instruction) : Prop :=
  instructions.length = n ∨
    s.dialect.drawEndsBatch = true ∧ ∃ i ∈ instructions.getLast?, i.op = .draw

/-- A batch from `s` is over: it ended by itself and left a clear record. -/
def Finishes (s : State) (n : Nat) (instructions : List Instruction) (source : ByteSource)
    (batch : Batch) : Prop :=
  s.Ended n instructions ∧ batch.state.fault = .clear ∧ batch.source = source

/-- A batch from `s` is broken off: the next single step fails, whatever random bytes there are, and
    the record stands for its fault.  No instruction has ended the batch before, and no random byte
    was drawn for the one that fails if its word lies inside memory. -/
def BreaksOff (s : State) (n : Nat) (instructions : List Instruction) (source : ByteSource)
    (batch : Batch) : Prop :=
  instructions.length < n ∧
    (s.dialect.drawEndsBatch = true → ∀ i ∈ instructions, i.op ≠ .draw) ∧
    (∃ fault, (∀ other, batch.state.step other = (.error fault, other)) ∧
      batch.state.fault.fault? batch.state.stack.depth = .ok (some fault)) ∧
    (batch.state.pc.toNat ≤ 0xFFE → batch.source = source)

section

variable {i : Instruction} {instructions : List Instruction} {n : Nat}

/-- The instructions before the last one of a longer run. -/
theorem ne_draw_of_mem_dropLast_cons (hi : i.op ≠ .draw)
    (h : ∀ j ∈ instructions.dropLast, j.op ≠ .draw) :
    ∀ j ∈ (i :: instructions).dropLast, j.op ≠ .draw := by
  intro j hj
  cases instructions with
  | nil => exact nomatch hj
  | cons k rest =>
    rw [List.dropLast_cons_cons, List.mem_cons] at hj
    rcases hj with rfl | hj
    · exact hi
    · exact h j hj

/-- A batch ends where it ends after its first instruction. -/
theorem Ended.cons (hdialect : t.dialect = s.dialect) (h : t.Ended n instructions) :
    s.Ended (n + 1) (i :: instructions) := by
  rcases h with hlength | ⟨hends, j, hj, hdraw⟩
  · exact .inl (congrArg (· + 1) hlength)
  · refine .inr ⟨hdialect ▸ hends, j, ?_, hdraw⟩
    rw [List.getLast?_cons, hj]
    rfl

end

/-- A batch is a run of single steps that is over or broken off. -/
theorem exists_steps_runBatch (s : State) (n : Nat) (source : ByteSource) :
    ∃ instructions u source',
      s.Steps source instructions u source' ∧
      (s.runBatch n source).executed = instructions.length ∧
      instructions.length ≤ n ∧
      (s.runBatch n source).state = { u with fault := (s.runBatch n source).state.fault } ∧
      (s.dialect.drawEndsBatch = true → ∀ i ∈ instructions.dropLast, i.op ≠ .draw) ∧
      (s.Finishes n instructions source' (s.runBatch n source) ∨
        s.BreaksOff n instructions source' (s.runBatch n source)) := by
  -- By induction on the budget: the first instruction is followed by a batch with the rest of it.
  induction n generalizing s source with
  | zero =>
    refine ⟨[], s, source, .nil s source, rfl, Nat.le_refl 0, rfl, nofun, .inl ?_⟩
    exact ⟨.inl rfl, rfl, rfl⟩
  | succ n ih =>
    cases htrap : s.trap? with
    | some trap =>
      have hsource := (cycle_of_trap (s := { s with fault := .clear }) htrap source).2
      refine ⟨[], s, source, .nil s source, ?_⟩
      rw [runBatch_of_trap htrap]
      refine ⟨rfl, Nat.zero_le _, rfl, nofun, .inr ⟨n.succ_pos, nofun, ?_, hsource⟩⟩
      refine ⟨trap.fault s.pc.toNat s.word s.stack.depth, fun other => ?_, trap.fault?_record ..⟩
      exact (step_setFault ..).trans (step_of_trap htrap other)
    | none =>
      obtain ⟨i, t, source₁, hstep⟩ := step_of_trap_none htrap source
      have hdialect := dialect_step hstep
      by_cases hdraw : i.op = .draw ∧ s.dialect.drawEndsBatch = true
      · refine ⟨[i], t, source₁, .cons hstep (.nil t source₁), ?_⟩
        rw [runBatch_of_step hstep, if_pos hdraw]
        refine ⟨rfl, n.succ_pos, rfl, nofun, .inl ⟨?_, fault_step hstep, rfl⟩⟩
        exact .inr ⟨hdraw.2, i, rfl, hdraw.1⟩
      · obtain ⟨instructions, u, source', hsteps, hexecuted, hlength, hstate, hearlier, hend⟩ :=
          ih t source₁
        have hi : s.dialect.drawEndsBatch = true → i.op ≠ .draw := fun hends hop => hdraw ⟨hop, hends⟩
        rw [hdialect] at hearlier
        refine ⟨i :: instructions, u, source', .cons hstep hsteps, ?_⟩
        rw [runBatch_of_step hstep, if_neg hdraw]
        refine ⟨?_, Nat.succ_le_succ hlength, hstate, fun hends => ?_, ?_⟩
        · rw [hexecuted, List.length_cons, Nat.add_comm]
        · exact ne_draw_of_mem_dropLast_cons (hi hends) (hearlier hends)
        · rcases hend with ⟨hended, hfault, hsource⟩ | ⟨hlt, hnone, hfault, hsource⟩
          · exact .inl ⟨hended.cons hdialect, hfault, hsource⟩
          · refine .inr ⟨Nat.succ_lt_succ hlt, fun hends j hj => ?_, hfault, hsource⟩
            rcases List.mem_cons.mp hj with rfl | hj
            · exact hi hends
            · exact hnone (hdialect ▸ hends) j hj

/-- A batch does not change the dialect. -/
theorem dialect_runBatch (s : State) (n : Nat) (source : ByteSource) :
    (s.runBatch n source).state.dialect = s.dialect := by
  obtain ⟨instructions, u, source', hsteps, -, -, hstate, -⟩ := exists_steps_runBatch s n source
  have hdialect : u.dialect = s.dialect := dialect_steps hsteps
  rw [hstate]
  exact hdialect

/-- A batch that draws from the key of the state does not ask a host. -/
theorem source_runBatch_key (s : State) (n : Nat) : (s.runBatch n .key).source = .key := by
  induction n generalizing s with
  | zero => rfl
  | succ n ih =>
    cases htrap : s.trap? with
    | some trap =>
      rw [runBatch_of_trap htrap]
      exact source_cycle_key _
    | none =>
      obtain ⟨i, t, source, hstep⟩ := step_of_trap_none htrap .key
      have hsource : source = .key := by rw [← source_step_key s, hstep]
      subst hsource
      rw [runBatch_of_step hstep]
      split
      · rfl
      · exact ih t

/-- A batch is not both over and broken off: a clear record stands for no fault. -/
theorem not_finishes_and_breaksOff {s : State} {n : Nat} {instructions : List Instruction}
    {source : ByteSource} {batch : Batch} :
    ¬ (s.Finishes n instructions source batch ∧ s.BreaksOff n instructions source batch) := by
  rintro ⟨⟨-, hclear, -⟩, -, -, ⟨fault, -, hfault⟩, -⟩
  rw [hclear, FaultRecord.fault?_clear] at hfault
  exact nomatch hfault

/-- **Batches refine single steps.**  A batch completes exactly as many instructions as it counts,
    each of them by a single step, and it ends in the state after these steps but for the fault
    record.  In a dialect where draws end batches, none of them is a draw except perhaps the last.
    The batch is over, or it is broken off by the fault that the next single step fails with, and
    never both. -/
theorem runBatch_refines_step (s : State) (n : Nat) (source : ByteSource) :
    ∃ instructions u source',
      s.Steps source instructions u source' ∧
      (s.runBatch n source).executed = instructions.length ∧
      instructions.length ≤ n ∧
      (s.runBatch n source).state = { u with fault := (s.runBatch n source).state.fault } ∧
      (s.dialect.drawEndsBatch = true → ∀ i ∈ instructions.dropLast, i.op ≠ .draw) ∧
      (s.Finishes n instructions source' (s.runBatch n source) ∨
        s.BreaksOff n instructions source' (s.runBatch n source)) ∧
      ¬ (s.Finishes n instructions source' (s.runBatch n source) ∧
        s.BreaksOff n instructions source' (s.runBatch n source)) := by
  obtain ⟨instructions, u, source', hsteps, hexecuted, hlength, hstate, hearlier, hend⟩ :=
    exists_steps_runBatch s n source
  exact ⟨instructions, u, source', hsteps, hexecuted, hlength, hstate, hearlier, hend,
    not_finishes_and_breaksOff⟩

/-! ### Budgets spent in parts -/

/-- `k` single steps complete one after the other, and the last of them draws. -/
def DrawsLast (s : State) (source : ByteSource) (k : Nat) : Prop :=
  ∃ instructions u source', s.Steps source instructions u source' ∧ instructions.length = k ∧
    ∃ i ∈ instructions.getLast?, i.op = .draw

/-- Nothing but its budget `n` ends a batch: all instructions complete without a fault, and the last
    one does not end batches. -/
def EndsByBudget (s : State) (source : ByteSource) (n : Nat) : Prop :=
  (s.runBatch n source).executed = n ∧ (s.runBatch n source).state.fault.code = 0 ∧
    ¬ (0 < n ∧ s.dialect.drawEndsBatch = true ∧ s.DrawsLast source n)

section

variable {i : Instruction} {source source' : ByteSource}

/-- The first instruction of a run of one is the last. -/
theorem drawsLast_one (h : s.step source = (.ok (i, t), source')) :
    s.DrawsLast source 1 ↔ i.op = .draw := by
  constructor
  · rintro ⟨instructions, u, source'', hsteps, hlength, j, hj, hdraw⟩
    cases hsteps with
    | nil => exact nomatch hlength
    | cons first rest =>
      rw [h] at first
      cases first
      cases rest with
      | nil =>
        cases hj
        exact hdraw
      | cons => exact absurd hlength (by simp)
  · intro hdraw
    exact ⟨[i], t, source', .cons h (.nil t source'), rfl, i, rfl, hdraw⟩

/-- The last instruction of a longer run is the last one after its first. -/
theorem drawsLast_succ (h : s.step source = (.ok (i, t), source')) {k : Nat} (hk : 0 < k) :
    s.DrawsLast source (k + 1) ↔ t.DrawsLast source' k := by
  constructor
  · rintro ⟨instructions, u, source'', hsteps, hlength, j, hj, hdraw⟩
    cases hsteps with
    | nil => exact nomatch hlength
    | cons first rest =>
      rw [h] at first
      cases first
      refine ⟨_, u, source'', rest, Nat.succ.inj hlength, j, ?_, hdraw⟩
      cases rest with
      | nil => exact absurd hk (by simp at hlength; omega)
      | cons => exact hj
  · rintro ⟨instructions, u, source'', hsteps, hlength, j, hj, hdraw⟩
    refine ⟨i :: instructions, u, source'', .cons h hsteps, congrArg (· + 1) hlength, j, ?_, hdraw⟩
    rw [List.getLast?_cons, hj]
    rfl

/-- A batch whose first instruction traps does not end by its budget. -/
theorem not_endsByBudget_of_trap {trap : Trap} (h : s.trap? = some trap) (n : Nat)
    (source : ByteSource) : ¬ s.EndsByBudget source (n + 1) := by
  rintro ⟨hexecuted, -, -⟩
  rw [runBatch_of_trap h] at hexecuted
  exact nomatch hexecuted

/-- A batch that its first instruction ends does not end by its budget. -/
theorem not_endsByBudget_of_draw (h : s.step source = (.ok (i, t), source'))
    (hdraw : i.op = .draw ∧ s.dialect.drawEndsBatch = true) (n : Nat) :
    ¬ s.EndsByBudget source (n + 1) := by
  rintro ⟨hexecuted, -, hlast⟩
  rw [runBatch_of_step h, if_pos hdraw] at hexecuted
  have hn : n = 0 := (Nat.succ.inj hexecuted).symm
  subst hn
  exact hlast ⟨Nat.one_pos, hdraw.2, (drawsLast_one h).mpr hdraw.1⟩

/-- A batch that its first instruction does not end is ended by its budget when the rest is. -/
theorem endsByBudget_succ (h : s.step source = (.ok (i, t), source'))
    (hdraw : ¬ (i.op = .draw ∧ s.dialect.drawEndsBatch = true)) (n : Nat) :
    s.EndsByBudget source (n + 1) ↔ t.EndsByBudget source' n := by
  have hexecuted : 1 + (t.runBatch n source').executed = n + 1 ↔
      (t.runBatch n source').executed = n := by omega
  have hlast : (0 < n + 1 ∧ s.dialect.drawEndsBatch = true ∧ s.DrawsLast source (n + 1)) ↔
      (0 < n ∧ t.dialect.drawEndsBatch = true ∧ t.DrawsLast source' n) := by
    rw [dialect_step h]
    rcases Nat.eq_zero_or_pos n with rfl | hn
    · rw [drawsLast_one h]
      exact ⟨fun hd => absurd ⟨hd.2.2, hd.2.1⟩ hdraw, fun hd => absurd hd.1 (Nat.lt_irrefl 0)⟩
    · rw [drawsLast_succ h hn]
      exact and_congr_left (fun _ => ⟨fun _ => hn, fun _ => n.succ_pos⟩)
  rw [EndsByBudget, runBatch_of_step h, if_neg hdraw, hexecuted, hlast]
  rfl

end

/-- **Batches compose.**  When nothing but its budget ends a batch, a larger budget goes on where
    the batch stopped, with the random bytes that come next.  When a fault or a draw ends it, even
    at its very last instruction, a larger budget changes nothing. -/
theorem runBatch_add (s : State) (a b : Nat) (source : ByteSource) :
    (s.EndsByBudget source a →
      let first := s.runBatch a source
      let second := first.state.runBatch b first.source
      s.runBatch (a + b) source = ⟨second.state, a + second.executed, second.source⟩) ∧
    (¬ s.EndsByBudget source a → s.runBatch (a + b) source = s.runBatch a source) := by
  -- By induction on the first part of the budget, which the loop spends one instruction at a time.
  induction a generalizing s source with
  | zero =>
    refine ⟨fun _ => ?_, fun h => absurd ⟨rfl, rfl, fun hd => Nat.lt_irrefl 0 hd.1⟩ h⟩
    rw [runBatch_zero, Nat.zero_add]
    simp only [runBatch_setFault, Nat.zero_add]
  | succ a ih =>
    have hsum : a + 1 + b = a + b + 1 := by omega
    rw [hsum]
    cases htrap : s.trap? with
    | some trap =>
      refine ⟨fun h => absurd h (not_endsByBudget_of_trap htrap a source), fun _ => ?_⟩
      rw [runBatch_of_trap htrap, runBatch_of_trap htrap]
    | none =>
      obtain ⟨i, t, source', hstep⟩ := step_of_trap_none htrap source
      by_cases hdraw : i.op = .draw ∧ s.dialect.drawEndsBatch = true
      · refine ⟨fun h => absurd h (not_endsByBudget_of_draw hstep hdraw a), fun _ => ?_⟩
        rw [runBatch_of_step hstep, runBatch_of_step hstep, if_pos hdraw, if_pos hdraw]
      · obtain ⟨hmore, hsame⟩ := ih t source'
        rw [endsByBudget_succ hstep hdraw]
        simp only [runBatch_of_step hstep, if_neg hdraw]
        refine ⟨fun h => ?_, fun h => ?_⟩
        · rw [hmore h]
          simp only [Batch.mk.injEq, true_and, and_true]
          omega
        · rw [hsame h]

/-- Two draws and a word that is no instruction, at the start of memory.  Where draws end batches, a
    larger budget than one changes nothing.  In the other dialect a budget of one ends the batch,
    what is left of a larger one goes on to the fault, and nothing goes beyond that. -/
theorem runBatch_add_two_draws :
    let s (drawEndsBatch : Bool) : State :=
      { initial { drawEndsBatch := drawEndsBatch } default with
        memory := ⟨((Vector.replicate 4096 0xD1).setIfInBounds 4 0xFF).setIfInBounds 5 0xFF⟩
        pc := 0 }
    let first := (s false).runBatch 1 .key
    let second := first.state.runBatch 2 first.source
    ((s true).runBatch 1 .key).executed = 1 ∧
      (s true).runBatch (1 + 2) .key = (s true).runBatch 1 .key ∧
      (s false).runBatch (1 + 2) .key = ⟨second.state, 1 + second.executed, second.source⟩ ∧
      second.executed = 1 ∧ second.state.fault = Trap.unknownOpcode.record 4 0xFFFF ∧
      (s false).runBatch (3 + 5) .key = (s false).runBatch 3 .key := by
  intro s first second
  have hon : (s true).trap? = none ∧ Operation.ofWord? (s true).word = some .draw ∧
      ((s true).runBatch 1 .key).executed = 1 := by decide +kernel
  have hoff : first.executed = 1 ∧ first.state.fault.code = 0 ∧ second.executed = 1 ∧
      second.state.fault = Trap.unknownOpcode.record 4 0xFFFF ∧
      ((s false).runBatch 3 .key).executed ≠ 3 := by decide +kernel
  obtain ⟨htrap, hword, hexecuted⟩ := hon
  obtain ⟨hfirst, hclear, hsecond, hrecord, hthird⟩ := hoff
  obtain ⟨i, t, source, hstep⟩ := step_of_trap_none htrap .key
  obtain ⟨-, -, hop, -⟩ := step_eq_ok hstep
  have hdraw : i.op = .draw := Option.some.inj (hop.symm.trans hword)
  have hcut : ¬ (s true).EndsByBudget .key 1 := not_endsByBudget_of_draw hstep ⟨hdraw, rfl⟩ 0
  have huncut : (s false).EndsByBudget .key 1 :=
    ⟨hfirst, hclear, fun hlast => Bool.false_ne_true hlast.2.1⟩
  have hfault : ¬ (s false).EndsByBudget .key 3 := fun hends => hthird hends.1
  exact ⟨hexecuted, (runBatch_add (s true) 1 2 .key).2 hcut,
    (runBatch_add (s false) 1 2 .key).1 huncut, hsecond, hrecord,
    (runBatch_add (s false) 3 5 .key).2 hfault⟩

end State

end Chip8
