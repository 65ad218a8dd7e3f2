import Chip8.HostCall
import Chip8.Proofs.Batch

namespace Chip8

/-!
# Frames

What a batch and a frame can have done when they come back, with the run of single steps behind
them.

* `runBatch_of_steps` — a batch begins with every run of instructions that do not end batches;
* `runBatch_cases` — a batch is a run of single steps that stopped by itself or at a trap;
* `frame_of_refused`, `frame_of_clear`, `frame_of_record` — a frame is refused without a trace, or
  it is such a batch and one tick of the timers;
* `frame_eq_fault`, `machine_frame` — what a frame that fails leaves;
* `machine_frame_cases` — a frame leaves what its batch leaves, or the machine as it was;
* `frameBudget`, `frameFor_of_loaded`, `frameFor_cases` — a frame for which a host asks by values of
  any kind is refused, or it is a frame.
-/

namespace State

variable {s t : State} {instructions : List Instruction} {source source' : ByteSource}

/-- A batch begins with every run of instructions that do not end batches, and goes on from there
    with the rest of its budget. -/
theorem runBatch_of_steps (hrun : s.Steps source instructions t source')
    (hdraw : s.dialect.drawEndsBatch = true → ∀ i ∈ instructions, i.op ≠ .draw) (n : Nat) :
    s.runBatch (instructions.length + n) source =
      ⟨(t.runBatch n source').state, instructions.length + (t.runBatch n source').executed,
        (t.runBatch n source').source⟩ := by
  induction hrun with
  | nil =>
    rw [List.length_nil, Nat.zero_add, Nat.zero_add]
  | @cons s t u source source' source'' i rest first _ ih =>
    -- Neither the first instruction nor one of the others ends the batch.
    have hfirst : ¬ (i.op = .draw ∧ s.dialect.drawEndsBatch = true) :=
      fun ⟨hop, hends⟩ => hdraw hends i List.mem_cons_self hop
    have hrest : t.dialect.drawEndsBatch = true → ∀ j ∈ rest, j.op ≠ .draw := by
      rw [dialect_step first]
      exact fun hends j hj => hdraw hends j (List.mem_cons_of_mem i hj)
    rw [List.length_cons, Nat.add_right_comm, runBatch_of_step first, if_neg hfirst, ih hrest]
    simp only [Batch.mk.injEq, true_and, and_true]
    omega

/-- A state whose single step fails has a trap, and the step fails with its fault. -/
theorem trap?_of_step_error {fault : Fault} (h : s.step source = (.error fault, source')) :
    ∃ trap, s.trap? = some trap ∧ fault = trap.fault s.pc.toNat s.word s.stack.depth := by
  cases htrap : s.trap? with
  | none =>
    obtain ⟨i, t, source'', hstep⟩ := step_of_trap_none htrap source
    rw [hstep] at h
    exact nomatch h
  | some trap =>
    rw [step_of_trap htrap] at h
    cases h
    exact ⟨trap, rfl, rfl⟩

/-- A batch has run some instructions.  Either it stopped by itself, and the record is clear, or it
    stopped at a trap, and the record is that of the trap. -/
theorem runBatch_cases (s : State) (n : Nat) (source : ByteSource) :
    ∃ instructions u source', s.Steps source instructions u source' ∧
      (s.runBatch n source).executed = instructions.length ∧
      ((instructions.length ≤ n ∧ (s.runBatch n source).state = { u with fault := .clear } ∧
          (s.runBatch n source).source = source') ∨
        ∃ trap, instructions.length < n ∧ u.trap? = some trap ∧
          (s.runBatch n source).state = { u with fault := trap.record u.pc u.word }) := by
  obtain ⟨instructions, u, source', hrun, hexecuted, hle, hstate, -, hend⟩ :=
    exists_steps_runBatch s n source
  refine ⟨instructions, u, source', hrun, hexecuted, ?_⟩
  rcases hend with ⟨-, hclear, hsource⟩ | ⟨hlt, hdraw, ⟨fault, hfails, -⟩, -⟩
  · -- The record is clear, so the rest of the state is that after the last instruction.
    rw [hclear] at hstate
    exact .inl ⟨hle, hstate, hsource⟩
  · -- The step that fails does not look at the record that the batch has left.
    have hstep : u.step source = (.error fault, source) := by
      rw [← step_setFault u (s.runBatch n source).state.fault, ← hstate]
      exact hfails source
    obtain ⟨trap, htrap, -⟩ := trap?_of_step_error hstep
    refine .inr ⟨trap, hlt, htrap, ?_⟩
    -- The batch is the run followed by a batch that traps at once.
    obtain ⟨k, rfl⟩ := Nat.exists_eq_add_of_lt hlt
    rw [Nat.add_assoc, runBatch_of_steps hrun hdraw, runBatch_of_trap htrap]

end State

namespace Machine

variable {m : Machine} {count : Int}

/-- A frame is refused for a count that is out of range or when nothing is loaded.  The refusal is
    not a fault of the interpreter, and nothing has happened. -/
theorem frame_of_refused (h : ¬ (0 ≤ count ∧ m.loaded = true ∧ count < budgetLimit)) :
    ∃ error, (∀ fault, error ≠ .fault fault) ∧ m.frame count = m.refuse error := by
  unfold frame
  split
  · exact ⟨.negativeBudget (.int count), fun _ => nofun, rfl⟩
  split
  · exact ⟨.nothingLoaded, fun _ => nofun, rfl⟩
  split
  · exact ⟨.outOfRange, fun _ => nofun, rfl⟩
  · next hnonneg hloaded hlimit =>
    rw [Bool.not_eq_true, Bool.not_eq_false'] at hloaded
    exact absurd ⟨Int.not_lt.mp hnonneg, hloaded, Int.not_le.mp hlimit⟩ h

/-- With a program in it, the machine refuses a frame for its count only. -/
theorem frame_of_loaded (hloaded : m.loaded = true) (h : ¬ (0 ≤ count ∧ count < budgetLimit)) :
    m.frame count = m.refuse (if count < 0 then .negativeBudget (.int count) else .outOfRange) := by
  unfold frame
  split
  · rfl
  · next hnonneg =>
    have hlimit : (budgetLimit : Int) ≤ count :=
      Int.not_lt.mp fun hlt => h ⟨Int.not_lt.mp hnonneg, hlt⟩
    rw [if_neg (by simp [hloaded]), if_pos hlimit]

section

variable (h₀ : 0 ≤ count) (hloaded : m.loaded = true) (h₁ : count < budgetLimit) {u : State}
include h₀ hloaded h₁

/-- A frame that is not refused is a batch and a tick of the timers.  It fails with the fault that
    the record stands for, if there is one. -/
theorem frame_of_accepted :
    m.frame count =
      let batch := m.state.runFrame count.toNat m.source
      let after := { m with state := batch.state, source := batch.source }
      match batch.state.fault.fault? batch.state.stack.depth with
      | .ok none => ⟨.ok (.executed batch.executed), after, []⟩
      | .ok (some fault) => after.faulted fault
      | .error error => after.refuse error := by
  have hnonneg : ¬ count < 0 := Int.not_lt.mpr h₀
  have hrunnable : ¬ (!m.loaded) = true := by simp [hloaded]
  have hlimit : ¬ (budgetLimit : Int) ≤ count := Int.not_le.mpr h₁
  exact (if_neg hnonneg).trans ((if_neg hrunnable).trans (if_neg hlimit))

/-- A frame whose batch leaves a clear record answers how many instructions there were. -/
theorem frame_of_clear
    (h : (m.state.runBatch count.toNat m.source).state = { u with fault := .clear }) :
    m.frame count =
      ⟨.ok (.executed (m.state.runBatch count.toNat m.source).executed),
        { m with
          state := ({ u with fault := .clear } : State).tick
          source := (m.state.runBatch count.toNat m.source).source }, []⟩ := by
  rw [frame_of_accepted h₀ hloaded h₁]
  simp only [State.runFrame, h]
  rfl

/-- A frame whose batch leaves the record of a trap fails with the fault of the trap. -/
theorem frame_of_record {trap : Trap}
    (h : (m.state.runBatch count.toNat m.source).state
      = { u with fault := trap.record u.pc u.word }) :
    m.frame count =
      faulted
        { m with
          state := ({ u with fault := trap.record u.pc u.word } : State).tick
          source := (m.state.runBatch count.toNat m.source).source }
        (trap.fault u.pc.toNat u.word u.stack.depth) := by
  have hfault := trap.fault?_record u.pc u.word u.stack.depth
  rw [frame_of_accepted h₀ hloaded h₁]
  simp only [State.runFrame, h, State.tick, hfault]

end

/-- A frame that fails with a fault was not refused, and has run some instructions before it came to
    a trap. -/
theorem frame_eq_fault {fault : Fault} (h : (m.frame count).result = .error (.fault fault)) :
    m.loaded = true ∧ ∃ instructions u source' trap source'',
      m.state.Steps m.source instructions u source' ∧ instructions.length < count.toNat ∧
        u.trap? = some trap ∧ fault = trap.fault u.pc.toNat u.word u.stack.depth ∧
        (m.frame count).machine =
          { m with
            state := ({ u with fault := trap.record u.pc u.word } : State).tick
            source := source'' } := by
  by_cases haccepted : 0 ≤ count ∧ m.loaded = true ∧ count < budgetLimit
  · obtain ⟨h₀, hloaded, h₁⟩ := haccepted
    obtain ⟨instructions, u, source', hrun, -, ⟨-, hstate, -⟩ | ⟨trap, hlt, htrap, hstate⟩⟩ :=
      m.state.runBatch_cases count.toNat m.source
    · rw [frame_of_clear h₀ hloaded h₁ hstate] at h
      exact nomatch h
    · rw [frame_of_record h₀ hloaded h₁ hstate] at h ⊢
      cases h
      exact ⟨hloaded, instructions, u, source', trap, _, hrun, hlt, htrap, rfl, rfl⟩
  · obtain ⟨error, hne, hframe⟩ := frame_of_refused haccepted
    rw [hframe] at h
    exact absurd (Except.error.inj h) (hne fault)

/-- A frame that fails otherwise was refused, and has left the machine as it was. -/
theorem machine_frame {error : Error} (h : (m.frame count).result = .error error)
    (hne : ∀ fault, error ≠ .fault fault) : (m.frame count).machine = m := by
  by_cases haccepted : 0 ≤ count ∧ m.loaded = true ∧ count < budgetLimit
  · obtain ⟨h₀, hloaded, h₁⟩ := haccepted
    obtain ⟨instructions, u, source', -, -, ⟨-, hstate, -⟩ | ⟨trap, -, -, hstate⟩⟩ :=
      m.state.runBatch_cases count.toNat m.source
    · rw [frame_of_clear h₀ hloaded h₁ hstate] at h
      exact nomatch h
    · rw [frame_of_record h₀ hloaded h₁ hstate] at h
      exact absurd (Except.error.inj h).symm (hne _)
  · obtain ⟨refusal, -, hframe⟩ := frame_of_refused haccepted
    rw [hframe]
    rfl

/-- A frame leaves what its batch leaves, or the machine as it was. -/
theorem machine_frame_cases (m : Machine) (count : Int) :
    (m.frame count).machine = m ∨
      (m.frame count).machine =
        { m with
          state := (m.state.runFrame count.toNat m.source).state
          source := (m.state.runFrame count.toNat m.source).source } := by
  by_cases haccepted : 0 ≤ count ∧ m.loaded = true ∧ count < budgetLimit
  · obtain ⟨h₀, hloaded, h₁⟩ := haccepted
    rw [frame_of_accepted h₀ hloaded h₁]
    simp only
    split
    · exact .inr rfl
    · exact .inr rfl
    · exact .inr rfl
  · obtain ⟨error, -, hframe⟩ := frame_of_refused haccepted
    rw [hframe]
    exact .inl rfl

/-! ### Frames of any description -/

/-- A value that cannot be compared with zero is no fault of the interpreter. -/
theorem negative_ne_fault {count : Value} {error : Error} (h : count.negative = .error error)
    (fault : Fault) : error ≠ .fault fault := by
  rintro rfl
  cases count <;> exact nomatch h

/-- A value that is no budget is no fault of the interpreter. -/
theorem budget_ne_fault {count : Value} {error : Error} (h : count.budget = .error error)
    (fault : Fault) : error ≠ .fault fault := by
  rintro rfl
  cases count with
  | int n =>
    have hnumber : Int.toNat <$> number32 n = .error (.fault fault) := h
    unfold number32 at hnumber
    split at hnumber <;> exact nomatch hnumber
  | _ => exact nomatch h

/-- A dialect in which batches cannot run is no fault of the interpreter. -/
theorem runnable_ne_fault {description : Value} {error : Error}
    (h : runnable description = .error error) (fault : Fault) : error ≠ .fault fault := by
  rintro rfl
  simp only [runnable] at h
  split at h
  · exact nomatch h
  · split at h <;> exact nomatch h
  · exact nomatch h

/-- How many instructions a frame may run that is asked for by values of any kind, or why it is
    refused. -/
def frameBudget (description count : Value) : Except Error Nat :=
  match count.negative with
  | .error error => .error error
  | .ok true => .error (.negativeBudget count)
  | .ok false => do
    let n ← count.budget
    runnable description
    pure n

/-- Such a refusal is no fault of the interpreter. -/
theorem frameBudget_ne_fault {description count : Value} {error : Error}
    (h : frameBudget description count = .error error) (fault : Fault) : error ≠ .fault fault := by
  unfold frameBudget at h
  split at h
  · next refusal hnegative =>
    rw [← Except.error.inj h]
    exact negative_ne_fault hnegative fault
  · rw [← Except.error.inj h]
    exact nofun
  · -- The count is looked at first and the dialect next.
    cases hn : count.budget with
    | error other =>
      rw [hn] at h
      rw [← Except.error.inj h]
      exact budget_ne_fault hn fault
    | ok n =>
      cases hr : runnable description with
      | error other =>
        rw [hn, hr] at h
        rw [← Except.error.inj h]
        exact runnable_ne_fault hr fault
      | ok done =>
        rw [hn, hr] at h
        exact nomatch h

/-- On a machine with a program, a frame asked for by values of any kind is refused for these values
    only, or it is a frame. -/
theorem frameFor_of_loaded (hloaded : m.loaded = true) (description count : Value) :
    m.frameFor description count =
      match frameBudget description count with
      | .error error => m.refuse error
      | .ok n => m.frame n := by
  unfold frameFor frameBudget
  rcases count.negative with error | negative | negative
  · rfl
  · have hready : ¬ (!m.loaded) = true := by simp [hloaded]
    exact if_neg hready
  · rfl

/-- A frame that a host asks for by a value of any kind is refused without a fault of the
    interpreter, or it is a frame of some number of instructions. -/
theorem frameFor_cases (m : Machine) (description count : Value) :
    (∃ refusal, (∀ fault, refusal ≠ .fault fault) ∧ m.frameFor description count = m.refuse refusal) ∨
      ∃ n : Nat, m.frameFor description count = m.frame n := by
  by_cases hloaded : m.loaded = true
  · rw [frameFor_of_loaded hloaded]
    cases hbudget : frameBudget description count with
    | error refusal => exact .inl ⟨refusal, frameBudget_ne_fault hbudget, rfl⟩
    | ok n => exact .inr ⟨n, rfl⟩
  · left
    unfold frameFor
    split
    · next refusal hnegative => exact ⟨refusal, negative_ne_fault hnegative, rfl⟩
    · exact ⟨.negativeBudget count, fun _ => nofun, rfl⟩
    · rw [if_pos (by simp [hloaded])]
      exact ⟨.nothingLoaded, fun _ => nofun, rfl⟩

end Machine

end Chip8
