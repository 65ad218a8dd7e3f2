import Chip8.Debugger
import Chip8.Proofs.Batch
import Chip8.Proofs.Writes

namespace Chip8

/-!
# Traces

Which instructions complete, each with the states around it, when a host runs single steps, batches
and frames.

* `Completion` — an instruction that completed;
* `State.trace` — what single steps complete, `State.completions` — what a batch completes;
* `instructions_trace` — a run of single steps leaves its own instructions behind;
* `exists_steps_completions`, `length_completions` — what a batch completes leads to its state, and
  is what it counts;
* `completions_of_trap`, `completions_of_step` — what a batch completes follows the loop of the
  batch;
* `HandsOn`, `handsOn_completions` — completed instructions start with what is left, up to the state
  that a batch leaves, and `handsOn_acts` — the registers, up to the state that a host is left with;
* `Action`, `State.act`, `State.acts` — what a host does with a state, and what comes of it;
* `State.Faultless` — no batch leaves a fault record on the way.
-/

/-- An instruction that completed, with the states before and after it. -/
structure Completion where
  before : State
  instruction : Instruction
  after : State

/-- The operation that completed. -/
def Completion.op (c : Completion) : Operation := c.instruction.op

/-! ### What is handed on -/

/-- `HandsOn part s completions t` says that a part of the state is handed on: the first instruction
    finds it as it is in `s`, every other one as the one before has left it, and the last one leaves
    it as it is in `t`. -/
inductive HandsOn {α : Type} (part : State → α) : State → List Completion → State → Prop
  | nil {s t : State} (hsame : part s = part t) : HandsOn part s [] t
  | cons {s t : State} {c : Completion} {completions : List Completion} (hbefore : part s = part c.before)
      (rest : HandsOn part c.after completions t) : HandsOn part s (c :: completions) t

section

variable {α β : Type} {part : State → α} {s t u : State} {completions others : List Completion}

/-- It makes no difference where it comes from. -/
theorem HandsOn.of_eq (h : HandsOn part t completions u) (hsame : part s = part t) :
    HandsOn part s completions u := by
  cases h with
  | nil hlast => exact .nil (hsame.trans hlast)
  | cons hbefore rest => exact .cons (hsame.trans hbefore) rest

/-- What is handed on through some instructions, and then through others, is handed on through all
    of them. -/
theorem HandsOn.append (h : HandsOn part s completions t) (h' : HandsOn part t others u) :
    HandsOn part s (completions ++ others) u := by
  induction h with
  | nil hsame => exact h'.of_eq hsame
  | cons hbefore _ ih => exact .cons hbefore (ih h')

/-- With a part of the state everything is handed on that depends on it. -/
theorem HandsOn.map (h : HandsOn part s completions t) (f : α → β) :
    HandsOn (fun state => f (part state)) s completions t := by
  induction h with
  | nil hsame => exact .nil (congrArg f hsame)
  | cons hbefore _ ih => exact .cons (congrArg f hbefore) ih

end

namespace State

variable {s t : State} {i : Instruction} {source source' : ByteSource}

/-! ### Single steps -/

/-- What up to so many single steps complete.  The first one that fails is the last. -/
def trace (s : State) (source : ByteSource) : Nat → List Completion
  | 0 => []
  | n + 1 =>
    match s.step source with
    | (.ok (i, t), source') => ⟨s, i, t⟩ :: t.trace source' n
    | (.error _, _) => []

@[simp] theorem trace_zero (s : State) (source : ByteSource) : s.trace source 0 = [] := rfl

/-- A step that completes comes before what is completed after it. -/
theorem trace_of_step (h : s.step source = (.ok (i, t), source')) (n : Nat) :
    s.trace source (n + 1) = ⟨s, i, t⟩ :: t.trace source' n := by
  rw [trace, h]

/-- A step that fails completes nothing. -/
theorem trace_of_trap {trap : Trap} (h : s.trap? = some trap) (n : Nat) :
    s.trace source n = [] := by
  cases n with
  | zero => rfl
  | succ n => rw [trace, step_of_trap h]

/-- A run of single steps leaves its own instructions behind. -/
theorem instructions_trace {instructions : List Instruction}
    (h : s.Steps source instructions t source') :
    (s.trace source instructions.length).map (·.instruction) = instructions := by
  induction h with
  | nil => rfl
  | cons first _ ih => rw [List.length_cons, trace_of_step first, List.map_cons, ih]

/-! ### Batches -/

/-- What a batch completes: as many single steps as it counts. -/
def completions (s : State) (n : Nat) (source : ByteSource) : List Completion :=
  s.trace source (s.runBatch n source).executed

/-- What a batch completes leads to the state that it leaves, but for the fault record. -/
theorem exists_steps_completions (s : State) (n : Nat) (source : ByteSource) :
    ∃ u source', s.Steps source ((s.completions n source).map (·.instruction)) u source' ∧
      (s.runBatch n source).state = { u with fault := (s.runBatch n source).state.fault } ∧
      (s.completions n source).length = (s.runBatch n source).executed := by
  obtain ⟨instructions, u, source', hrun, hexecuted, -, hstate, -⟩ := exists_steps_runBatch s n source
  have hinstructions : (s.completions n source).map (·.instruction) = instructions := by
    rw [completions, hexecuted]
    exact instructions_trace hrun
  refine ⟨u, source', ?_, hstate, ?_⟩
  · rw [hinstructions]
    exact hrun
  · rw [hexecuted, ← hinstructions, List.length_map]

/-- A batch counts the instructions that it completes. -/
theorem length_completions (s : State) (n : Nat) (source : ByteSource) :
    (s.completions n source).length = (s.runBatch n source).executed := by
  obtain ⟨u, source', -, -, hlength⟩ := exists_steps_completions s n source
  exact hlength

/-- A batch whose first instruction traps completes nothing. -/
theorem completions_of_trap {trap : Trap} (h : s.trap? = some trap) (n : Nat) :
    s.completions n source = [] := trace_of_trap h _

/-- What a batch completes after its first instruction is what the rest of it completes. -/
theorem completions_of_step (h : s.step source = (.ok (i, t), source')) (n : Nat) :
    s.completions (n + 1) source =
      ⟨s, i, t⟩ ::
        if i.op = .draw ∧ s.dialect.drawEndsBatch then [] else t.completions n source' := by
  rw [completions, runBatch_of_step h]
  split
  · exact trace_of_step h 0
  · rw [Nat.add_comm]
    exact trace_of_step h _

/-- The state with a clear record. -/
def cleared (s : State) : State := { s with fault := .clear }

/-- What a batch completes hands on the state up to the one that the batch leaves, all of it but for
    the fault record. -/
theorem handsOn_completions (s : State) (n : Nat) (source : ByteSource) :
    HandsOn cleared s (s.completions n source) (s.runBatch n source).state := by
  induction n generalizing s source with
  | zero => exact .nil rfl
  | succ n ih =>
    cases htrap : s.trap? with
    | some trap =>
      rw [completions_of_trap htrap, runBatch_of_trap htrap]
      exact .nil rfl
    | none =>
      obtain ⟨i, t, source', hstep⟩ := step_of_trap_none htrap source
      rw [completions_of_step hstep, runBatch_of_step hstep]
      refine .cons rfl ?_
      split
      · exact .nil rfl
      · exact ih t source'

end State

/-! ### What a host does -/

/-- What a host does with a state. -/
inductive Action
  /-- One instruction. -/
  | step
  /-- Up to `budget` instructions. -/
  | batch (budget : Nat)
  /-- Up to `budget` instructions and a tick of the timers. -/
  | frame (budget : Nat)
  /-- A key pressed or released. -/
  | setKey (key : Fin 16) (down : Bool)
  /-- The timers written, or left as they are. -/
  | pokeTimers (delay sound : Value)

/-- Whether the action runs a batch, which may leave a fault record. -/
def Action.RunsBatch : Action → Prop
  | batch _ => True
  | frame _ => True
  | _ => False

/-- What comes of it: the instructions that completed, the state and the source of random bytes. -/
structure Outcome where
  completions : List Completion
  state : State
  source : ByteSource

namespace State

/-- One action carried out.  A step that fails and a write that is refused leave the state as it
    is. -/
def act (s : State) (source : ByteSource) : Action → Outcome
  | .step =>
    match s.step source with
    | (.ok (_, t), source') => ⟨s.trace source 1, t, source'⟩
    | (.error _, source') => ⟨[], s, source'⟩
  | .batch n =>
    let batch := s.runBatch n source
    ⟨s.completions n source, batch.state, batch.source⟩
  | .frame n =>
    let batch := s.runFrame n source
    ⟨s.completions n source, batch.state, batch.source⟩
  | .setKey key down => ⟨[], { s with keypad := s.keypad.setIfInBounds key down }, source⟩
  | .pokeTimers delay sound =>
    match s.pokeTimers delay sound with
    | .ok t => ⟨[], t, source⟩
    | .error _ => ⟨[], s, source⟩

/-- Several actions carried out one after the other. -/
def acts (s : State) (source : ByteSource) : List Action → Outcome
  | [] => ⟨[], s, source⟩
  | action :: rest =>
    let first := s.act source action
    let others := first.state.acts first.source rest
    { others with completions := first.completions ++ others.completions }

/-- None of the batches, frames included, leaves a fault record. -/
def Faultless (s : State) (source : ByteSource) : List Action → Prop
  | [] => True
  | action :: rest =>
    let first := s.act source action
    (action.RunsBatch → first.state.fault.isSet = false) ∧ first.state.Faultless first.source rest

variable {s t : State} {i : Instruction} {source source' : ByteSource}

/-- A step that completes. -/
theorem act_step (h : s.step source = (.ok (i, t), source')) :
    s.act source .step = ⟨[⟨s, i, t⟩], t, source'⟩ := by
  rw [act, trace_of_step h, trace_zero, h]

/-- A step that fails completes nothing and leaves everything as it is. -/
theorem act_step_of_trap {trap : Trap} (h : s.trap? = some trap) :
    s.act source .step = ⟨[], s, source⟩ := by
  rw [act, step_of_trap h]

/-- Whatever a host does, the instructions hand on the registers up to the state that is left. -/
theorem handsOn_act (s : State) (source : ByteSource) (action : Action) :
    let outcome := s.act source action
    HandsOn registers s outcome.completions outcome.state := by
  cases action with
  | step =>
    cases htrap : s.trap? with
    | some trap =>
      rw [act_step_of_trap htrap]
      exact .nil rfl
    | none =>
      obtain ⟨i, t, source', hstep⟩ := step_of_trap_none htrap source
      rw [act_step hstep]
      exact .cons rfl (.nil rfl)
  | batch n => exact (handsOn_completions s n source).map registers
  | frame n =>
    -- A tick of the timers leaves the registers alone.
    have hbatch : HandsOn registers s (s.completions n source) (s.runBatch n source).state :=
      (handsOn_completions s n source).map registers
    have htick : HandsOn registers (s.runBatch n source).state [] (s.runFrame n source).state := .nil rfl
    have hframe := hbatch.append htick
    rw [List.append_nil] at hframe
    exact hframe
  | setKey key down => exact .nil rfl
  | pokeTimers delay sound =>
    simp only [act]
    cases hpoke : s.pokeTimers delay sound with
    | error fault => exact .nil rfl
    | ok t =>
      obtain ⟨a, b, rfl⟩ := pokeTimers_eq_ok hpoke
      exact .nil rfl

/-- So do all the instructions of a run. -/
theorem handsOn_acts (actions : List Action) (s : State) (source : ByteSource) :
    let run := s.acts source actions
    HandsOn registers s run.completions run.state := by
  induction actions generalizing s source with
  | nil => exact .nil rfl
  | cons action rest ih =>
    let first := s.act source action
    exact (handsOn_act s source action).append (ih first.state first.source)

end State

end Chip8
