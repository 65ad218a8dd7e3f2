import Chip8.Proofs.Steps

namespace Chip8

/-!
# What instructions do not look at

No instruction looks at the fault record or at the switch with which draws end batches, and only one
looks at a timer.  So a run of single steps goes the same way from states that differ in nothing
else.

* `Margin`, `State.margin`, `State.withMargin` — these parts of a state, and a state with others;
* `Margin.after` — what an operation makes of them;
* `effect_withMargin`, `step_withMargin`, `Steps.withMargin` — they make no difference to the rest,
  as long as the delay timer is not read or is the same;
* `margin_step`, `timer_steps` — an instruction sets a timer only if its operation says so, and
  `toNat_timer_tick` — a tick counts it down;
* `State.setDrawEndsBatch`, `Steps.setDrawEndsBatch` — the switch alone.
-/

/-- The two timers. -/
inductive Timer
  | delay
  | sound

/-- The operation that sets a timer. -/
def Timer.setter : Timer → Operation
  | delay => .setDelay
  | sound => .setSound

/-- The timers, the fault record and the switch with which draws end batches. -/
structure Margin where
  delay : UInt8
  sound : UInt8
  fault : FaultRecord
  drawEndsBatch : Bool

/-- The same parts after an operation on the state `s`: two operations set a timer. -/
def Margin.after (x : Margin) (op : Operation) (w : Word) (s : State) : Margin :=
  { x with
    delay := if op = .setDelay then s.reg (Word.x w) else x.delay
    sound := if op = .setSound then s.reg (Word.x w) else x.sound }

namespace State

variable {s t : State} {x : Margin}

/-- These parts of a state. -/
def margin (s : State) : Margin := ⟨s.delay, s.sound, s.fault, s.dialect.drawEndsBatch⟩

/-- The state with others in their place. -/
def withMargin (s : State) (x : Margin) : State :=
  { s with
    delay := x.delay
    sound := x.sound
    fault := x.fault
    dialect := { s.dialect with drawEndsBatch := x.drawEndsBatch } }

@[simp] theorem withMargin_margin (s : State) : s.withMargin s.margin = s := rfl

/-- What a timer holds. -/
def timer (s : State) : Timer → UInt8
  | .delay => s.delay
  | .sound => s.sound

/-- A tick takes one away from each timer that is not zero. -/
theorem toNat_timer_tick (s : State) (timer : Timer) :
    (s.tick.timer timer).toNat = (s.timer timer).toNat - 1 := by
  cases timer with
  | delay => exact toNat_delay_tick s
  | sound => exact toNat_delay_tick { s with delay := s.sound }

/-! ### Shared steps -/

theorem skipIf_withMargin (s : State) (x : Margin) (condition : Bool) :
    (s.withMargin x).skipIf condition = (s.skipIf condition).withMargin x := by
  cases condition <;> rfl

theorem setLogic_withMargin (s : State) (x : Margin) (r : Fin 16) (value : UInt8) :
    (s.withMargin x).setLogic r value = (s.setLogic r value).withMargin x := by
  show (if s.dialect.logicResetsVf then _ else _) = _
  rw [setLogic]
  split <;> rfl

theorem awaitKey_withMargin (s : State) (x : Margin) (r : Fin 16) :
    (s.withMargin x).awaitKey r = (s.awaitKey r).withMargin x := by
  have hkey : (s.withMargin x).lowestKey? = s.lowestKey? := rfl
  simp only [awaitKey, hkey]
  split <;> rfl

/-- Whether an access runs into a trap depends on I only. -/
theorem accessing_withMargin {next other : State} {y : Margin} (h : other = next.withMargin y)
    (length : Nat) :
    (s.withMargin x).accessing length other = (s.accessing length next).map (·.withMargin y) := by
  have hindex : (s.withMargin x).index = s.index := rfl
  simp only [accessing, hindex, h]
  split <;> rfl

/-! ### Operations -/

section

variable {op : Operation} {w : Word} {byte : UInt8}

/-- An operation does the same to the rest of the state, whatever these parts are.  The one that
    reads the delay timer does so if the timer is the same. -/
theorem effect_withMargin (hread : op = .readDelay → x.delay = s.delay) :
    op.effect w byte (s.withMargin x) =
      (op.effect w byte s).map (·.withMargin (x.after op w s)) := by
  have hstack : (s.withMargin x).stack = s.stack := rfl
  have hpc : (s.withMargin x).pc = s.pc := rfl
  cases op
  case ret =>
    simp only [Operation.effect, hstack]
    split <;> rfl
  case call =>
    simp only [Operation.effect, hstack, hpc]
    split <;> rfl
  case readDelay =>
    have hdelay : (s.withMargin x).delay = s.delay := hread rfl
    simp only [Operation.effect, hdelay]
    rfl
  case draw | storeDecimal | storeRegisters | loadRegisters =>
    simp only [Operation.effect]
    apply accessing_withMargin
    rfl
  -- The others cannot trap.  They go through one of the shared steps, or write single parts.
  all_goals
    first
    | rfl
    | exact congrArg Except.ok (skipIf_withMargin ..)
    | exact congrArg Except.ok (setLogic_withMargin ..)
    | exact congrArg Except.ok (awaitKey_withMargin ..)

/-- What an operation makes of these parts of the state. -/
theorem margin_effect (h : op.effect w byte s = .ok t) : t.margin = s.margin.after op w s := by
  have hsame : op.effect w byte (s.withMargin s.margin) = _ := effect_withMargin fun _ => rfl
  rw [withMargin_margin, h] at hsame
  exact congrArg margin (Except.ok.inj hsame)

/-- A random byte is drawn from the same place. -/
theorem run_withMargin (hread : op = .readDelay → x.delay = s.delay) (source : ByteSource) :
    op.run w (s.withMargin x) source =
      ((op.run w s source).1.map (·.withMargin (x.after op w s)), (op.run w s source).2) := by
  unfold Operation.run
  split
  · next hrandom =>
    subst hrandom
    rfl
  · exact congrArg (·, source) (effect_withMargin hread)

end

/-! ### Single steps -/

section

variable {i : Instruction} {instructions : List Instruction} {source source' : ByteSource}

/-- A step that completes from a state completes from one that differs in these parts. -/
theorem step_withMargin (h : s.step source = (.ok (i, t), source'))
    (hread : i.op = .readDelay → x.delay = s.delay) :
    (s.withMargin x).step source =
      (.ok (i, t.withMargin (Margin.after { x with fault := .clear } i.op s.word s)), source') := by
  obtain ⟨hle, hi, hop, hrun⟩ := step_eq_ok h
  have hother := run_withMargin (s := s.fetched) (x := { x with fault := .clear }) (w := s.word)
    hread source
  rw [hrun] at hother
  have hstep := step_of_run (s := s.withMargin x) hle hop hother
  rw [hstep]
  exact congrArg (fun j => (Except.ok (j, _), source')) hi.symm

/-- What a completed step makes of these parts of the state. -/
theorem margin_step (h : s.step source = (.ok (i, t), source')) :
    t.margin = Margin.after { s.margin with fault := .clear } i.op s.word s := by
  obtain ⟨byte, key, heffect⟩ := effect_of_step h
  exact margin_effect heffect

/-- A run completes the same instructions from a state that differs in these parts, if none of them
    reads the delay timer. -/
theorem Steps.withMargin (h : s.Steps source instructions t source')
    (hread : ∀ i ∈ instructions, i.op ≠ .readDelay) (x : Margin) :
    ∃ y, (s.withMargin x).Steps source instructions (t.withMargin y) source' := by
  induction h generalizing x with
  | nil => exact ⟨x, .nil _ _⟩
  | @cons s t u source source' source'' i rest first _ ih =>
    have hfirst := step_withMargin (x := x) first fun hop => absurd hop (hread i List.mem_cons_self)
    obtain ⟨y, hrest⟩ := ih (fun j hj => hread j (List.mem_cons_of_mem i hj)) _
    exact ⟨y, .cons hfirst hrest⟩

/-- A run sets a timer only by an instruction that says so. -/
theorem timer_steps (h : s.Steps source instructions t source') {timer : Timer}
    (hset : ∀ i ∈ instructions, i.op ≠ timer.setter) : t.timer timer = s.timer timer := by
  induction h with
  | nil => rfl
  | @cons s t u source source' source'' i rest first _ ih =>
    have hmargin := margin_step first
    have hfirst : t.timer timer = s.timer timer := by
      have hi := hset i List.mem_cons_self
      cases timer with
      | delay => exact (congrArg Margin.delay hmargin).trans (if_neg hi)
      | sound => exact (congrArg Margin.sound hmargin).trans (if_neg hi)
    rw [ih fun j hj => hset j (List.mem_cons_of_mem i hj), hfirst]

/-! ### The switch with which draws end batches -/

/-- The state in a dialect where draws end batches, or in one where they do not. -/
def setDrawEndsBatch (s : State) (on : Bool) : State :=
  { s with dialect := { s.dialect with drawEndsBatch := on } }

/-- A state is in its own dialect. -/
theorem setDrawEndsBatch_eq_self {on : Bool} (h : s.dialect.drawEndsBatch = on) :
    s.setDrawEndsBatch on = s := by
  subst h
  rfl

/-- A step is the same in both dialects. -/
theorem step_setDrawEndsBatch (h : s.step source = (.ok (i, t), source')) (on : Bool) :
    (s.setDrawEndsBatch on).step source = (.ok (i, t.setDrawEndsBatch on), source') := by
  have hstep := step_withMargin (x := { s.margin with drawEndsBatch := on }) h fun _ => rfl
  have hmargin := margin_step h
  have hother : t.setDrawEndsBatch on = t.withMargin { t.margin with drawEndsBatch := on } := rfl
  rw [hother, hmargin]
  exact hstep

/-- A run of single steps is the same in both dialects. -/
theorem Steps.setDrawEndsBatch (h : s.Steps source instructions t source') (on : Bool) :
    (s.setDrawEndsBatch on).Steps source instructions (t.setDrawEndsBatch on) source' := by
  induction h with
  | nil => exact .nil _ _
  | cons first _ ih => exact .cons (step_setDrawEndsBatch first on) ih

end

end State

end Chip8
