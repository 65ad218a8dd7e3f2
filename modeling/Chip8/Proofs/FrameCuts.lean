import Chip8.Proofs.FirstFault
import Chip8.Proofs.Frame
import Chip8.Proofs.Indifference
import Chip8.Proofs.Trace
import Mathlib.Algebra.GroupWithZero.Nat

namespace Chip8

/-!
# Budgets cut into frames

A host can give a machine its budget in one frame or cut it into several.  Only the timers can tell:
they tick at the end of every frame.

* `Machine.completed`, `Machine.completedAll` — what the operations of a machine complete;
* `frame_of_steps`, `frame_completes` — when no draw ends a batch, a frame that does not fault
  completes its whole budget;
* `Cuts` — frames that one frame can make up for, `Cuts.cons` — the first of them and the others;
* `exists_steps_frames` — such frames are one run of single steps, but for the timers;
* `toNat_timer_frames` — a timer that is not set counts them;
* `frames_eq_frame_sum` — they leave what one frame with the sum of their budgets leaves.
-/

namespace Machine

variable {m : Machine}

/-! ### What a machine completes -/

/-- What an operation of a machine completes. -/
def completed (m : Machine) : Command → List Completion
  | .step => if m.loaded then m.state.trace m.source 1 else []
  | .frame count =>
    if 0 ≤ count ∧ m.loaded = true ∧ count < budgetLimit then
      m.state.completions count.toNat m.source
    else []
  | _ => []

/-- What several operations complete, each on the machine that the one before left. -/
def completedAll (m : Machine) : List Command → List Completion
  | [] => []
  | command :: rest => m.completed command ++ (m.perform command).machine.completedAll rest

/-- Frames with these budgets, one after the other. -/
def frames (budgets : List Nat) : List Command := budgets.map fun (n : Nat) => .frame n

/-- A frame comes before those that follow it on the machine that it leaves. -/
theorem frames_cons {n : Nat} {result : Except Error Answer} {next : Machine} {events : List Event}
    (h : m.frame n = ⟨result, next, events⟩) (rest : List Nat) :
    m.performAll (frames (n :: rest)) = m.frame n :: next.performAll (frames rest) ∧
      m.completedAll (frames (n :: rest)) =
        m.completed (.frame n) ++ next.completedAll (frames rest) ∧
      m.after (frames (n :: rest)) = next.after (frames rest) := by
  have hnext : (m.perform (.frame n)).machine = next := congrArg Reply.machine h
  subst hnext
  exact ⟨rfl, rfl, rfl⟩

/-! ### One frame -/

section

variable {n : Nat} (hloaded : m.loaded = true) (hoff : m.state.dialect.drawEndsBatch = false)
  (hlimit : n < budgetLimit)
include hloaded hoff hlimit

/-- A frame whose budget is used up by single steps completes them, and leaves what they leave with
    the timers ticked. -/
theorem frame_of_steps {instructions : List Instruction} {u : State} {source : ByteSource}
    (hrun : m.state.Steps m.source instructions u source) (hlength : instructions.length = n) :
    m.frame n =
        ⟨.ok (.executed n),
          { m with state := ({ u with fault := .clear } : State).tick, source := source }, []⟩ ∧
      (m.completed (.frame n)).map (·.instruction) = instructions := by
  have h₀ : (0 : Int) ≤ n := by omega
  have h₁ : (n : Int) < budgetLimit := by omega
  have hdraw : m.state.dialect.drawEndsBatch = true → ∀ i ∈ instructions, i.op ≠ .draw := by
    rw [hoff]
    exact nofun
  have hbatch := State.runBatch_of_steps hrun hdraw 0
  simp only [hlength, State.runBatch_zero, Nat.add_zero] at hbatch
  constructor
  · have hstate : (m.state.runBatch (n : Int).toNat m.source).state = { u with fault := .clear } := by
      rw [Int.toNat_natCast, hbatch]
    rw [frame_of_clear h₀ hloaded h₁ hstate, Int.toNat_natCast, hbatch]
  · rw [completed, if_pos ⟨h₀, hloaded, h₁⟩, Int.toNat_natCast, State.completions, hbatch, ← hlength]
    exact State.instructions_trace hrun

/-- A frame that does not fault completes its whole budget.  The machine that it leaves can run more
    frames of the kind. -/
theorem frame_completes (hok : ∀ fault, (m.frame n).result ≠ .error (.fault fault)) :
    ∃ u next,
      m.state.Steps m.source ((m.completed (.frame n)).map (·.instruction)) u next.source ∧
        (m.completed (.frame n)).length = n ∧ m.frame n = ⟨.ok (.executed n), next, []⟩ ∧
        next = { m with state := ({ u with fault := .clear } : State).tick, source := next.source } ∧
        next.loaded = true ∧ next.state.dialect.drawEndsBatch = false := by
  obtain ⟨instructions, u, source, hrun, -, -, -, -, ⟨hended, -⟩ | ⟨-, -, hfault, -⟩⟩ :=
    State.exists_steps_runBatch m.state n m.source
  · -- The batch ended by itself, and not because of a draw.
    have hlength : instructions.length = n := by
      rcases hended with hlength | ⟨hends, -⟩
      · exact hlength
      · rw [hoff] at hends
        exact nomatch hends
    obtain ⟨hframe, hcompleted⟩ := frame_of_steps hloaded hoff hlimit hrun hlength
    have hdialect : u.dialect.drawEndsBatch = false := by rw [State.dialect_steps hrun, hoff]
    refine ⟨u, _, ?_, ?_, hframe, rfl, hloaded, hdialect⟩
    · rw [hcompleted]
      exact hrun
    · rw [← List.length_map (·.instruction), hcompleted, hlength]
  · -- The batch was broken off, and the frame has failed.
    obtain ⟨fault, -, hrecord⟩ := hfault
    have hframe := frame_of_accepted (by omega : (0 : Int) ≤ n) hloaded
      (by omega : (n : Int) < budgetLimit)
    simp only [Int.toNat_natCast, State.runFrame, State.tick, hrecord] at hframe
    refine absurd ?_ (hok fault)
    rw [hframe]
    rfl

end

/-! ### Several frames -/

/-- Frames with these budgets can be made up for by one: there is a program, draws do not end
    batches, the budgets add up to one that a frame takes, and none of the frames faults. -/
structure Cuts (m : Machine) (budgets : List Nat) : Prop where
  loaded : m.loaded = true
  off : m.state.dialect.drawEndsBatch = false
  limit : budgets.sum < budgetLimit
  faultless : ∀ reply ∈ m.performAll (frames budgets), ∀ fault, reply.result ≠ .error (.fault fault)

/-- The first of these frames completes its whole budget, and the others are such frames on the
    machine that it leaves. -/
theorem Cuts.cons {n : Nat} {rest : List Nat} (h : m.Cuts (n :: rest)) :
    ∃ u next,
      m.state.Steps m.source ((m.completed (.frame n)).map (·.instruction)) u next.source ∧
        (m.completed (.frame n)).length = n ∧
        next = { m with state := ({ u with fault := .clear } : State).tick, source := next.source } ∧
        next.Cuts rest ∧
        m.performAll (frames (n :: rest)) =
          ⟨.ok (.executed n), next, []⟩ :: next.performAll (frames rest) ∧
        m.completedAll (frames (n :: rest)) =
          m.completed (.frame n) ++ next.completedAll (frames rest) ∧
        m.after (frames (n :: rest)) = next.after (frames rest) := by
  obtain ⟨hloaded, hoff, hlimit, hfaults⟩ := h
  rw [List.sum_cons] at hlimit
  obtain ⟨u, next, hrun, hlength, hframe, hnext, hready, hdialect⟩ :=
    frame_completes hloaded hoff (by omega : n < budgetLimit) (hfaults _ List.mem_cons_self)
  obtain ⟨hreplies, hcompleted, hafter⟩ := frames_cons hframe rest
  rw [hreplies, List.forall_mem_cons] at hfaults
  rw [hframe] at hreplies
  exact ⟨u, next, hrun, hlength, hnext, ⟨hready, hdialect, by omega, hfaults.2⟩, hreplies, hcompleted,
    hafter⟩

section

variable {budgets : List Nat}

/-- Such frames are one run of single steps, as long as the delay timer is not read.  The state that
    they leave is the one after these steps, but for the timers and the fault record. -/
theorem exists_steps_frames (h : m.Cuts budgets)
    (hreads : ∀ c ∈ m.completedAll (frames budgets), c.op ≠ .readDelay) :
    (m.performAll (frames budgets)).map (·.result) = budgets.map (fun n => .ok (.executed n)) ∧
      (m.completedAll (frames budgets)).length = budgets.sum ∧
      ∃ u source x,
        m.state.Steps m.source ((m.completedAll (frames budgets)).map (·.instruction)) u source ∧
          m.after (frames budgets) = { m with state := u.withMargin x, source := source } ∧
          x.drawEndsBatch = false ∧
          ((budgets = [] → m.state.fault = .clear) → x.fault = .clear) := by
  -- By induction on the budgets: the steps of the first frame come before those of the others.
  induction budgets generalizing m with
  | nil =>
    exact ⟨rfl, rfl, m.state, m.source, m.state.margin, .nil _ _, rfl, h.off, fun hfault => hfault rfl⟩
  | cons n rest ih =>
    obtain ⟨u, next, hrun, hlength, hnext, hcuts, hreplies, hcompleted, hafter⟩ := h.cons
    rw [hcompleted, List.forall_mem_append] at hreads
    obtain ⟨hresults, hcount, v, source', x, hrest, hlast, hx, hclear⟩ := ih hcuts hreads.2
    -- The other frames start from ticked timers, and nothing in their run looks at them.
    obtain ⟨y, hsteps⟩ := hrest.withMargin (List.forall_mem_map.mpr hreads.2) u.margin
    have hplace : next.state.withMargin u.margin = u := by rw [hnext]; rfl
    have hfault : next.state.fault = .clear := by rw [hnext]; rfl
    rw [hplace] at hsteps
    refine ⟨?_, ?_, v.withMargin y, source', x, ?_, ?_, hx, fun _ => hclear fun _ => hfault⟩
    · rw [hreplies, List.map_cons, List.map_cons, hresults]
    · rw [hcompleted, List.length_append, List.sum_cons, hlength, hcount]
    · rw [hcompleted, List.map_append]
      exact hrun.append hsteps
    · rw [hafter, hlast, hnext]
      rfl

/-- A timer that none of the frames sets counts them. -/
theorem toNat_timer_frames (h : m.Cuts budgets) {timer : Timer}
    (hset : ∀ c ∈ m.completedAll (frames budgets), c.op ≠ timer.setter) :
    ((m.after (frames budgets)).state.timer timer).toNat =
      (m.state.timer timer).toNat - budgets.length := by
  induction budgets generalizing m with
  | nil => rfl
  | cons n rest ih =>
    obtain ⟨u, next, hrun, -, hnext, hcuts, -, hcompleted, hafter⟩ := h.cons
    rw [hcompleted, List.forall_mem_append] at hset
    have hlater := ih hcuts hset.2
    -- The steps of the first frame leave the timer alone, so that its tick is all.
    have hnow : (next.state.timer timer).toNat = (m.state.timer timer).toNat - 1 := by
      rw [hnext, ← State.timer_steps hrun (List.forall_mem_map.mpr hset.1)]
      exact State.toNat_timer_tick _ timer
    rw [hafter, hlater, hnow, List.length_cons]
    omega

/-- **How a budget is cut into frames only shows in the timers.**  Take frames that do not fault, on
    a machine with a program, in a dialect where draws do not end batches.  If no instruction reads
    the delay timer, every frame completes its whole budget, and together they leave what one frame
    with the sum of the budgets leaves, the source of random bytes included.  The timers may differ:
    one that no instruction sets has counted the frames. -/
theorem frames_eq_frame_sum (hloaded : m.loaded = true)
    (hoff : m.state.dialect.drawEndsBatch = false) (hsum : budgets.sum < budgetLimit)
    (hfaults : ∀ reply ∈ m.performAll (frames budgets), ∀ fault,
      reply.result ≠ .error (.fault fault))
    (hne : budgets ≠ [])
    (hreads : ∀ c ∈ m.completedAll (frames budgets), c.op ≠ .readDelay) :
    let after := m.after (frames budgets)
    let whole := m.frame budgets.sum
    (m.performAll (frames budgets)).map (·.result) = budgets.map (fun n => .ok (.executed n)) ∧
      whole.result = .ok (.executed budgets.sum) ∧
      after =
        { whole.machine with
          state :=
            { whole.machine.state with delay := after.state.delay, sound := after.state.sound } } ∧
      ((∀ c ∈ m.completedAll (frames budgets), c.op ≠ .setDelay) →
        after.state.delay.toNat = m.state.delay.toNat - budgets.length) ∧
      ((∀ c ∈ m.completedAll (frames budgets), c.op ≠ .setSound) →
        after.state.sound.toNat = m.state.sound.toNat - budgets.length) := by
  intro after whole
  have hcuts : m.Cuts budgets := ⟨hloaded, hoff, hsum, hfaults⟩
  obtain ⟨hresults, hcount, u, source, x, hrun, hafter, hx, hclear⟩ := exists_steps_frames hcuts hreads
  -- One frame with the whole budget takes the same steps.
  have hlength : ((m.completedAll (frames budgets)).map (·.instruction)).length = budgets.sum := by
    rw [List.length_map, hcount]
  obtain ⟨hwhole, -⟩ := frame_of_steps hloaded hoff hsum hrun hlength
  have hfault : x.fault = .clear := hclear fun h => absurd h hne
  have hdialect : u.dialect.drawEndsBatch = x.drawEndsBatch := by
    rw [State.dialect_steps hrun, hoff, hx]
  refine ⟨hresults, congrArg Reply.result hwhole, ?_, fun hset => ?_, fun hset => ?_⟩
  · have hon : u.dialect = { u.dialect with drawEndsBatch := x.drawEndsBatch } := by rw [← hdialect]
    simp only [after, whole, hafter, hwhole, State.withMargin, State.tick, hfault, ← hon]
  · have hdelay : ∀ c ∈ m.completedAll (frames budgets), c.op ≠ Timer.delay.setter := hset
    exact toNat_timer_frames hcuts hdelay
  · have hsound : ∀ c ∈ m.completedAll (frames budgets), c.op ≠ Timer.sound.setter := hset
    exact toNat_timer_frames hcuts hsound

end

/-- Two frames of one instruction each, on a machine whose program stores random bytes of its
    host. -/
theorem frames_eq_frame_sum_random :
    let s : State :=
      { State.initial {} default with
        memory := ⟨Vector.replicate 4096 0xC1⟩
        delay := 5
        sound := 1 }
    let m : Machine := ⟨s, .feed (fun k => 7 * k + 3) 0, default, true⟩
    let after := m.after (frames [1, 1])
    let whole := m.frame 2
    (m.performAll (frames [1, 1])).map (·.result) = [.ok (.executed 1), .ok (.executed 1)] ∧
      whole.result = .ok (.executed 2) ∧
      after =
        { whole.machine with
          state :=
            { whole.machine.state with delay := after.state.delay, sound := after.state.sound } } ∧
      after.state.delay.toNat = 3 ∧ after.state.sound.toNat = 0 := by
  intro s m after whole
  -- Every word of the memory is that of one instruction, which needs a random byte.
  have hframe (p : Machine) (hloaded : p.loaded = true) (hoff : p.state.dialect.drawEndsBatch = false)
      (hmemory : p.state.memory = s.memory) (hpc : p.state.pc.toNat ≤ 0xFFE) :
      ∃ next, p.frame (1 : Nat) = ⟨.ok (.executed 1), next, []⟩ ∧
        (∀ c ∈ p.completed (.frame (1 : Nat)), c.op = .random) ∧
        next.loaded = true ∧ next.state.dialect = p.state.dialect ∧
        next.state.memory = s.memory ∧ next.state.pc = p.state.pc + 2 := by
    have hword : p.state.word = 0xC1C1 := by
      rw [State.word_eq_clampedWord]
      simp only [State.clampedWord, hmemory, s, Vector.getElem_replicate]
      rfl
    have hop : Operation.ofWord? p.state.word = some .random := by rw [hword]; decide
    have hrun : Operation.random.run p.state.word p.state.fetched p.source = (.ok _, _) := rfl
    have hstep := State.step_of_run hpc hop hrun
    obtain ⟨hvalue, hcompleted⟩ :=
      frame_of_steps (n := 1) hloaded hoff (by decide) (.cons hstep (.nil _ _)) rfl
    have hrandom : ∀ i ∈ (p.completed (.frame (1 : Nat))).map (·.instruction), i.op = .random := by
      rw [hcompleted]
      exact List.forall_mem_singleton.mpr rfl
    exact ⟨_, hvalue, List.forall_mem_map.mp hrandom, hloaded, rfl, hmemory, rfl⟩
  obtain ⟨next, hfirst, hrandom, hloaded, hdialect, hmemory, hpc⟩ := hframe m rfl rfl rfl (by decide)
  obtain ⟨last, hsecond, hrandom', -⟩ :=
    hframe next hloaded (by rw [hdialect]; rfl) hmemory (by rw [hpc]; decide)
  obtain ⟨hreplies, hcompleted, -⟩ := frames_cons hfirst [1]
  obtain ⟨hreplies', hcompleted', -⟩ := frames_cons hsecond []
  have hfaults : ∀ reply ∈ m.performAll (frames [1, 1]), ∀ fault,
      reply.result ≠ .error (.fault fault) := by
    rw [hreplies, hreplies', hfirst, hsecond]
    simp [performAll, frames]
  have hall (op : Operation) (hne : .random ≠ op) :
      ∀ c ∈ m.completedAll (frames [1, 1]), c.op ≠ op := by
    have hnone : last.completedAll (frames []) = [] := rfl
    rw [hcompleted, hcompleted', hnone, List.append_nil, List.forall_mem_append]
    exact ⟨fun c hc => hrandom c hc ▸ hne, fun c hc => hrandom' c hc ▸ hne⟩
  obtain ⟨hresults, hwhole, hafter, hdelay, hsound⟩ :=
    frames_eq_frame_sum (m := m) rfl rfl (by decide) hfaults (by decide)
      (hall .readDelay (by decide))
  exact ⟨hresults, hwhole, hafter, hdelay (hall .setDelay (by decide)),
    hsound (hall .setSound (by decide))⟩

end Machine

end Chip8
